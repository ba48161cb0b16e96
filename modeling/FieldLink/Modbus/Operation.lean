/-
  FieldLink.Modbus.Operation
  ────────────────────────────────
  **OPERATIONS AS DATA, AND RUNS OF THEM.**

  An `Operation` is one call on a session with its arguments, or a change
  that the world makes to the platform between two calls.  `Session.apply`
  performs one; `Session.run` performs a list of them, so that a statement
  about every history of a master is a statement about every list.
-/
import FieldLink.Run
import FieldLink.Modbus.Session

namespace FieldLink.Modbus

/-- A call on a session, or a change of the world around it. -/
inductive Operation (σ : Type) where
  /-- Connects to a device server. -/
  | connectTcp (remote : Remote)
  /-- Opens and configures a serial device. -/
  | connectRtu (path : String) (config : Serial.Config)
  /-- Closes the connection. -/
  | disconnect
  /-- Addresses another device. -/
  | setUnit (unit : UInt8)
  /-- Frames a function code and its data. -/
  | buildRequest (function : UInt8) (data : Octets)
  /-- Writes a frame. -/
  | sendRequest (frame : Octets)
  /-- Receives one response. -/
  | receiveResponse (timeoutMs : UInt32)
  /-- Reads items of a table. -/
  | read (table : DataTable) (address quantity : UInt16)
  /-- Writes items of a table. -/
  | write (table : DataTable) (address : UInt16) (values : Octets)
  /-- Writes coils. -/
  | writeCoils (address : UInt16) (coils : List Bool)
  /-- Writes holding registers. -/
  | writeRegisters (address : UInt16) (registers : List UInt16)
  /-- The platform changes without the master. -/
  | outside (change : σ → σ)

/-- What a successful operation gives back. -/
inductive Reply where
  /-- Nothing but the news that it is done. -/
  | done
  /-- A frame that was built. -/
  | frame (octets : Octets)
  /-- A response that was received. -/
  | response (response : Response)
deriving DecidableEq

namespace Session

variable {σ : Type} [OctetStream σ] [Dialer σ] [SerialBus σ]

/-- The first part of an outcome as a reply. -/
def replying {α : Type} (reply : α → Reply) (outcome : Except Fault α × Session σ) :
    Except Fault Reply × Session σ :=
  (outcome.1.map reply, outcome.2)

/-- Performs one operation. -/
def apply (session : Session σ) : Operation σ → Except Fault Reply × Session σ
  | .connectTcp remote => replying (fun _ => .done) (session.connectTcp remote)
  | .connectRtu path config => replying (fun _ => .done) (session.connectRtu path config)
  | .disconnect => replying (fun _ => .done) session.disconnect
  | .setUnit unit => (.ok .done, session.setUnit unit)
  | .buildRequest function data => replying .frame (session.buildRequest function data)
  | .sendRequest frame => replying (fun _ => .done) (session.sendRequest frame)
  | .receiveResponse timeoutMs => replying .response (session.receiveResponse timeoutMs)
  | .read table address quantity => replying .response (session.read table address quantity)
  | .write table address values =>
    replying (fun _ => .done) (session.write table address values)
  | .writeCoils address coils => replying (fun _ => .done) (session.writeCoils address coils)
  | .writeRegisters address registers =>
    replying (fun _ => .done) (session.writeRegisters address registers)
  | .outside change =>
    (.ok .done, { session with line := { session.line with platform := change session.line.platform } })

instance : Endpoint (Session σ) (Operation σ) Reply Master σ where
  device := master
  line := line
  apply := apply

/-- The session after a list of operations. -/
abbrev run (session : Session σ) (operations : List (Operation σ)) : Session σ :=
  Endpoint.run session operations

end Session

end FieldLink.Modbus
