/-
  FieldLink.Modbus.Session
  ────────────────────────────────
  **A MODBUS MASTER AT WORK.**

  A master holds at most one connection, addresses one device at a time and
  numbers its TCP requests.  A `Session` is a master with the line it talks
  over; each operation takes a session and gives a result together with the
  session it leaves.

  No request is ever repeated.  When the octet stream fails, or a TCP header
  shows that it is out of step, the connection is closed; every other fault
  leaves it open.
-/
import FieldLink.Line.Transfer
import FieldLink.Remote
import FieldLink.Modbus.Response

namespace FieldLink.Modbus

/-! ## §1. The master. -/

/-- How frames are built on the open connection. -/
inductive Framing where
  /-- Behind a TCP header. -/
  | tcp
  /-- In front of a checksum. -/
  | rtu
deriving DecidableEq

/-- The device that is addressed unless another one is chosen. -/
def defaultUnit : UInt8 := 1

/-- Wait for an answer in reads and writes of tables, in milliseconds. -/
def defaultTimeoutMs : UInt32 := 1000

/-- The state of a master. -/
structure Master where
  /-- The framing of the open connection, if one is open. -/
  connection : Option Framing := none
  /-- The addressed device. -/
  unit : UInt8 := defaultUnit
  /-- Number of the last TCP request. -/
  transaction : UInt16 := 0
deriving DecidableEq

namespace Master

/-- Whether a connection is open. -/
def isConnected (master : Master) : Bool := master.connection.isSome

/-- The state in one word. -/
def stateName (master : Master) : String :=
  match master.connection with
  | none => "Disconnected"
  | some .tcp => "ConnectedTcp"
  | some .rtu => "ConnectedRtu"

/-- The master as one line of text. -/
def description (master : Master) : String :=
  "Client \x7b state: " ++ master.stateName ++ ", unit_id: " ++ toString master.unit.toNat
    ++ ", transaction_id: " ++ toString master.transaction.toNat ++ " \x7d"

end Master

/-- A master with the line it talks over. -/
structure Session (σ : Type) where
  /-- The master. -/
  master : Master := {}
  /-- The line. -/
  line : Line σ

namespace Session

variable {σ : Type} [OctetStream σ]

/-! ## §2. Opening and closing. -/

/-- Closes the connection if one is open. -/
def hangUp (session : Session σ) : Session σ :=
  if session.master.isConnected then
    { master := { session.master with connection := none }, line := session.line.close }
  else session

/-- Reports a fault after which the connection cannot be used. -/
def lose {α : Type} (fault : Fault) (session : Session σ) : Except Fault α × Session σ :=
  (.error fault, session.hangUp)

/-- Connects to a device server.  The old connection is closed once the address is known to be
good. -/
def connectTcp [Dialer σ] (remote : Remote) (session : Session σ) :
    Except Fault Unit × Session σ :=
  match remote.address with
  | .error fault => (.error fault, session)
  | .ok address =>
    let session := session.hangUp
    match session.line.dial address with
    | (false, line) => (.error .connectionRefused, { session with line := line })
    | (true, line) =>
      (.ok (), { master := { session.master with connection := some .tcp }, line := line })

/-- Opens and configures the serial device at a path, which must be among those that are
present.  The old connection is closed once the settings are known to be good. -/
def connectRtu [SerialBus σ] (path : String) (config : Serial.Config) (session : Session σ) :
    Except Fault Unit × Session σ :=
  match config.validate with
  | .error fault => (.error fault, session)
  | .ok () =>
    let session := session.hangUp
    match session.line.enumerate with
    | (none, line) => (.error .deviceNotFound, { session with line := line })
    | (some devices, line) =>
      match devices.find? (·.path = path) with
      | none => (.error .deviceNotFound, { session with line := line })
      | some device =>
        match line.openDevice device with
        | (false, line) => (.error .connectionRefused, { session with line := line })
        | (true, line) =>
          match line.configure config with
          | (.error fault, line) => (.error fault, { session with line := line.close })
          | (.ok (), line) =>
            (.ok (), { master := { session.master with connection := some .rtu }, line := line })

/-- Closes the connection. -/
def disconnect (session : Session σ) : Except Fault Unit × Session σ :=
  if session.master.isConnected then (.ok (), session.hangUp) else (.error .notOpen, session)

/-- Addresses another device from now on. -/
def setUnit (unit : UInt8) (session : Session σ) : Session σ :=
  { session with master := { session.master with unit := unit } }

/-! ## §3. Requests and responses. -/

/-- Frames a function code and its data.  A TCP request takes the next number first. -/
def buildRequest (function : UInt8) (data : Octets) (session : Session σ) :
    Except Fault Octets × Session σ :=
  match session.master.connection with
  | none => (.error .notOpen, session)
  | some .tcp =>
    let master := { session.master with transaction := session.master.transaction + 1 }
    (Frame.tcp master.transaction master.unit function data, { session with master := master })
  | some .rtu => (Frame.rtu session.master.unit function data, session)

/-- Writes a frame. -/
def sendRequest (frame : Octets) (session : Session σ) : Except Fault Unit × Session σ :=
  if session.master.isConnected then
    match session.line.writeAll frame with
    | (.ok (), line) => (.ok (), { session with line := line })
    | (.error fault, line) => lose fault { session with line := line }
  else (.error .notOpen, session)

/-- Reads a TCP header and the unit that it announces. -/
def receiveTcp (line : Line σ) : Except Fault (UInt16 × Response) × Line σ :=
  match line.readExact tcpHeaderLength with
  | (.error fault, line) => (.error fault, line)
  | (.ok octets, line) =>
    match Frame.header octets with
    | .error fault => (.error fault, line)
    | .ok header =>
      match line.readExact header.length with
      | (.error fault, line) => (.error fault, line)
      | (.ok pdu, line) =>
        (Response.ofPdu header.unit pdu |>.map (header.transaction, ·), line)

/-- Takes a serial frame from a single read and checks it. -/
def receiveRtu (line : Line σ) : Except Fault Response × Line σ :=
  match line.read maxSerialFrameLength with
  | (none, line) => (.error .timedOut, line)
  | (some [], line) => (.error .connectionClosed, line)
  | (some frame, line) =>
    match Frame.stripChecksum frame with
    | .error fault => (.error fault, line)
    | .ok [] => (.error .protocolViolation, line)
    | .ok (unit :: pdu) => (Response.ofPdu unit pdu, line)

/-- Receives one response.  Over TCP it must carry the number of the last request. -/
def receiveResponse (timeoutMs : UInt32) (session : Session σ) :
    Except Fault Response × Session σ :=
  match session.master.connection with
  | none => (.error .notOpen, session)
  | some framing =>
    match session.line.setTimeout timeoutMs with
    | (false, line) => lose .readFailed { session with line := line }
    | (true, line) =>
      match framing with
      | .tcp =>
        match receiveTcp line with
        | (.error fault, line) => lose fault { session with line := line }
        | (.ok (transaction, response), line) =>
          if transaction = session.master.transaction then
            (.ok response, { session with line := line })
          else (.error .protocolViolation, { session with line := line })
      | .rtu =>
        match receiveRtu line with
        | (.ok response, line) => (.ok response, { session with line := line })
        | (.error fault, line) =>
          if fault.kind = .transport then lose fault { session with line := line }
          else (.error fault, { session with line := line })

/-- Sends one request and waits for its response, which must be for the same function and from
the addressed device; an exception is reported as it comes. -/
def exchange (function : UInt8) (data : Octets) (session : Session σ) :
    Except Fault Response × Session σ :=
  match session.buildRequest function data with
  | (.error fault, session) => (.error fault, session)
  | (.ok frame, session) =>
    match session.sendRequest frame with
    | (.error fault, session) => (.error fault, session)
    | (.ok (), session) =>
      match session.receiveResponse defaultTimeoutMs with
      | (.error fault, session) => (.error fault, session)
      | (.ok response, session) =>
        match response.exception? with
        | some fault => (.error fault, session)
        | none =>
          if response.function = function ∧ response.unit = session.master.unit then
            (.ok response, session)
          else (.error .protocolViolation, session)

/-! ## §4. Tables. -/

/-- Reads items of a table. -/
def read (table : DataTable) (address quantity : UInt16) (session : Session σ) :
    Except Fault Response × Session σ :=
  if quantity = 0 ∨ table.maxRead < quantity.toNat then (.error .invalidArgument, session)
  else session.exchange table.readFunction (Request.read address quantity)

/-- Sends the data of a write, if there are any, and forgets the confirmation. -/
def confirm (function : UInt8) (data : Except Fault Octets) (session : Session σ) :
    Except Fault Unit × Session σ :=
  match data with
  | .error fault => (.error fault, session)
  | .ok data =>
    match session.exchange function data with
    | (.error fault, session) => (.error fault, session)
    | (.ok _, session) => (.ok (), session)

/-- Writes coils. -/
def writeCoils (address : UInt16) (coils : List Bool) (session : Session σ) :
    Except Fault Unit × Session σ :=
  session.confirm writeCoilsFunction (Request.writeCoils address coils)

/-- Writes items of a table: one octet for each coil, on if it is not zero, or the octets of
registers. -/
def write (table : DataTable) (address : UInt16) (values : Octets) (session : Session σ) :
    Except Fault Unit × Session σ :=
  match table.writeFunction with
  | none => (.error .unsupported, session)
  | some function =>
    session.confirm function <|
      if table = .coils then Request.writeCoils address (values.map (· ≠ 0))
      else Request.writeRegisters address values

/-- Writes holding registers; more than fit into the data of a request are not even tried. -/
def writeRegisters (address : UInt16) (registers : List UInt16) (session : Session σ) :
    Except Fault Unit × Session σ :=
  let octets := registers.flatMap Octets.big
  if maxPduLength - 1 < octets.length then (.error .invalidArgument, session)
  else session.write .holdingRegisters address octets

end Session

end FieldLink.Modbus
