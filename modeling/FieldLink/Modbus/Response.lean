/-
  FieldLink.Modbus.Response
  ────────────────────────────────
  **WHAT A DEVICE ANSWERS.**

  A response is stripped of its framing: the answering device, the function
  code and the data.  It is never without a function code and never longer
  than a unit of the protocol, so the type says both.  The values of a read
  stand behind a count of their octets, which must be right.
-/
import FieldLink.Modbus.Frame
import FieldLink.Modbus.Request

namespace FieldLink.Modbus

/-- A response without its framing. -/
structure Response where
  /-- The answering device. -/
  unit : UInt8
  /-- The function code; its highest bit marks an exception. -/
  function : UInt8
  /-- What follows the function code. -/
  data : Octets
  /-- Function code and data fit into a unit of the protocol. -/
  data_fits : data.length + 1 ≤ maxPduLength
deriving DecidableEq

namespace Response

/-- Wraps a device and a unit of the protocol. -/
def ofPdu (unit : UInt8) : Octets → Except Fault Response
  | [] => .error .protocolViolation
  | function :: data =>
    if h : data.length + 1 ≤ maxPduLength then .ok ⟨unit, function, data, h⟩
    else .error .capacityExceeded

/-- Function code and data. -/
def pdu (response : Response) : Octets := response.function :: response.data

/-! ## §1. Exceptions. -/

/-- Marks the function code of an exception. -/
def exceptionFlag : UInt8 := 0x80

/-- Whether the device answered with an exception. -/
def isException (response : Response) : Bool := response.function &&& exceptionFlag ≠ 0

/-- The exception, if it is one: the function that failed, and the code in the first octet of
data. -/
def exception? (response : Response) : Option Fault :=
  if response.isException then
    some (.deviceException (response.function &&& ~~~exceptionFlag) (response.data.headD 0))
  else none

/-! ## §2. Values of a read. -/

/-- The values behind a right octet count. -/
def values (response : Response) : Except Fault Octets :=
  match response.data with
  | [] => .error .protocolViolation
  | count :: values =>
    if values.length = count.toNat then .ok values else .error .protocolViolation

/-- The words of an octet string of even length, high octets first. -/
def words : Octets → List UInt16
  | high :: low :: octets => Octets.word high low :: words octets
  | _ => []

/-- Most registers that a response is decoded to. -/
def maxDecodedRegisters : Nat := maxPduLength / 2

/-- The values as registers; there is room for as many as a unit of the protocol could hold. -/
def registers (response : Response) : Except Fault (List UInt16) :=
  match response.values with
  | .error fault => .error fault
  | .ok values =>
    if values.length % 2 ≠ 0 then .error .protocolViolation
    else if maxDecodedRegisters < (words values).length then .error .capacityExceeded
    else .ok (words values)

/-- The first values as bits; more bits than one read can ask for have no room. -/
def coils (quantity : Nat) (response : Response) : Except Fault (List Bool) :=
  match response.values with
  | .error fault => .error fault
  | .ok values =>
    if values.length * 8 < quantity then .error .protocolViolation
    else if maxReadBits < quantity then .error .capacityExceeded
    else .ok ((Coils.unpack values).take quantity)

end Response

end FieldLink.Modbus
