/-
  FieldLink.Modbus.Frame
  ────────────────────────────────
  **FRAMES ON BOTH TRANSPORTS.**

  A unit of the protocol is a function code with its data, at most
  `maxPduLength` octets together.  Over TCP seven octets go in front of it
  (transaction, protocol 0, length of the unit, addressed device); over a
  serial line the addressed device goes in front and the checksum behind,
  low octet first.
-/
import FieldLink.Fault
import FieldLink.Modbus.Checksum

namespace FieldLink.Modbus

/-! ## §1. Sizes. -/

/-- Most octets in a function code with its data. -/
def maxPduLength : Nat := 253

/-- Octets in front of the function code over TCP. -/
def tcpHeaderLength : Nat := 7

/-- Most octets in a frame on either transport. -/
def maxFrameLength : Nat := tcpHeaderLength + maxPduLength

/-- Most octets in a serial frame. -/
def maxSerialFrameLength : Nat := 256

/-- Fewest octets in a serial frame: device, function, one octet of data, checksum. -/
def minSerialFrameLength : Nat := 5

/-! ## §2. Building. -/

namespace Frame

/-- A TCP frame.  The length in the header counts the function code and the data. -/
def tcp (transaction : UInt16) (unit function : UInt8) (data : Octets) : Except Fault Octets :=
  if maxPduLength < data.length + 1 then .error .capacityExceeded
  else
    .ok (Octets.big transaction ++ [0, 0] ++ Octets.big (UInt16.ofNat (data.length + 1))
      ++ unit :: function :: data)

/-- A frame body with its checksum behind it. -/
def withChecksum (body : Octets) : Octets := body ++ Octets.little (checksum body)

/-- A serial frame. -/
def rtu (unit function : UInt8) (data : Octets) : Except Fault Octets :=
  if maxPduLength < data.length + 1 then .error .capacityExceeded
  else .ok (withChecksum (unit :: function :: data))

/-! ## §3. Taking apart. -/

/-- What a TCP header says about the unit behind it. -/
structure Header where
  /-- The request that is answered. -/
  transaction : UInt16
  /-- Octets of the unit that follows. -/
  length : Nat
  /-- The answering device. -/
  unit : UInt8
deriving DecidableEq

/-- Reads a TCP header; the protocol is 0 and the unit neither empty nor too long. -/
def header : Octets → Except Fault Header
  | [t₁, t₀, p₁, p₀, l₁, l₀, unit] =>
    let length := (Octets.word l₁ l₀).toNat
    if Octets.word p₁ p₀ ≠ 0 ∨ length = 0 ∨ maxPduLength < length then .error .protocolViolation
    else .ok ⟨Octets.word t₁ t₀, length, unit⟩
  | _ => .error .protocolViolation

/-- The body of a serial frame whose checksum is right. -/
def stripChecksum (frame : Octets) : Except Fault Octets :=
  if frame.length < minSerialFrameLength then .error .protocolViolation
  else
    let body := frame.take (frame.length - 2)
    match frame.drop (frame.length - 2) with
    | [low, high] =>
      let carried := Octets.word high low
      let computed := checksum body
      if carried = computed then .ok body else .error (.checksumMismatch carried computed)
    | _ => .error .protocolViolation

end Frame

end FieldLink.Modbus
