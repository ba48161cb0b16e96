/-
  FieldLink.Modbus.Checksum
  ────────────────────────────────
  **THE CYCLIC CHECKSUM OF SERIAL FRAMES.**

  The register starts with all bits set.  Each octet is added to its low
  half, and eight shift steps follow: a step drops the lowest bit and adds
  the polynomial if that bit was set.
-/
import FieldLink.Octets

namespace FieldLink.Modbus

namespace Checksum

/-- The generator polynomial, lowest power in the highest bit. -/
def polynomial : UInt16 := 0xA001

/-- The register before the first octet. -/
def start : UInt16 := 0xFFFF

/-- One shift step. -/
def shift (register : UInt16) : UInt16 :=
  if register &&& 1 = 0 then register >>> 1 else (register >>> 1) ^^^ polynomial

/-- A number of shift steps. -/
def shifts : Nat → UInt16 → UInt16
  | 0, register => register
  | steps + 1, register => shifts steps (shift register)

/-- Takes one octet into the register. -/
def feed (register : UInt16) (octet : UInt8) : UInt16 := shifts 8 (register ^^^ octet.toUInt16)

end Checksum

/-- The checksum of an octet string. -/
def checksum (octets : Octets) : UInt16 := octets.foldl Checksum.feed Checksum.start

end FieldLink.Modbus
