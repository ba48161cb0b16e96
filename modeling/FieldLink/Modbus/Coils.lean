/-
  FieldLink.Modbus.Coils
  ────────────────────────────────
  **COILS IN OCTETS, LOWEST BIT FIRST.**

  The first coil is bit 0 of the first octet, the ninth coil bit 0 of the
  second one; bits beyond the last coil are zero.
-/
import FieldLink.Octets

namespace FieldLink.Modbus.Coils

/-- The number whose binary digits are given, lowest first. -/
def number : List Bool → Nat
  | [] => 0
  | bit :: bits => bit.toNat + 2 * number bits

/-- Coils packed into octets, eight to an octet. -/
def pack : List Bool → Octets
  | [] => []
  | coil :: coils => UInt8.ofNat (number (coil :: coils.take 7)) :: pack (coils.drop 7)
termination_by coils => coils.length

/-- The eight bits of an octet, lowest first. -/
def bits (octet : UInt8) : List Bool := (List.range 8).map octet.toNat.testBit

/-- All bits of an octet string, in the order of the coils. -/
def unpack (octets : Octets) : List Bool := octets.flatMap bits

end FieldLink.Modbus.Coils
