/-
  FieldLink.Mqtt.RemainingLength
  ────────────────────────────────
  **THE LENGTH FIELD OF A PACKET.**

  The number of octets behind the field is written in base 128, lowest
  digit first; an octet with its high bit set has another one behind it.
  At most four octets are allowed.
-/
import FieldLink.Fault

namespace FieldLink.Mqtt.RemainingLength

/-- Largest number that four octets can carry. -/
def maximum : Nat := 268435455

/-- Most octets of the field. -/
def maxOctets : Nat := 4

/-- The base-128 digits of a number, with the mark that says another one follows. -/
def digits (n : Nat) : Octets :=
  if n < 128 then [UInt8.ofNat n] else UInt8.ofNat (n % 128 + 128) :: digits (n / 128)

/-- The field for a number of octets. -/
def encode (n : Nat) : Except Fault Octets :=
  if maximum < n then .error .invalidArgument else .ok (digits n)

/-- Reads a field of at most `allowed` octets from the front of a string. -/
def decodeWithin : Nat → Octets → Except Fault (Option (Nat × Nat))
  | 0, _ => .error .protocolViolation
  | _ + 1, [] => .ok none
  | allowed + 1, octet :: octets =>
    if octet < 128 then .ok (some (octet.toNat, 1))
    else
      match decodeWithin allowed octets with
      | .ok (some (n, used)) => .ok (some (octet.toNat % 128 + 128 * n, used + 1))
      | .ok none => .ok none
      | .error fault => .error fault

/-- Reads a field from the front of a string: the number and how many octets it took, or nothing
while more octets are needed. -/
def decode (octets : Octets) : Except Fault (Option (Nat × Nat)) := decodeWithin maxOctets octets

end FieldLink.Mqtt.RemainingLength
