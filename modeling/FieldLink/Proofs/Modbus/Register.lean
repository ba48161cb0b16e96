/-
  FieldLink.Proofs.Modbus.Register
  ────────────────────────────────
  **THE CHECKSUM REGISTER, BIT BY BIT.**

  The register takes octets, but what it does is best seen one bit at a
  time: add the bit at the low end and make one shift step (`absorb`).  A
  step is linear in exclusive or and loses nothing, and from these two
  facts follows all that a checksum can promise:

      shift_xor, shift_injective — one step
      checksum_eq_absorb         — octets are taken bit by bit
      absorb_xor                 — two strings differ in the register as
                                   the string of their differences does
      absorb_short               — up to sixteen bits are one word
      checksum_little            — a trailer leaves nothing in the register
                                   exactly if it is the checksum
      isOdd_absorb               — the register keeps count of odd and even
-/
import Mathlib.Data.List.Iterate
import Mathlib.Data.Nat.Bitwise
import Mathlib.Logic.Function.Iterate
import FieldLink.Modbus.Checksum
import FieldLink.Proofs.Modbus.Bits

namespace FieldLink.Modbus.Checksum

open Coils (number bits unpack)

/-! ## §1. One step. -/

/-- A step drops the lowest bit, and adds the polynomial if that bit was set. -/
theorem shift_eq (register : UInt16) :
    shift register = (register >>> 1) ^^^ (if register.toNat % 2 = 1 then polynomial else 0) := by
  have hlow : register &&& 1 = 0 ↔ ¬ register.toNat % 2 = 1 := by
    rw [← UInt16.toNat_inj, UInt16.toNat_and]
    show register.toNat &&& 1 = 0 ↔ _
    rw [Nat.and_one_is_mod]
    omega
  unfold shift
  by_cases h : register.toNat % 2 = 1
  · rw [if_neg (fun hzero => hlow.mp hzero h), if_pos h]
  · rw [if_pos (hlow.mpr h), if_neg h, UInt16.xor_zero]

/-- **A step is linear.** -/
theorem shift_xor (register register' : UInt16) :
    shift (register ^^^ register') = shift register ^^^ shift register' := by
  have hcancel : ∀ high high' : UInt16,
      high ^^^ high' = high ^^^ polynomial ^^^ (high' ^^^ polynomial) := by
    intro high high'
    rw [UInt16.xor_assoc high, ← UInt16.xor_assoc polynomial, UInt16.xor_comm polynomial,
      UInt16.xor_assoc high', UInt16.xor_self, UInt16.xor_zero]
  -- the polynomial is added to the sum if it is added to one of the two
  have hlow : (register ^^^ register').toNat % 2 = (register.toNat + register'.toNat) % 2 := by
    rw [UInt16.toNat_xor, Nat.xor_mod_two_eq]
  rw [shift_eq, shift_eq register, shift_eq register', UInt16.shiftRight_xor, hlow]
  by_cases h : register.toNat % 2 = 1 <;> by_cases h' : register'.toNat % 2 = 1
  · rw [if_neg (by omega), if_pos h, if_pos h', UInt16.xor_zero, hcancel]
  · rw [if_pos (by omega), if_pos h, if_neg h', UInt16.xor_zero]
    ac_rfl
  · rw [if_pos (by omega), if_neg h, if_pos h', UInt16.xor_zero]
    ac_rfl
  · rw [if_neg (by omega), if_neg h, if_neg h']
    simp only [UInt16.xor_zero]

@[simp] theorem shift_zero : shift 0 = 0 := by decide

theorem toNat_half (register : UInt16) : (register >>> 1).toNat = register.toNat / 2 := by
  rw [UInt16.toNat_shiftRight]
  exact Nat.shiftRight_one register.toNat

/-- The polynomial has its highest bit set, so an odd register never becomes zero. -/
theorem eq_zero_of_shift {register : UInt16} (h : shift register = 0) : register = 0 := by
  have hhalf := toNat_half register
  have hlt := register.toNat_lt
  rw [shift_eq, UInt16.xor_eq_zero_iff] at h
  rw [h] at hhalf
  apply UInt16.toNat_inj.mp
  show register.toNat = 0
  split at hhalf
  · have hpolynomial : polynomial.toNat = 40961 := rfl
    omega
  · have hzero : (0 : UInt16).toNat = 0 := rfl
    omega

/-- **A step loses nothing.** -/
theorem shift_injective : Function.Injective shift := by
  intro register register' h
  apply UInt16.xor_eq_zero_iff.mp
  apply eq_zero_of_shift
  rw [shift_xor, h, UInt16.xor_self]

theorem shifts_eq_iterate (steps : Nat) : shifts steps = shift^[steps] := by
  funext register
  induction steps generalizing register with
  | zero => rfl
  | succ steps ih => exact ih (shift register)

@[simp] theorem shifts_zero (steps : Nat) : shifts steps 0 = 0 := by
  rw [shifts_eq_iterate]
  exact Function.iterate_fixed shift_zero steps

theorem shifts_injective (steps : Nat) : Function.Injective (shifts steps) := by
  rw [shifts_eq_iterate]
  exact shift_injective.iterate steps

theorem shifts_eq_zero_iff {steps : Nat} {register : UInt16} :
    shifts steps register = 0 ↔ register = 0 := by
  constructor
  · intro h
    exact shifts_injective steps (h.trans (shifts_zero steps).symm)
  · rintro rfl
    exact shifts_zero steps

/-! ## §2. One bit after another. -/

/-- Takes bits into the register, with one step for each. -/
def absorb (register : UInt16) (digits : List Bool) : UInt16 :=
  digits.foldl (fun register digit => shift (register ^^^ digit.toUInt16)) register

@[simp] theorem absorb_cons (register : UInt16) (digit : Bool) (digits : List Bool) :
    absorb register (digit :: digits) = absorb (shift (register ^^^ digit.toUInt16)) digits := rfl

theorem absorb_append (register : UInt16) (before after : List Bool) :
    absorb register (before ++ after) = absorb (absorb register before) after :=
  List.foldl_append

/-- Zeros only make the steps. -/
theorem absorb_replicate_false (register : UInt16) (count : Nat) :
    absorb register (List.replicate count false) = shifts count register := by
  induction count generalizing register with
  | zero => rfl
  | succ count ih =>
    show absorb (shift (register ^^^ 0)) (List.replicate count false) = _
    rw [UInt16.xor_zero, ih]
    rfl

/-- **What two strings leave differs as the string of their differences leaves it.** -/
theorem absorb_xor {digits digits' : List Bool} (h : digits.length = digits'.length)
    (register register' : UInt16) :
    absorb (register ^^^ register') (List.zipWith xor digits digits')
      = absorb register digits ^^^ absorb register' digits' := by
  induction digits generalizing digits' register register' with
  | nil =>
    rw [List.length_nil] at h
    rw [List.length_eq_zero_iff.mp h.symm]
    rfl
  | cons digit digits ih =>
    cases digits' with
    | nil => cases h
    | cons digit' digits' =>
      have hdigit : (xor digit digit').toUInt16 = digit.toUInt16 ^^^ digit'.toUInt16 := by
        cases digit <;> cases digit' <;> rfl
      have hstep : shift (register ^^^ register' ^^^ (xor digit digit').toUInt16)
          = shift (register ^^^ digit.toUInt16) ^^^ shift (register' ^^^ digit'.toUInt16) := by
        rw [← shift_xor, hdigit]
        ac_rfl
      rw [List.zipWith_cons_cons, absorb_cons, hstep, absorb_cons, absorb_cons]
      exact ih (Nat.succ.inj h) _ _

/-- The lowest bit of an even number is clear, so a step halves it. -/
theorem shift_double {half : Nat} (h : 2 * half < 2 ^ 16) :
    shift (UInt16.ofNat (2 * half)) = UInt16.ofNat half := by
  have hvalue : (UInt16.ofNat (2 * half)).toNat = 2 * half := by
    rw [UInt16.toNat_ofNat', Nat.mod_eq_of_lt h]
  rw [shift_eq, if_neg (by omega), UInt16.xor_zero]
  apply UInt16.toNat_inj.mp
  rw [toNat_half, hvalue, UInt16.toNat_ofNat']
  omega

/-- **Up to sixteen bits are taken as one word**: added at once, before all of the steps. -/
theorem absorb_short {digits : List Bool} (h : digits.length ≤ 16) (register : UInt16) :
    absorb register digits
      = shifts digits.length (register ^^^ UInt16.ofNat (number digits)) := by
  induction digits generalizing register with
  | nil =>
    show register = register ^^^ 0
    rw [UInt16.xor_zero]
  | cons digit digits ih =>
    rw [List.length_cons] at h
    have hlt := Coils.number_lt digits
    have hpow : 2 ^ digits.length ≤ 2 ^ 15 := Nat.pow_le_pow_right (by decide) (by omega)
    -- the first bit and the others stand apart in the word
    have hsplit : UInt16.ofNat (number (digit :: digits))
        = digit.toUInt16 ^^^ UInt16.ofNat (2 * number digits) := by
      rw [Coils.number_cons, UInt16.ofNat_xor]
      cases digit <;> rfl
    rw [absorb_cons, ih (by omega), List.length_cons, hsplit, ← UInt16.xor_assoc]
    show _ = shifts digits.length (shift _)
    rw [shift_xor (register ^^^ digit.toUInt16), shift_double (by omega)]

/-! ## §3. Octets and their checksum. -/

/-- An octet is taken bit by bit, lowest bit first. -/
theorem feed_eq_absorb (register : UInt16) (octet : UInt8) :
    feed register octet = absorb register (bits octet) := by
  rw [absorb_short (by simp), Coils.length_bits, Coils.number_bits, UInt16.ofNat_uInt8ToNat]
  rfl

theorem foldl_feed (register : UInt16) (octets : Octets) :
    octets.foldl feed register = absorb register (unpack octets) := by
  induction octets generalizing register with
  | nil => rfl
  | cons octet octets ih =>
    rw [List.foldl_cons, ih, feed_eq_absorb, Coils.unpack_cons, absorb_append]

/-- **The checksum is what the bits leave in the register.** -/
theorem checksum_eq_absorb (octets : Octets) : checksum octets = absorb start (unpack octets) :=
  foldl_feed start octets

/-- **A trailer leaves nothing in the register exactly if it is the checksum.** -/
theorem checksum_little {body : Octets} {trailer : UInt16} :
    checksum (body ++ Octets.little trailer) = 0 ↔ trailer = checksum body := by
  rw [checksum_eq_absorb, Coils.unpack_append, absorb_append, ← checksum_eq_absorb,
    absorb_short (by simp), Coils.number_unpack_little, UInt16.ofNat_toNat, shifts_eq_zero_iff,
    UInt16.xor_eq_zero_iff, eq_comm]

/-! ## §4. Odd and even. -/

/-- Whether an odd number of bits is set. -/
def odd (digits : List Bool) : Bool := digits.foldr xor false

@[simp] theorem odd_nil : odd [] = false := rfl

@[simp] theorem odd_cons (digit : Bool) (digits : List Bool) :
    odd (digit :: digits) = xor digit (odd digits) := rfl

theorem odd_append (before after : List Bool) :
    odd (before ++ after) = xor (odd before) (odd after) := by
  induction before with
  | nil => exact (Bool.false_xor _).symm
  | cons digit before ih => rw [List.cons_append, odd_cons, odd_cons, ih, Bool.xor_assoc]

theorem odd_iff (digits : List Bool) : odd digits = true ↔ Odd (digits.count true) := by
  induction digits with
  | nil => simp
  | cons digit digits ih =>
    cases digit with
    | false => simpa using ih
    | true => simp [Nat.odd_add_one, ← ih]

theorem odd_map_xor {ι : Type} (places : List ι) (f g : ι → Bool) :
    odd (places.map fun i => xor (f i) (g i)) = xor (odd (places.map f)) (odd (places.map g)) := by
  induction places with
  | nil => rfl
  | cons i places ih =>
    rw [List.map_cons, List.map_cons, List.map_cons, odd_cons, odd_cons, odd_cons, ih,
      Bool.xor_assoc, Bool.xor_assoc, Bool.xor_left_comm (g i)]

/-- Whether an odd number of bits of the register is set. -/
def isOdd (register : UInt16) : Bool := odd ((List.range 16).map register.toNat.testBit)

theorem isOdd_xor (register register' : UInt16) :
    isOdd (register ^^^ register') = xor (isOdd register) (isOdd register') := by
  rw [isOdd, UInt16.toNat_xor, funext (Nat.testBit_xor register.toNat register'.toNat),
    odd_map_xor]
  rfl

/-- Halving drops the lowest bit. -/
theorem isOdd_half (register : UInt16) :
    isOdd (register >>> 1) = xor (register.toNat.testBit 0) (isOdd register) := by
  have hhigh : register.toNat.testBit 16 = false := Nat.testBit_lt_two_pow register.toNat_lt
  have hnext : ∀ i, (register.toNat / 2).testBit i = register.toNat.testBit (i + 1) :=
    fun i => (Nat.testBit_succ register.toNat i).symm
  -- of all seventeen places, one side lacks the last one and the other the first one
  have hlast : isOdd (register >>> 1)
      = odd ((List.range 15).map fun i => register.toNat.testBit (i + 1)) := by
    rw [isOdd, toNat_half, funext hnext, List.range_succ, List.map_append, odd_append]
    simp [hhigh]
  have hfirst : isOdd register = xor (register.toNat.testBit 0)
      (odd ((List.range 15).map fun i => register.toNat.testBit (i + 1))) := by
    rw [isOdd, List.range_succ_eq_map, List.map_cons, List.map_map]
    rfl
  rw [hlast, hfirst, ← Bool.xor_assoc, Bool.xor_self, Bool.false_xor]

/-- **A step keeps odd and even**: the polynomial, which has an odd number of bits, makes up for the
bit that is dropped. -/
theorem isOdd_shift (register : UInt16) : isOdd (shift register) = isOdd register := by
  have hpolynomial : isOdd polynomial = true := by decide
  have hzero : isOdd 0 = false := by decide
  rw [shift_eq, isOdd_xor, isOdd_half, Nat.testBit_zero]
  by_cases h : register.toNat % 2 = 1
  · rw [if_pos h, hpolynomial, decide_eq_true h]
    cases isOdd register <;> rfl
  · rw [if_neg h, hzero, decide_eq_false h]
    cases isOdd register <;> rfl

/-- **The register keeps count of odd and even.** -/
theorem isOdd_absorb (register : UInt16) (digits : List Bool) :
    isOdd (absorb register digits) = xor (isOdd register) (odd digits) := by
  induction digits generalizing register with
  | nil => exact (Bool.xor_false _).symm
  | cons digit digits ih =>
    have hdigit : isOdd digit.toUInt16 = digit := by
      cases digit <;> decide
    rw [absorb_cons, ih, isOdd_shift, isOdd_xor, hdigit, odd_cons, Bool.xor_assoc]

end FieldLink.Modbus.Checksum
