/-
  FieldLink.Proofs.Modbus.Remainder
  ────────────────────────────────
  **THE CHECKSUM AS A REMAINDER.**

  Bits are read as the coefficients of a polynomial over the field of two
  elements, the first bit as that of the highest power.  The register is
  read so too, from its lowest bit on: the bit that a step drops is the one
  of the highest power.  Then a step is a multiplication by `X`, and the
  polynomial of the register is added where the power 16 would come up:

      residue_shift         — a step multiplies by `X`, up to the generator
      dvd_absorb            — what the bits leave in the register is what
                              they are themselves, up to the generator
      remainder_eq_residue  — so the register holds the remainder
      checksum_is_remainder — bit by bit, for every octet string
-/
import Mathlib.Algebra.CharP.Two
import Mathlib.Algebra.Field.ZMod
import Mathlib.Algebra.Polynomial.Div
import Mathlib.Tactic.Ring
import FieldLink.Proofs.Modbus.Register

namespace FieldLink.Modbus.Checksum

open Polynomial
open Coils (unpack)

/-! ## §1. Bits as polynomials. -/

/-- The polynomial with these bits as its coefficients: the first one is that of the highest power,
the last one that of the power 0. -/
noncomputable def polynomialOf : List Bool → (ZMod 2)[X]
  | [] => 0
  | digit :: digits => (if digit then X ^ digits.length else 0) + polynomialOf digits

/-- The generator of the code. -/
noncomputable def generator : (ZMod 2)[X] := X ^ 16 + X ^ 15 + X ^ 2 + 1

/-- All powers that a remainder can have. -/
noncomputable def allOnes : (ZMod 2)[X] := ∑ power ∈ Finset.range 16, X ^ power

/-- **Which coefficient a bit is**, counted from the last bit on. -/
theorem coeff_polynomialOf (digits : List Bool) (power : Nat) :
    (polynomialOf digits).coeff power = if digits.reverse[power]? = some true then 1 else 0 := by
  induction digits with
  | nil => rfl
  | cons digit digits ih =>
    have hlead : (if digit then X ^ digits.length else (0 : (ZMod 2)[X])).coeff power
        = if digit = true ∧ power = digits.length then 1 else 0 := by
      cases digit <;> simp [coeff_X_pow]
    rw [polynomialOf, coeff_add, hlead, ih, List.reverse_cons]
    rcases Nat.lt_trichotomy power digits.length with hlt | rfl | hgt
    · rw [List.getElem?_append_left (by simpa using hlt), if_neg (fun h => hlt.ne h.2), zero_add]
    · simp
    · have hnone : digits.reverse[power]? = none :=
        List.getElem?_eq_none (by simpa using hgt.le)
      have hnone' : (digits.reverse ++ [digit])[power]? = none :=
        List.getElem?_eq_none (by simpa using hgt)
      simp [hnone, hnone', hgt.ne']

/-! ## §2. The register as a polynomial. -/

/-- The polynomial that the register stands for: its lowest bit is the coefficient of the highest
power, 15. -/
noncomputable def residue (register : UInt16) : (ZMod 2)[X] :=
  polynomialOf ((List.range 16).map register.toNat.testBit)

theorem coeff_residue (register : UInt16) (power : Nat) :
    (residue register).coeff power
      = if power < 16 ∧ register.toNat.testBit (15 - power) = true then 1 else 0 := by
  rw [residue, coeff_polynomialOf]
  by_cases hpower : power < 16
  · rw [List.getElem?_reverse (by simpa using hpower), List.getElem?_map, List.length_map,
      List.length_range, List.getElem?_range (by omega)]
    simp [hpower]
  · rw [List.getElem?_eq_none (by simpa using hpower)]
    simp [hpower]

theorem degree_residue_lt (register : UInt16) : (residue register).degree < (16 : Nat) := by
  apply (degree_lt_iff_coeff_zero _ _).mpr
  intro power hpower
  rw [coeff_residue, if_neg (by omega)]

/-- Exclusive or is addition. -/
theorem residue_xor (register register' : UInt16) :
    residue (register ^^^ register') = residue register + residue register' := by
  ext power
  rw [coeff_add, coeff_residue, coeff_residue, coeff_residue, UInt16.toNat_xor, Nat.testBit_xor]
  by_cases hpower : power < 16
  · simp only [hpower, true_and]
    cases register.toNat.testBit (15 - power) <;>
      cases register'.toNat.testBit (15 - power) <;> decide
  · simp [hpower]

/-- Halving multiplies by `X`, but for the bit that it drops. -/
theorem X_mul_residue (register : UInt16) :
    X * residue register
      = residue (register >>> 1) + if register.toNat % 2 = 1 then X ^ 16 else 0 := by
  have hhigh : register.toNat.testBit 16 = false := Nat.testBit_lt_two_pow register.toNat_lt
  have hdropped : ∀ power,
      (if register.toNat % 2 = 1 then X ^ 16 else (0 : (ZMod 2)[X])).coeff power
        = if power = 16 ∧ register.toNat.testBit 0 = true then 1 else 0 := by
    intro power
    by_cases h : register.toNat % 2 = 1
    · simp [h, coeff_X_pow]
    · simp [h]
  ext power
  rw [coeff_add, coeff_residue, hdropped, toNat_half, ← Nat.testBit_succ]
  cases power with
  | zero => simp [hhigh]
  | succ power =>
    rw [coeff_X_mul, coeff_residue]
    rcases Nat.lt_trichotomy power 15 with hlt | rfl | hgt
    · have hplace : (15 - (power + 1)).succ = 15 - power := by omega
      rw [hplace]
      simp [show power < 16 by omega, show power + 1 < 16 by omega, show power ≠ 15 by omega]
    · simp
    · simp [show ¬ power < 16 by omega, show ¬ power + 1 < 16 by omega, show power ≠ 15 by omega]

theorem residue_polynomial : residue polynomial = X ^ 15 + X ^ 2 + 1 := by
  have hdigits : (List.range 16).map polynomial.toNat.testBit
      = [true, false, false, false, false, false, false, false, false, false, false, false, false,
        true, false, true] := by
    decide
  rw [residue, hdigits]
  simp [polynomialOf, add_assoc]

theorem residue_start : residue start = allOnes := by
  have hdigits : (List.range 16).map start.toNat.testBit = List.replicate 16 true := by
    decide
  rw [residue, hdigits, allOnes]
  simp only [polynomialOf, List.replicate, Finset.sum_range_succ, List.length_cons, List.length_nil]
  simp only [if_true, Finset.range_zero, Finset.sum_empty]
  ring

/-- A single bit is added at the highest power. -/
theorem residue_digit (digit : Bool) :
    residue digit.toUInt16 = if digit then X ^ 15 else 0 := by
  have hdigits : (List.range 16).map digit.toUInt16.toNat.testBit
      = digit :: List.replicate 15 false := by
    cases digit <;> decide
  rw [residue, hdigits]
  simp [polynomialOf, List.replicate]

/-! ## §3. Steps and the remainder. -/

theorem generator_eq : generator = X ^ 16 + residue polynomial := by
  rw [residue_polynomial, generator]
  ring

theorem generator_monic : generator.Monic := by
  rw [generator_eq]
  exact monic_X_pow_add (degree_residue_lt polynomial)

theorem degree_generator : generator.degree = (16 : Nat) := by
  have hlead : (X ^ 16 : (ZMod 2)[X]).degree = (16 : Nat) := degree_X_pow 16
  rw [generator_eq, degree_add_eq_left_of_degree_lt, hlead]
  rw [hlead]
  exact degree_residue_lt polynomial

/-- **A step multiplies by `X`**, and adds the generator if the highest power came up. -/
theorem residue_shift (register : UInt16) :
    residue (shift register)
      = X * residue register + if register.toNat % 2 = 1 then generator else 0 := by
  have hzero : residue 0 = 0 := by
    have hself := residue_xor 0 0
    rwa [UInt16.xor_self, CharTwo.add_self_eq_zero] at hself
  rw [shift_eq, residue_xor, X_mul_residue]
  split
  · -- the power 16 comes up twice, once in each summand
    rw [generator_eq, add_assoc, ← add_assoc (X ^ 16), CharTwo.add_self_eq_zero, zero_add]
  · rw [hzero, add_zero, add_zero]

/-- **What bits leave in the register is what they are themselves**, up to the generator, behind
what the register held before. -/
theorem dvd_absorb (register : UInt16) (digits : List Bool) :
    generator ∣ X ^ digits.length * residue register + polynomialOf digits * X ^ 16
      - residue (absorb register digits) := by
  induction digits generalizing register with
  | nil =>
    show generator ∣ X ^ 0 * residue register + 0 * X ^ 16 - residue register
    rw [pow_zero, one_mul, zero_mul, add_zero, sub_self]
    exact dvd_zero generator
  | cons digit digits ih =>
    -- the first bit goes into the register at the power 15, and the step takes it to the power 16
    have hrest := ih (shift (register ^^^ digit.toUInt16))
    rw [residue_shift, residue_xor, residue_digit] at hrest
    show generator ∣ X ^ (digits.length + 1) * residue register
      + ((if digit then X ^ digits.length else 0) + polynomialOf digits) * X ^ 16
      - residue (absorb (shift (register ^^^ digit.toUInt16)) digits)
    generalize residue (absorb (shift (register ^^^ digit.toUInt16)) digits) = left at hrest ⊢
    generalize hcarry : (if (register ^^^ digit.toUInt16).toNat % 2 = 1 then generator else 0)
      = carry at hrest
    have hmultiple : generator ∣ carry := by
      rw [← hcarry]
      split
      · exact dvd_rfl
      · exact dvd_zero generator
    have hsplit : X ^ (digits.length + 1) * residue register
          + ((if digit then X ^ digits.length else 0) + polynomialOf digits) * X ^ 16 - left
        = X ^ digits.length * (X * (residue register + if digit then X ^ 15 else 0) + carry)
          + polynomialOf digits * X ^ 16 - left - X ^ digits.length * carry := by
      cases digit <;> simp only [if_true, Bool.false_eq_true, if_false] <;> ring
    rw [hsplit]
    exact dvd_sub hrest (Dvd.dvd.mul_left hmultiple _)

/-- **The register holds the remainder.** -/
theorem remainder_eq_residue (register : UInt16) (digits : List Bool) :
    (X ^ digits.length * residue register + polynomialOf digits * X ^ 16) %ₘ generator
      = residue (absorb register digits) := by
  rw [modByMonic_eq_of_dvd_sub generator_monic (dvd_absorb register digits)]
  apply (modByMonic_eq_self_iff generator_monic).mpr
  rw [degree_generator]
  exact degree_residue_lt _

/-- **The checksum is a remainder.**  Read the bits of an octet string, each octet from its lowest
bit on, as the coefficients of a polynomial; multiply it by the power 16, and add all ones in front
of it.  Of what division by the generator leaves of this, the coefficient of the power `15 - j` is
bit `j` of the checksum. -/
theorem checksum_is_remainder (octets : Octets) (j : Fin 16) :
    ((polynomialOf (unpack octets) * X ^ 16 + allOnes * X ^ (8 * octets.length))
        %ₘ generator).coeff (15 - j)
      = if (checksum octets).toNat.testBit j then 1 else 0 := by
  have hremainder := remainder_eq_residue start (unpack octets)
  rw [residue_start, ← checksum_eq_absorb, Coils.length_unpack] at hremainder
  rw [add_comm, mul_comm allOnes, hremainder, coeff_residue]
  have hplace : 15 - (15 - j.val) = j.val := by omega
  simp [hplace, show 15 - j.val < 16 by omega]

end FieldLink.Modbus.Checksum
