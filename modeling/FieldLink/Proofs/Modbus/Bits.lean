/-
  FieldLink.Proofs.Modbus.Bits
  ────────────────────────────────
  **THE BITS OF AN OCTET STRING, LOWEST FIRST.**

  Coils travel as the bits of octets, and a serial line transmits every
  frame bit by bit; both go through an octet from its lowest bit on.  So
  one view serves both: the list of all bits, where the bit at place `i`
  is bit `i % 8` of octet `i / 8`.

      number_bits      — the bits of an octet are its binary digits
      getElem?_unpack  — which bit stands at which place
      unpack_inj       — the bits tell the octets
      unpack_pack      — packed coils, bit by bit
      pack_packs       — they stand at the places of their bits
-/
import Mathlib.Tactic.Ring
import FieldLink.Modbus.Coils

namespace FieldLink.Modbus.Coils

/-! ## §1. Numbers and their binary digits. -/

theorem number_lt (digits : List Bool) : number digits < 2 ^ digits.length := by
  induction digits with
  | nil => simp [number]
  | cons digit digits ih =>
    have hdigit := Bool.toNat_le digit
    rw [number, List.length_cons, Nat.pow_succ]
    omega

theorem number_append (low high : List Bool) :
    number (low ++ high) = number low + 2 ^ low.length * number high := by
  induction low with
  | nil => simp [number]
  | cons digit low ih =>
    rw [List.cons_append, number, number, ih, List.length_cons, Nat.pow_succ]
    ring

/-- The digits of a number are its bits. -/
theorem testBit_number (digits : List Bool) (i : Nat) :
    (number digits).testBit i = digits[i]?.getD false := by
  induction digits generalizing i with
  | nil => simp [number]
  | cons digit digits ih =>
    have hdigit := Bool.toNat_le digit
    rw [number]
    cases i with
    | zero =>
      rw [Nat.testBit_zero]
      cases digit <;> simp
    | succ i =>
      have hhalf : (digit.toNat + 2 * number digits) / 2 = number digits := by omega
      rw [Nat.testBit_succ, hhalf, ih, List.getElem?_cons_succ]

/-- Zeros behind the digits are no different from missing digits. -/
theorem getElem?_padded {digits : List Bool} {zeros i : Nat} (h : i < digits.length + zeros) :
    (digits ++ List.replicate zeros false)[i]? = some (digits[i]?.getD false) := by
  by_cases hdigit : i < digits.length
  · rw [List.getElem?_append_left hdigit, List.getElem?_eq_getElem hdigit]
    rfl
  · rw [List.getElem?_append_right (Nat.not_lt.mp hdigit),
      List.getElem?_eq_none (Nat.not_lt.mp hdigit), List.getElem?_replicate, if_pos (by omega)]
    rfl

/-- The first digit and the others stand apart. -/
theorem number_cons (digit : Bool) (digits : List Bool) :
    number (digit :: digits) = digit.toNat ^^^ 2 * number digits := by
  apply Nat.eq_of_testBit_eq
  intro i
  rw [testBit_number, Nat.testBit_xor]
  cases i with
  | zero => cases digit <;> simp
  | succ i =>
    rw [List.getElem?_cons_succ, Nat.testBit_succ, Nat.testBit_succ,
      Nat.mul_div_cancel_left _ (by decide), testBit_number]
    cases digit <;> simp

/-- Only zeros make the number zero. -/
theorem notMem_of_number_eq_zero {digits : List Bool} (h : number digits = 0) :
    true ∉ digits := by
  induction digits with
  | nil => exact List.not_mem_nil
  | cons digit digits ih =>
    rw [number] at h
    have hrest : number digits = 0 := by omega
    have hdigit : digit.toNat = 0 := by omega
    intro hmem
    rcases List.mem_cons.mp hmem with rfl | hmem
    · cases hdigit
    · exact ih hrest hmem

/-! ## §2. The bits of octets. -/

@[simp] theorem length_bits (octet : UInt8) : (bits octet).length = 8 := by
  simp [bits]

theorem getElem?_bits (octet : UInt8) {i : Nat} (h : i < 8) :
    (bits octet)[i]? = some (octet.toNat.testBit i) := by
  simp [bits, h]

/-- **The bits of an octet are its binary digits.** -/
theorem number_bits (octet : UInt8) : number (bits octet) = octet.toNat := by
  apply Nat.eq_of_testBit_eq
  intro i
  rw [testBit_number]
  by_cases hi : i < 8
  · rw [getElem?_bits octet hi]
    rfl
  · have hsmall : octet.toNat < 2 ^ i :=
      Nat.lt_of_lt_of_le octet.toNat_lt (Nat.pow_le_pow_right (by decide) (by omega))
    rw [Nat.testBit_lt_two_pow hsmall, List.getElem?_eq_none (by rw [length_bits]; omega)]
    rfl

theorem bits_inj {octet octet' : UInt8} (h : bits octet = bits octet') : octet = octet' := by
  apply UInt8.toNat_inj.mp
  rw [← number_bits, h, number_bits]

@[simp] theorem unpack_cons (octet : UInt8) (octets : Octets) :
    unpack (octet :: octets) = bits octet ++ unpack octets := rfl

@[simp] theorem unpack_append (before after : Octets) :
    unpack (before ++ after) = unpack before ++ unpack after := List.flatMap_append

@[simp] theorem length_unpack (octets : Octets) : (unpack octets).length = 8 * octets.length := by
  induction octets with
  | nil => rfl
  | cons octet octets ih =>
    rw [unpack_cons, List.length_append, length_bits, ih, List.length_cons]
    omega

/-- **At place `i` stands bit `i % 8` of octet `i / 8`.** -/
theorem getElem?_unpack (octets : Octets) (i : Nat) :
    (unpack octets)[i]? = octets[i / 8]?.map fun octet => octet.toNat.testBit (i % 8) := by
  induction octets generalizing i with
  | nil => rfl
  | cons octet octets ih =>
    rw [unpack_cons]
    by_cases hi : i < 8
    · have hplace : i / 8 = 0 := by omega
      have hbit : i % 8 = i := by omega
      rw [List.getElem?_append_left (by simp [hi]), getElem?_bits octet hi, hplace, hbit]
      rfl
    · have hplace : i / 8 = (i - 8) / 8 + 1 := by omega
      have hbit : (i - 8) % 8 = i % 8 := by omega
      rw [List.getElem?_append_right (by simp; omega), length_bits, ih, hplace, hbit,
        List.getElem?_cons_succ]

/-- **The bits tell the octets.** -/
theorem unpack_inj {octets octets' : Octets} (h : unpack octets = unpack octets') :
    octets = octets' := by
  induction octets generalizing octets' with
  | nil =>
    have hlength := congrArg List.length h
    rw [length_unpack, length_unpack, List.length_nil] at hlength
    exact (List.length_eq_zero_iff.mp (by omega)).symm
  | cons octet octets ih =>
    cases octets' with
    | nil =>
      have hlength := congrArg List.length h
      rw [length_unpack, length_unpack, List.length_cons, List.length_nil] at hlength
      omega
    | cons octet' octets' =>
      obtain ⟨hfirst, hrest⟩ := List.append_inj h (by rw [length_bits, length_bits])
      rw [bits_inj hfirst, ih hrest]

/-- The low octet of a word comes first on the line, and so do its low bits. -/
theorem number_unpack_little (word : UInt16) :
    number (unpack (Octets.little word)) = word.toNat := by
  have hword := word.toNat_lt
  rw [Octets.little, unpack_cons, number_append, number_bits, length_bits]
  rw [unpack_cons, number_append, number_bits, UInt8.toNat_ofNat', UInt8.toNat_ofNat']
  show _ + 2 ^ 8 * (_ + _ * 0) = _
  omega

/-! ## §3. Packed coils. -/

/-- Up to eight digits are the low bits of an octet, and its other bits are zero. -/
theorem bits_number {digits : List Bool} (h : digits.length ≤ 8) :
    bits (UInt8.ofNat (number digits))
      = digits ++ List.replicate (8 - digits.length) false := by
  have hsmall : number digits < 256 :=
    Nat.lt_of_lt_of_le (number_lt digits) (Nat.pow_le_pow_right (by decide) h)
  apply List.ext_getElem?
  intro i
  by_cases hi : i < 8
  · rw [getElem?_bits _ hi, UInt8.toNat_ofNat', Nat.mod_eq_of_lt hsmall, testBit_number,
      getElem?_padded (by omega)]
  · rw [List.getElem?_eq_none (by rw [length_bits]; omega),
      List.getElem?_eq_none (by rw [List.length_append, List.length_replicate]; omega)]

/-- **The bits of packed coils are the coils, up to the end of the last octet followed by zeros.** -/
theorem unpack_pack (coils : List Bool) :
    unpack (pack coils)
      = coils ++ List.replicate (8 * ((coils.length + 7) / 8) - coils.length) false := by
  -- an octet takes eight coils, so the induction goes from the list to what is left of it
  fun_induction pack coils with
  | case1 => rfl
  | case2 coil coils ih =>
    have hfirst : (coil :: coils.take 7).length ≤ 8 := by
      rw [List.length_cons, List.length_take]
      omega
    rw [unpack_cons, bits_number hfirst, ih, List.length_cons, List.length_cons, List.length_drop,
      List.length_take]
    by_cases hlast : coils.length ≤ 7
    · -- this octet is the last one
      rw [List.take_of_length_le hlast, List.drop_eq_nil_of_le hlast, List.nil_append,
        List.append_assoc, List.replicate_append_replicate]
      congr 2
      omega
    · -- this octet is full
      have hfull : 8 - (min 7 coils.length + 1) = 0 := by omega
      rw [hfull, List.replicate_zero, List.append_nil, ← List.append_assoc, List.cons_append,
        List.take_append_drop]
      congr 2
      omega

/-- Eight coils to an octet, and one more octet for the rest of them. -/
theorem length_pack (coils : List Bool) : (pack coils).length = (coils.length + 7) / 8 := by
  have hlength := congrArg List.length (unpack_pack coils)
  rw [length_unpack, List.length_append, List.length_replicate] at hlength
  omega

/-- An octet string holds these coils: it has as many octets as they need, and each coil stands at
its place.  Nothing is said about the bits beyond the last coil. -/
structure Packs (coils : List Bool) (octets : Octets) : Prop where
  /-- Eight coils to an octet, and one more octet for the rest of them. -/
  length_eq : octets.length = (coils.length + 7) / 8
  /-- The coil with number `i` is bit `i % 8` of octet `i / 8`. -/
  getElem?_eq : ∀ i < coils.length,
    coils[i]? = octets[i / 8]?.map fun octet => octet.toNat.testBit (i % 8)

/-- **Packing puts the coils at their places.** -/
theorem pack_packs (coils : List Bool) : Packs coils (pack coils) where
  length_eq := length_pack coils
  getElem?_eq i hi := by
    rw [← getElem?_unpack, unpack_pack, List.getElem?_append_left hi]

/-- **Coils are read back from where they stand.** -/
theorem Packs.take_unpack {coils : List Bool} {octets : Octets} (h : Packs coils octets) :
    (unpack octets).take coils.length = coils := by
  apply List.ext_getElem?
  intro i
  rw [List.getElem?_take]
  split
  · next hi => rw [getElem?_unpack, h.getElem?_eq i hi]
  · next hi => rw [List.getElem?_eq_none (by omega)]

end FieldLink.Modbus.Coils
