/-
  FieldLink.Proofs.Mqtt.LengthField
  ────────────────────────────────
  **THE LENGTH FIELD IS WRITTEN AND READ EXACTLY.**

  The writer divides a number into digits, lowest first; the reader adds
  them up again and may stop at any of four octets.  They are compared in
  the middle, at the digits that a string begins with: the reader finds a
  whole field, or it runs out of octets, or it has seen four marked ones.
  A field need not be the shortest one for its number, but the writer
  writes no other:

      value_digits, isField_digits — what is written is a field for its number
      value_eq_ofDigits            — what a field stands for, in base 128
      exists_marked                — a string up to its first unmarked octet
      field_cases                  — the three things that a string can begin with
      length_digits_value_le       — no field is shorter than the written one
      length_field_exact           — both directions, for every number and string
-/
import Mathlib.Data.Nat.Digits.Defs
import FieldLink.Proofs.Mqtt.Assembly
import FieldLink.Proofs.Mqtt.ControlPacket

namespace FieldLink.Mqtt.RemainingLength

/-! ## §1. What is written. -/

/-- **The digits of a number stand for it.** -/
theorem value_digits (n : Nat) : value (digits n) = n := by
  fun_induction digits n with
  | case1 n hsmall =>
    rw [value, value, UInt8.toNat_ofNat']
    omega
  | case2 n hlarge ih =>
    -- the mark is 128, and the value takes each octet without it
    rw [value, ih, UInt8.toNat_ofNat']
    omega

/-- Every digit but the last one says that another one follows. -/
theorem digits_closed (n : Nat) :
    ∃ marked last, digits n = marked ++ [last] ∧ IsOpen marked ∧ last < 128 := by
  fun_induction digits n with
  | case1 n hsmall =>
    refine ⟨[], UInt8.ofNat n, rfl, nofun, ?_⟩
    rw [UInt8.lt_iff_toNat_lt, UInt8.toNat_ofNat']
    exact Nat.lt_of_le_of_lt (Nat.mod_le n _) hsmall
  | case2 n hlarge ih =>
    obtain ⟨marked, last, hdigits, hopen, hlast⟩ := ih
    refine ⟨UInt8.ofNat (n % 128 + 128) :: marked, last, by rw [hdigits]; rfl, ?_, hlast⟩
    have hmark : (128 : UInt8) ≤ UInt8.ofNat (n % 128 + 128) := by
      rw [UInt8.le_iff_toNat_le, UInt8.toNat_ofNat']
      show 128 ≤ _
      omega
    exact List.forall_mem_cons.mpr ⟨hmark, hopen⟩

theorem isField_digits {n : Nat} (h : n ≤ maximum) : IsField (digits n) := by
  have hmaximum : maximum = 268435455 := rfl
  exact ⟨length_digits_le (show n < 128 ^ (3 + 1) by omega), digits_closed n⟩

/-! ## §2. What a string begins with. -/

/-- Four marked octets: the field is longer than is allowed. -/
def IsOverlong (octets : Octets) : Prop := 4 ≤ octets.length ∧ IsOpen (octets.take 4)

/-- Too few octets, and all of them marked: the field goes on behind them. -/
def IsUnended (octets : Octets) : Prop := octets.length < 4 ∧ IsOpen octets

/-- The number that octets stand for is the one that they are the base-128 digits of. -/
theorem value_eq_ofDigits (octets : Octets) :
    value octets = Nat.ofDigits 128 (octets.map fun octet => octet.toNat % 128) := by
  induction octets with
  | nil => rfl
  | cons octet octets ih =>
    rw [value, ih, List.map_cons, Nat.ofDigits_cons]

/-- A string is marked up to its first unmarked octet, or to its end. -/
theorem exists_marked (octets : Octets) :
    ∃ marked rest, octets = marked ++ rest ∧ IsOpen marked
      ∧ (rest = [] ∨ ∃ last tail, rest = last :: tail ∧ last < 128) := by
  induction octets with
  | nil => exact ⟨[], [], rfl, nofun, .inl rfl⟩
  | cons octet octets ih =>
    by_cases hlast : octet < 128
    · exact ⟨[], octet :: octets, rfl, nofun, .inr ⟨octet, octets, rfl, hlast⟩⟩
    · obtain ⟨marked, rest, rfl, hopen, hrest⟩ := ih
      exact ⟨octet :: marked, rest, rfl,
        List.forall_mem_cons.mpr ⟨UInt8.not_lt.mp hlast, hopen⟩, hrest⟩

/-- **A string begins with a whole field, or with too many marked octets, or is the front of a
field.** -/
theorem field_cases (octets : Octets) :
    (∃ field rest, octets = field ++ rest ∧ IsField field)
      ∨ IsUnended octets ∨ IsOverlong octets := by
  -- what counts is how many marked octets there are in front, and whether another one follows
  obtain ⟨marked, rest, rfl, hopen, hrest⟩ := exists_marked octets
  by_cases hlong : 4 ≤ marked.length
  · -- the unmarked octet, if there is one, comes too late
    refine .inr (.inr ⟨by rw [List.length_append]; omega, ?_⟩)
    rw [List.take_append_of_le_length hlong]
    exact fun octet hmem => hopen octet (List.mem_of_mem_take hmem)
  · rcases hrest with rfl | ⟨last, tail, rfl, hlast⟩
    · rw [List.append_nil]
      exact .inr (.inl ⟨Nat.not_le.mp hlong, hopen⟩)
    · refine .inl ⟨marked ++ [last], tail, by simp, ?_, marked, last, rfl, hopen, hlast⟩
      rw [List.length_append, List.length_singleton]
      exact Nat.not_le.mp hlong

theorem IsOverlong.decode_eq {octets : Octets} (h : IsOverlong octets) :
    decode octets = .error .protocolViolation := by
  obtain ⟨hlength, hopen⟩ := h
  have hfour : (octets.take 4).length = maxOctets := by
    rw [List.length_take]
    exact Nat.min_eq_left hlength
  rw [← List.take_append_drop 4 octets]
  exact decode_overlong_append hopen hfour (octets.drop 4)

theorem IsUnended.decode_eq {octets : Octets} (h : IsUnended octets) : decode octets = .ok none :=
  decode_open h.2 h.1

/-- A field ends with its first unmarked octet. -/
theorem IsField.findIdx_eq {field : Octets} (h : IsField field) (rest : Octets) :
    (field ++ rest).findIdx (· < 128) + 1 = field.length := by
  obtain ⟨-, marked, last, rfl, hopen, hlast⟩ := h
  have hmarked : marked.findIdx (· < 128) = marked.length := by
    refine List.findIdx_eq_length_of_false fun octet hmem => ?_
    exact decide_eq_false (UInt8.not_lt.mpr (hopen octet hmem))
  rw [List.append_assoc, List.findIdx_append, if_neg (by rw [hmarked]; exact Nat.lt_irrefl _),
    List.singleton_append, List.findIdx_cons, decide_eq_true hlast, List.length_append]
  show 0 + marked.length + 1 = _
  simp

/-! ## §3. Both directions. -/

/-- A field that has lost its end is still waited for. -/
theorem IsField.isUnended_front {field front : Octets} (h : IsField field)
    (hfront : front <+: field) (hne : front ≠ field) : IsUnended front := by
  obtain ⟨back, rfl⟩ := hfront
  cases back with
  | nil => exact absurd (List.append_nil front).symm hne
  | cons octet back =>
    refine ⟨?_, h.isOpen_front⟩
    have hlength : (front ++ octet :: back).length ≤ 4 := h.length_le
    rw [List.length_append, List.length_cons] at hlength
    omega

/-- **No field for a number is shorter than the one that is written.** -/
theorem length_digits_value_le {field : Octets} (h : IsField field) :
    (digits (value field)).length ≤ field.length := by
  have hpos : 0 < field.length := List.length_pos_iff.mpr h.ne_nil
  -- what `k + 1` digits stand for is below `128 ^ (k + 1)`, and takes no more digits than that
  obtain ⟨k, hk⟩ : ∃ k, field.length = k + 1 := ⟨field.length - 1, by omega⟩
  rw [hk]
  exact length_digits_le (hk ▸ value_lt field)

/-- **The length field is written and read exactly.**  A number is written just if it is at most
268435455, in one to four octets; these are read back whatever comes behind them, and while some of
them are missing more are asked for.  Of every other string, too: it is refused just if its first
four octets are marked, more is asked for just if it has fewer and all are marked, and otherwise the
octets up to the first unmarked one are a field, of which the number is read in base 128, and which
is no shorter than the one that is written for the number. -/
theorem length_field_exact :
    (∀ n,
        ((∃ field, encode n = .ok field) ↔ n ≤ 268435455)
          ∧ ∀ field, encode n = .ok field →
            (1 ≤ field.length ∧ field.length ≤ 4)
              ∧ (∀ rest, decode (field ++ rest) = .ok (some (n, field.length)))
              ∧ ∀ front, front <+: field → front ≠ field → decode front = .ok none)
      ∧ ∀ octets,
        (decode octets = .error .protocolViolation ↔ IsOverlong octets)
          ∧ (decode octets = .ok none ↔ IsUnended octets)
          ∧ (¬ IsOverlong octets → ¬ IsUnended octets → ∃ n used,
            decode octets = .ok (some (n, used))
              ∧ used = octets.findIdx (· < 128) + 1 ∧ 1 ≤ used ∧ used ≤ 4 ∧ used ≤ octets.length
              ∧ n = Nat.ofDigits 128 ((octets.take used).map fun octet => octet.toNat % 128)
              ∧ n < 128 ^ used
              ∧ ∃ field, encode n = .ok field ∧ field.length ≤ used) := by
  refine ⟨fun n => ⟨?_, ?_⟩, fun octets => ⟨⟨fun h => ?_, IsOverlong.decode_eq⟩,
    ⟨fun h => ?_, IsUnended.decode_eq⟩, fun hnotOverlong hnotUnended => ?_⟩⟩
  · -- ===== which numbers are written =====
    exact ⟨fun ⟨field, h⟩ => (encode_ok_iff.mp h).1, fun h => ⟨_, encode_ok_iff.mpr ⟨h, rfl⟩⟩⟩
  · -- ===== what is written, whole and cut =====
    intro field h
    obtain ⟨hsmall, rfl⟩ := encode_ok_iff.mp h
    have hfield : IsField (digits n) := isField_digits hsmall
    refine ⟨⟨List.length_pos_iff.mpr hfield.ne_nil, hfield.length_le⟩, fun rest => ?_,
      fun front hfront hne => (hfield.isUnended_front hfront hne).decode_eq⟩
    rw [decode_append hfield, value_digits]
  · -- ===== what is refused =====
    rcases field_cases octets with ⟨field, rest, rfl, hfield⟩ | hunended | hoverlong
    · rw [decode_append hfield] at h
      cases h
    · rw [hunended.decode_eq] at h
      cases h
    · exact hoverlong
  · -- ===== what is too short =====
    rcases field_cases octets with ⟨field, rest, rfl, hfield⟩ | hunended | hoverlong
    · rw [decode_append hfield] at h
      cases h
    · exact hunended
    · rw [hoverlong.decode_eq] at h
      cases h
  · -- ===== what is left begins with a field =====
    rcases field_cases octets with ⟨field, rest, rfl, hfield⟩ | hunended | hoverlong
    · refine ⟨value field, field.length, decode_append hfield rest, (hfield.findIdx_eq rest).symm,
        List.length_pos_iff.mpr hfield.ne_nil, hfield.length_le, ?_, ?_, value_lt field,
        digits (value field), encode_ok_iff.mpr ⟨hfield.value_le, rfl⟩,
        length_digits_value_le hfield⟩
      · rw [List.length_append]
        omega
      · rw [List.take_left, value_eq_ofDigits]
    · exact absurd hunended hnotUnended
    · exact absurd hoverlong hnotOverlong

/-- The number 300 takes two octets, the first of which alone is not enough; three octets that stand
for 5 are read, although one is written for it. -/
theorem length_field_exact_specimen :
    encode 300 = .ok [0xAC, 2]
      ∧ (decode [0xAC, 2, 7] = .ok (some (300, 2)) ∧ decode [0xAC] = .ok none)
      ∧ ¬ IsOverlong [0x85, 0x80, 0, 9] ∧ ¬ IsUnended [0x85, 0x80, 0, 9]
      ∧ ∃ field, decode [0x85, 0x80, 0, 9] = .ok (some (5, 3)) ∧ encode 5 = .ok field
        ∧ field.length ≤ 3 := by
  have hwritten : encode 300 = .ok [0xAC, 2] := by decide +kernel
  obtain ⟨-, hback, hcut⟩ := (length_field_exact.1 300).2 _ hwritten
  have hended : ¬ IsOverlong [0x85, 0x80, 0, 9] := fun h => absurd (h.2 0 (by simp)) (by decide)
  have hwhole : ¬ IsUnended [0x85, 0x80, 0, 9] := fun h => absurd h.1 (by decide)
  obtain ⟨n, used, hread, hused, -, -, -, hn, -, field, hfield, hshort⟩ :=
    (length_field_exact.2 [0x85, 0x80, 0, 9]).2.2 hended hwhole
  obtain rfl : used = 3 := hused.trans (by decide)
  obtain rfl : n = 5 := hn.trans (by decide)
  exact ⟨hwritten, ⟨hback [7], hcut [0xAC] (by decide) (by decide)⟩, hended, hwhole, field, hread,
    hfield, hshort⟩

end FieldLink.Mqtt.RemainingLength
