/-
  FieldLink.Proofs.Modbus.Decoding
  ────────────────────────────────
  **A RESPONSE IS DECODED IN ITS COUNTED FORM ONLY.**

  A device may answer anything that fits into a unit of the protocol.  What
  it answers is decoded if it is a count and exactly as many octets behind
  it, and is refused otherwise.  Two sizes are in the way of a decoder: it
  holds 126 registers and 2000 bits, and a unit brings up to 251 octets of
  values.  So the first size is never reached, and the second one is
  passed by eight bits at most:

      registers_of_counts — there is room for all registers
      registers_ok_iff    — which registers a response holds
      coils_of_counts     — how many bits can be asked of it
      coils_ok_iff        — which bits it holds
      decoded_exactly     — all of it, for every response
-/
import FieldLink.Proofs.Modbus.Values

namespace FieldLink.Modbus

/-! ## §1. Registers. -/

namespace Response

/-- An octet string of even length is the words that it is read as. -/
theorem flatMap_big_words {octets : Octets} (h : octets.length % 2 = 0) :
    (words octets).flatMap Octets.big = octets := by
  -- a word takes two octets, so the induction goes two octets at a time
  fun_induction words octets with
  | case1 high low octets ih =>
    have hrest : octets.length % 2 = 0 := by
      rw [List.length_cons, List.length_cons] at h
      omega
    rw [List.flatMap_cons, Octets.big_word, ih hrest]
    rfl
  | case2 octets hshort =>
    cases octets with
    | nil => rfl
    | cons octet octets =>
      cases octets with
      | nil => cases h
      | cons low octets => exact absurd rfl (hshort octet low octets)

/-- A right count is right for one list of values. -/
theorem Counts.unique {response : Response} {values values' : Octets}
    (h : response.Counts values) (h' : response.Counts values') : values = values' := by
  obtain ⟨count, hdata, -⟩ := h
  obtain ⟨count', hdata', -⟩ := h'
  exact (List.cons.inj (hdata.symm.trans hdata')).2

/-- There is a right count or there is none. -/
theorem counts_or_not (response : Response) :
    (∃ values, response.Counts values) ∨ ∀ values, ¬ response.Counts values := by
  by_cases h : ∃ values, response.Counts values
  · exact .inl h
  · exact .inr (not_exists.mp h)

/-- **There is room for all registers that fit into a unit**, so only their number of octets can be
wrong. -/
theorem registers_of_counts {response : Response} {values : Octets} (h : response.Counts values) :
    response.registers
      = if values.length % 2 = 0 then .ok (words values) else .error .protocolViolation := by
  unfold Response.registers
  rw [values_ok_iff.mpr h]
  show (if _ then _ else if _ then _ else _) = _
  by_cases heven : values.length % 2 = 0
  · have hlength := length_flatMap_big (words values)
    rw [flatMap_big_words heven] at hlength
    have hfits := h.length_le
    have hroom : ¬ maxDecodedRegisters < (words values).length := by
      rw [maxDecodedRegisters, maxPduLength]
      omega
    rw [if_neg (not_not_intro heven), if_neg hroom, if_pos heven]
  · rw [if_pos heven, if_neg heven]

theorem registers_of_not_counts {response : Response} (h : ∀ values, ¬ response.Counts values) :
    response.registers = .error .protocolViolation := by
  unfold Response.registers
  cases hvalues : response.values with
  | error fault => rw [values_error hvalues]
  | ok values => exact absurd (values_ok_iff.mp hvalues) (h values)

/-- **A response holds these registers** if their octets stand in it, high octet first. -/
theorem registers_ok_iff {response : Response} {registers : List UInt16} :
    response.registers = .ok registers
      ↔ ∃ values, response.Counts values ∧ values.length % 2 = 0
        ∧ registers.flatMap Octets.big = values := by
  constructor
  · intro h
    rcases response.counts_or_not with ⟨values, hcounts⟩ | hnone
    · rw [registers_of_counts hcounts] at h
      split at h
      · next heven =>
        obtain rfl := Except.ok.inj h
        exact ⟨values, hcounts, heven, flatMap_big_words heven⟩
      · cases h
    · rw [registers_of_not_counts hnone] at h
      cases h
  · rintro ⟨values, hcounts, -, rfl⟩
    exact registers_of_values (values_ok_iff.mpr hcounts)

/-- **Registers are refused for their form alone.** -/
theorem registers_error {response : Response} {fault : Fault}
    (h : response.registers = .error fault) : fault = .protocolViolation := by
  rcases response.counts_or_not with ⟨values, hcounts⟩ | hnone
  · rw [registers_of_counts hcounts] at h
    split at h
    · cases h
    · exact (Except.error.inj h).symm
  · rw [registers_of_not_counts hnone] at h
    exact (Except.error.inj h).symm

/-! ## §2. Bits. -/

/-- The values hold these bits: each is bit `i % 8` of octet `i / 8`. -/
structure Holds (values : Octets) (quantity : Nat) (bits : List Bool) : Prop where
  /-- There are as many octets as the bits need. -/
  enough : quantity ≤ 8 * values.length
  /-- There are as many bits as were asked for. -/
  length_eq : bits.length = quantity
  /-- Bit number `i` stands at its place. -/
  getElem?_eq : ∀ i < quantity,
    bits[i]? = values[i / 8]?.map fun octet => octet.toNat.testBit (i % 8)

/-- Bits that stand at their places are the first ones. -/
theorem holds_iff {values : Octets} {quantity : Nat} {bits : List Bool} :
    Holds values quantity bits
      ↔ quantity ≤ 8 * values.length ∧ (Coils.unpack values).take quantity = bits := by
  constructor
  · intro h
    refine ⟨h.enough, List.ext_getElem? fun i => ?_⟩
    rw [List.getElem?_take]
    split
    · next hi => rw [Coils.getElem?_unpack, h.getElem?_eq i hi]
    · next hi => rw [List.getElem?_eq_none (by rw [h.length_eq]; omega)]
  · rintro ⟨henough, rfl⟩
    refine ⟨henough, ?_, fun i hi => ?_⟩
    · rw [List.length_take_of_le (by rw [Coils.length_unpack]; exact henough)]
    · rw [List.getElem?_take_of_lt hi, Coils.getElem?_unpack]

theorem coils_of_not_counts {response : Response} (h : ∀ values, ¬ response.Counts values)
    (quantity : Nat) : response.coils quantity = .error .protocolViolation := by
  unfold Response.coils
  cases hvalues : response.values with
  | error fault => rw [values_error hvalues]
  | ok values => exact absurd (values_ok_iff.mp hvalues) (h values)

/-- **As many bits as are asked for**, if the values have as many and there is room for them. -/
theorem coils_of_counts {response : Response} {values : Octets} (h : response.Counts values)
    (quantity : Nat) :
    response.coils quantity
      = if 8 * values.length < quantity then .error .protocolViolation
        else if 2000 < quantity then .error .capacityExceeded
        else .ok ((Coils.unpack values).take quantity) := by
  unfold Response.coils
  rw [values_ok_iff.mpr h, Nat.mul_comm]
  rfl

/-- **No right count, or more bits than there are**, is a malformed response. -/
theorem coils_protocolViolation_iff {response : Response} {quantity : Nat} :
    response.coils quantity = .error .protocolViolation
      ↔ ¬ ∃ values, response.Counts values ∧ quantity ≤ 8 * values.length := by
  rcases response.counts_or_not with ⟨values, hcounts⟩ | hnone
  · rw [coils_of_counts hcounts]
    constructor
    · rintro h ⟨values', hcounts', henough⟩
      obtain rfl := hcounts.unique hcounts'
      rw [if_neg (Nat.not_lt.mpr henough)] at h
      split at h <;> cases h
    · intro h
      exact if_pos (Nat.not_le.mp fun henough => h ⟨values, hcounts, henough⟩)
  · exact iff_of_true (coils_of_not_counts hnone quantity)
      fun ⟨values, hcounts, _⟩ => hnone values hcounts

/-- **More bits than a read can ask for** have no room, if there are as many. -/
theorem coils_capacityExceeded_iff {response : Response} {quantity : Nat} :
    response.coils quantity = .error .capacityExceeded
      ↔ ∃ values, response.Counts values ∧ 2000 < quantity ∧ quantity ≤ 8 * values.length := by
  constructor
  · intro h
    rcases response.counts_or_not with ⟨values, hcounts⟩ | hnone
    · rw [coils_of_counts hcounts] at h
      split at h
      · cases h
      · next henough =>
        split at h
        · next hmany => exact ⟨values, hcounts, hmany, Nat.not_lt.mp henough⟩
        · cases h
    · rw [coils_of_not_counts hnone] at h
      cases h
  · rintro ⟨values, hcounts, hmany, henough⟩
    rw [coils_of_counts hcounts, if_neg (Nat.not_lt.mpr henough), if_pos hmany]

/-- **All other bits** are read from where they stand. -/
theorem coils_ok_iff {response : Response} {quantity : Nat} {bits : List Bool} :
    response.coils quantity = .ok bits
      ↔ ∃ values, response.Counts values ∧ quantity ≤ 2000 ∧ Holds values quantity bits := by
  constructor
  · intro h
    rcases response.counts_or_not with ⟨values, hcounts⟩ | hnone
    · rw [coils_of_counts hcounts] at h
      split at h
      · cases h
      · next henough =>
        split at h
        · cases h
        · next hroom =>
          exact ⟨values, hcounts, Nat.not_lt.mp hroom,
            holds_iff.mpr ⟨Nat.not_lt.mp henough, Except.ok.inj h⟩⟩
    · rw [coils_of_not_counts hnone] at h
      cases h
  · rintro ⟨values, hcounts, hroom, hholds⟩
    obtain ⟨henough, rfl⟩ := holds_iff.mp hholds
    rw [coils_of_counts hcounts, if_neg (Nat.not_lt.mpr henough), if_neg (Nat.not_lt.mpr hroom)]

/-- The first bits of values that hold some bits are the first ones of these. -/
theorem Holds.take {values : Octets} {quantity fewer : Nat} {bits : List Bool}
    (h : Holds values quantity bits) (hfewer : fewer ≤ quantity) :
    Holds values fewer (bits.take fewer) := by
  obtain ⟨henough, rfl⟩ := holds_iff.mp h
  refine holds_iff.mpr ⟨Nat.le_trans hfewer henough, ?_⟩
  rw [List.take_take, Nat.min_eq_left hfewer]

end Response

/-! ## §3. Every response. -/

/-- **A response is decoded in its counted form only.**  It holds registers just if its data are a
count and exactly as many octets, an even number of them; these are the octets of the registers,
high octet first, and every other response is malformed, so that there is always room for what it
holds.  Of bits it holds as many as its values have.  It is malformed if there is no right count or
if more bits are asked for; up to that number, more than 2000 of them have no room; and any fewer
are those that stand at their places.  So fewer bits are the first ones of more. -/
theorem decoded_exactly (response : Response) :
    (∀ registers, response.registers = .ok registers
        ↔ ∃ values, response.Counts values ∧ values.length % 2 = 0
          ∧ registers.flatMap Octets.big = values)
      ∧ (∀ fault, response.registers = .error fault → fault = .protocolViolation)
      ∧ (∀ quantity,
        (response.coils quantity = .error .protocolViolation
            ↔ ¬ ∃ values, response.Counts values ∧ quantity ≤ 8 * values.length)
          ∧ (response.coils quantity = .error .capacityExceeded
            ↔ ∃ values, response.Counts values ∧ 2000 < quantity ∧ quantity ≤ 8 * values.length)
          ∧ ∀ bits, response.coils quantity = .ok bits
            ↔ ∃ values, response.Counts values ∧ quantity ≤ 2000
              ∧ Response.Holds values quantity bits)
      ∧ ∀ fewer quantity bits, fewer ≤ quantity → response.coils quantity = .ok bits →
        response.coils fewer = .ok (bits.take fewer) := by
  refine ⟨fun registers => Response.registers_ok_iff, fun fault => Response.registers_error,
    fun quantity => ⟨Response.coils_protocolViolation_iff, Response.coils_capacityExceeded_iff,
      fun bits => Response.coils_ok_iff⟩, fun fewer quantity bits hfewer h => ?_⟩
  obtain ⟨values, hcounts, hroom, hholds⟩ := Response.coils_ok_iff.mp h
  exact Response.coils_ok_iff.mpr
    ⟨values, hcounts, Nat.le_trans hfewer hroom, hholds.take hfewer⟩

namespace Specimen

/-- The longest answer that there is: 251 octets of values, which are 2008 bits. -/
def longest : Response where
  unit := 1
  function := 1
  data := 251 :: List.replicate 251 0xAA
  data_fits := by
    rw [List.length_cons, List.length_replicate]
    decide

/-- Two registers, which are 555 and 100. -/
def pair : Response where
  unit := 1
  function := 3
  data := [4, 2, 0x2B, 0, 0x64]
  data_fits := by decide

end Specimen

/-- Two registers are read, and so are the first bits of their octets.  Of the longest answer 2000
bits can be decoded, the next eight have no room, more are malformed, and so is an odd number of
octets as registers. -/
theorem decoded_exactly_specimen :
    Specimen.pair.registers = .ok [555, 100]
      ∧ Specimen.pair.coils 12
        = .ok [false, true, false, false, false, false, false, false, true, true, false, true]
      ∧ Specimen.pair.coils 3 = .ok [false, true, false]
      ∧ Specimen.longest.registers = .error .protocolViolation
      ∧ (∃ bits, Specimen.longest.coils 2000 = .ok bits)
      ∧ Specimen.longest.coils 2001 = .error .capacityExceeded
      ∧ Specimen.longest.coils 2009 = .error .protocolViolation := by
  have hpair : Specimen.pair.Counts [2, 0x2B, 0, 0x64] := ⟨4, rfl, by decide⟩
  have hlength : (List.replicate 251 (0xAA : UInt8)).length = 251 := List.length_replicate
  have hlongest : Specimen.longest.Counts (List.replicate 251 0xAA) := ⟨251, rfl, hlength⟩
  obtain ⟨hregisters, -, -, hfirst⟩ := decoded_exactly Specimen.pair
  obtain ⟨hodd, hfault, hlong, -⟩ := decoded_exactly Specimen.longest
  have htwelve : Specimen.pair.coils 12
      = .ok [false, true, false, false, false, false, false, false, true, true, false, true] := by
    decide +kernel
  refine ⟨(hregisters _).mpr ⟨_, hpair, by decide, by decide⟩, htwelve,
    hfirst 3 12 _ (by decide) htwelve, ?_, ?_, ?_, ?_⟩
  · cases hresult : Specimen.longest.registers with
    | error fault => rw [hfault fault hresult]
    | ok registers =>
      obtain ⟨values, hcounts, heven, -⟩ := (hodd registers).mp hresult
      rw [hcounts.unique hlongest, hlength] at heven
      cases heven
  · exact ⟨_, ((hlong 2000).2.2 _).mpr ⟨_, hlongest, Nat.le_refl 2000,
      Response.holds_iff.mpr ⟨by rw [hlength]; omega, rfl⟩⟩⟩
  · exact (hlong 2001).2.1.mpr ⟨_, hlongest, by omega, by rw [hlength]; omega⟩
  · refine (hlong 2009).1.mpr ?_
    rintro ⟨values, hcounts, henough⟩
    have hmost := hcounts.length_le
    omega

end FieldLink.Modbus
