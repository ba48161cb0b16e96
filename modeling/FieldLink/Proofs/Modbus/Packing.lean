/-
  FieldLink.Proofs.Modbus.Packing
  ────────────────────────────────
  **COILS ARE PACKED AND UNPACKED WITHOUT LOSS.**

  A master packs coils when it writes them, and a device packs them when
  they are read; the master unpacks what comes back.  Packed coils are told
  by where each of them stands, and by the zeros that fill the last octet
  up.  Whatever stands so is read back as the same list, and a write of
  another list has other data:

      values_counted         — values behind their count
      coils_of_values        — bits are read from where they stand
      writeCoils_ok_iff      — the data of a coil write
      CoilData.unique        — data tell the coils
      coils_packed_exactly   — what is packed, and that it is read back
-/
import FieldLink.Modbus.Response
import FieldLink.Proofs.Modbus.Bits

namespace FieldLink.Modbus

/-! ## §1. Values behind their count. -/

namespace Response

/-- The data of a response are a count and as many values behind it. -/
def Counts (response : Response) (values : Octets) : Prop :=
  ∃ count : UInt8, response.data = count :: values ∧ values.length = count.toNat

/-- **Values are read just if they stand behind a right count.** -/
theorem values_ok_iff {response : Response} {values : Octets} :
    response.values = .ok values ↔ response.Counts values := by
  unfold Response.values Counts
  cases response.data with
  | nil => exact iff_of_false nofun nofun
  | cons count octets =>
    constructor
    · intro h
      dsimp only at h
      split at h
      · next hright =>
        obtain rfl := Except.ok.inj h
        exact ⟨count, rfl, hright⟩
      · cases h
    · rintro ⟨count', hdata, hright⟩
      obtain ⟨rfl, rfl⟩ := List.cons.inj hdata
      exact if_pos hright

/-- Without a right count nothing is read. -/
theorem values_error {response : Response} {fault : Fault} (h : response.values = .error fault) :
    fault = .protocolViolation := by
  unfold Response.values at h
  split at h
  · exact (Except.error.inj h).symm
  · split at h
    · cases h
    · exact (Except.error.inj h).symm

/-- The function code and the count leave room for 251 octets of values. -/
theorem Counts.length_le {response : Response} {values : Octets} (h : response.Counts values) :
    values.length ≤ 251 := by
  obtain ⟨count, hdata, -⟩ := h
  have hfits := response.data_fits
  rw [hdata, List.length_cons, maxPduLength] at hfits
  omega

/-- Values as a device sends them, behind the count of their octets. -/
def counted (values : Octets) : Octets := UInt8.ofNat values.length :: values

theorem values_counted {response : Response} {values : Octets} (h : values.length < 256)
    (hdata : response.data = counted values) : response.values = .ok values := by
  refine values_ok_iff.mpr ⟨_, hdata, ?_⟩
  rw [UInt8.toNat_ofNat', Nat.mod_eq_of_lt h]

/-- **Bits are read from where they stand.** -/
theorem coils_of_values {response : Response} {octets : Octets} {list : List Bool}
    (h : response.values = .ok octets) (hpacks : Coils.Packs list octets)
    (hle : list.length ≤ maxReadBits) : response.coils list.length = .ok list := by
  have hroom : ¬ octets.length * 8 < list.length := by
    rw [hpacks.length_eq]
    omega
  unfold Response.coils
  rw [h]
  show (if _ then _ else if _ then _ else _) = _
  rw [if_neg hroom, if_neg (Nat.not_lt.mpr hle), hpacks.take_unpack]

end Response

/-! ## §2. The data of a coil write. -/

namespace Request

/-- **Coils are written just if there are 1 to 1968 of them.** -/
theorem writeCoils_ok_iff {address : UInt16} {coils : List Bool} {data : Octets} :
    writeCoils address coils = .ok data
      ↔ (1 ≤ coils.length ∧ coils.length ≤ 1968)
        ∧ data = write address coils.length (Coils.pack coils) := by
  unfold writeCoils
  split
  · next hrange =>
    rw [← List.length_eq_zero_iff, maxWriteCoils] at hrange
    exact iff_of_false nofun fun h => by omega
  · next hrange =>
    rw [← List.length_eq_zero_iff, maxWriteCoils] at hrange
    rw [Except.ok.injEq, eq_comm]
    exact (and_iff_right (by omega)).symm

theorem writeCoils_eq {coils : List Bool} (h : 1 ≤ coils.length ∧ coils.length ≤ 1968)
    (address : UInt16) :
    writeCoils address coils = .ok (write address coils.length (Coils.pack coils)) :=
  writeCoils_ok_iff.mpr ⟨h, rfl⟩

theorem writeCoils_refused {coils : List Bool} (h : ¬ (1 ≤ coils.length ∧ coils.length ≤ 1968))
    (address : UInt16) : writeCoils address coils = .error .invalidArgument := by
  refine if_pos ?_
  rw [← List.length_eq_zero_iff, maxWriteCoils]
  omega

/-- Coils that are accepted fit into a frame, with one octet to spare. -/
theorem length_writeCoils {address : UInt16} {coils : List Bool} {data : Octets}
    (h : writeCoils address coils = .ok data) : data.length ≤ 251 := by
  obtain ⟨hrange, rfl⟩ := writeCoils_ok_iff.mp h
  have hlength := Coils.length_pack coils
  show (Coils.pack coils).length + 5 ≤ 251
  omega

end Request

/-- The parts of the data of a coil write. -/
structure CoilData (address : UInt16) (coils : List Bool) (data : Octets) where
  /-- How many coils there are. -/
  quantity : UInt16
  /-- How many octets they take. -/
  count : UInt8
  /-- The coils. -/
  packed : Octets
  /-- The parts stand behind one another, and the address in front. -/
  data_eq : data = Octets.big address ++ Octets.big quantity ++ count :: packed
  toNat_quantity : quantity.toNat = coils.length
  /-- Eight coils to an octet, and one more octet for the rest of them. -/
  toNat_count : count.toNat = (coils.length + 7) / 8
  length_packed : packed.length = (coils.length + 7) / 8
  /-- The coil with number `i` is bit `i % 8` of octet `i / 8`, and the bits beyond the last coil are
  zero. -/
  testBit_packed : ∀ i < 8 * packed.length,
    packed[i / 8]?.map (fun octet => octet.toNat.testBit (i % 8)) = some (coils[i]?.getD false)

namespace CoilData

variable {address : UInt16} {coils : List Bool} {data : Octets}

/-- The parts of data as they are written. -/
def ofCoils (address : UInt16) (h : coils.length ≤ 1968) :
    CoilData address coils (Request.write address coils.length (Coils.pack coils)) where
  quantity := UInt16.ofNat coils.length
  count := UInt8.ofNat (Coils.pack coils).length
  packed := Coils.pack coils
  data_eq := rfl
  toNat_quantity := by
    rw [UInt16.toNat_ofNat']
    omega
  toNat_count := by
    rw [UInt8.toNat_ofNat', Coils.length_pack]
    omega
  length_packed := Coils.length_pack coils
  testBit_packed i hi := by
    rw [Coils.length_pack] at hi
    rw [← Coils.getElem?_unpack, Coils.unpack_pack, Coils.getElem?_padded (by omega)]

theorem packs (parts : CoilData address coils data) : Coils.Packs coils parts.packed where
  length_eq := parts.length_packed
  getElem?_eq i hi := by
    have hlength := parts.length_packed
    rw [parts.testBit_packed i (by omega), List.getElem?_eq_getElem hi]
    rfl

/-- **Data tell what they are the data of.** -/
theorem unique {address' : UInt16} {coils' : List Bool} (parts : CoilData address coils data)
    (parts' : CoilData address' coils' data) : address = address' ∧ coils = coils' := by
  have hdata := parts.data_eq.symm.trans parts'.data_eq
  simp only [List.append_assoc] at hdata
  -- address and quantity take two octets each, and the quantity tells where the coils end
  obtain ⟨haddress, hbehind⟩ := List.append_inj hdata rfl
  obtain ⟨hquantity, hbehind⟩ := List.append_inj hbehind rfl
  have hpacked : parts.packed = parts'.packed := (List.cons.inj hbehind).2
  have hlength : coils.length = coils'.length := by
    rw [← parts.toNat_quantity, ← parts'.toNat_quantity, Octets.big_inj hquantity]
  refine ⟨Octets.big_inj haddress, ?_⟩
  rw [← parts.packs.take_unpack, ← parts'.packs.take_unpack, hpacked, hlength]

/-- **What is packed for a write is read back**, from whatever device and for whatever function it
comes. -/
theorem coils_eq (parts : CoilData address coils data) (h : coils.length ≤ 1968)
    (unit function : UInt8) :
    ∃ response, Response.ofPdu unit (function :: parts.count :: parts.packed) = .ok response
      ∧ response.coils coils.length = .ok coils := by
  have hlength := parts.length_packed
  have hcount : parts.count :: parts.packed = Response.counted parts.packed := by
    rw [Response.counted, hlength, ← parts.toNat_count, UInt8.ofNat_toNat]
  have hfits : (parts.count :: parts.packed).length + 1 ≤ maxPduLength := by
    rw [List.length_cons, maxPduLength]
    omega
  let response : Response := ⟨unit, function, parts.count :: parts.packed, hfits⟩
  have hvalues : response.values = .ok parts.packed :=
    Response.values_counted (by omega) hcount
  exact ⟨response, dif_pos hfits,
    Response.coils_of_values hvalues parts.packs (Nat.le_trans h (by decide))⟩

end CoilData

/-! ## §3. Both directions. -/

/-- **Coils are packed and unpacked without loss.**  A write of no coil or of more than 1968 is
refused.  Of every other list it has the data: the address, the number of coils, the number of the
octets that they take, and these octets, in which every coil stands at its place and all else is
zero; at most 251 octets in all.  A response with the same octets behind the same count is read as
the same list.  Writes of different lists have different data. -/
theorem coils_packed_exactly (address : UInt16) (coils : List Bool) :
    (Request.writeCoils address coils = .error .invalidArgument
        ↔ coils.length = 0 ∨ 1968 < coils.length)
      ∧ (¬ (coils.length = 0 ∨ 1968 < coils.length) →
        ∃ (data : Octets) (parts : CoilData address coils data),
          Request.writeCoils address coils = .ok data ∧ data.length ≤ 251
            ∧ ∀ unit function, ∃ response,
              Response.ofPdu unit (function :: parts.count :: parts.packed) = .ok response
                ∧ response.coils coils.length = .ok coils)
      ∧ ∀ address' coils' data, Request.writeCoils address coils = .ok data →
        Request.writeCoils address' coils' = .ok data → coils = coils' := by
  refine ⟨⟨fun h => ?_, fun h => Request.writeCoils_refused (by omega) address⟩, fun h => ?_, ?_⟩
  · -- ===== what is refused is out of range =====
    by_contra hrange
    rw [Request.writeCoils_eq (by omega) address] at h
    cases h
  · -- ===== what is in range is packed and read back =====
    have hrange : 1 ≤ coils.length ∧ coils.length ≤ 1968 := by omega
    have hwritten := Request.writeCoils_eq hrange address
    let parts := CoilData.ofCoils address hrange.2
    exact ⟨_, parts, hwritten, Request.length_writeCoils hwritten, parts.coils_eq hrange.2⟩
  · -- ===== the same data are of the same coils =====
    intro address' coils' data h h'
    obtain ⟨hrange, rfl⟩ := Request.writeCoils_ok_iff.mp h
    obtain ⟨hrange', hdata⟩ := Request.writeCoils_ok_iff.mp h'
    have parts' := CoilData.ofCoils address' hrange'.2
    rw [← hdata] at parts'
    exact ((CoilData.ofCoils address hrange.2).unique parts').2

namespace Specimen

/-- Ten coils, which take an octet and two bits of another one. -/
def ten : List Bool := [true, false, true, true, false, false, true, true, true, false]

end Specimen

/-- Ten coils are packed into two octets and read back, and their data are not those of the first
nine. -/
theorem coils_packed_exactly_specimen :
    Request.writeCoils 19 Specimen.ten = .ok [0, 19, 0, 10, 2, 0xCD, 1]
      ∧ (∃ (data : Octets) (parts : CoilData 19 Specimen.ten data),
        Request.writeCoils 19 Specimen.ten = .ok data ∧ data.length ≤ 251
          ∧ ∃ response, Response.ofPdu 7 (1 :: parts.count :: parts.packed) = .ok response
            ∧ response.coils 10 = .ok Specimen.ten)
      ∧ Request.writeCoils 19 (Specimen.ten.take 9) = .ok [0, 19, 0, 9, 2, 0xCD, 1]
      ∧ Request.writeCoils 19 (Specimen.ten.take 9) ≠ Request.writeCoils 19 Specimen.ten := by
  have hten : Request.writeCoils 19 Specimen.ten = .ok [0, 19, 0, 10, 2, 0xCD, 1] := by
    decide +kernel
  have hnine : Request.writeCoils 19 (Specimen.ten.take 9) = .ok [0, 19, 0, 9, 2, 0xCD, 1] := by
    decide +kernel
  obtain ⟨-, hpacked, hinjective⟩ := coils_packed_exactly 19 Specimen.ten
  obtain ⟨data, parts, hwritten, hshort, hread⟩ := hpacked (by decide)
  refine ⟨hten, ⟨data, parts, hwritten, hshort, hread 7 1⟩, hnine, fun hsame => ?_⟩
  exact absurd (hinjective 19 _ _ hten (hsame.trans hten)) (by decide)

end FieldLink.Modbus
