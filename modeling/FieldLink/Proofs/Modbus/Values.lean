/-
  FieldLink.Proofs.Modbus.Values
  ────────────────────────────────
  **A READ DELIVERS THE VALUES OF THE DEVICE.**

  A device puts the values behind the count of their octets: registers high
  octet first, bits packed from the lowest one on.  Up to the most items of
  one read they fit into a unit of the protocol, and the master that reads
  them gets the same list back, over either transport:

      registers_of_values  — words are read as they were written
      read_answered        — a read takes its answer off the line
      read_delivers_values — and decodes to what the device sent
-/
import FieldLink.Proofs.Modbus.Answer
import FieldLink.Proofs.Modbus.Packing
import FieldLink.Wire

namespace FieldLink.Modbus

/-! ## §1. Registers. -/

namespace Response

theorem length_flatMap_big (registers : List UInt16) :
    (registers.flatMap Octets.big).length = 2 * registers.length := by
  induction registers with
  | nil => rfl
  | cons register registers ih =>
    rw [List.flatMap_cons, List.length_append, Octets.length_big, ih, List.length_cons]
    omega

/-- Words that were written high octet first are read back. -/
theorem words_flatMap_big (registers : List UInt16) :
    words (registers.flatMap Octets.big) = registers := by
  induction registers with
  | nil => rfl
  | cons register registers ih =>
    show Octets.word _ _ :: words (registers.flatMap Octets.big) = _
    rw [Octets.word_big, ih]

/-- **Registers are read as they were written.** -/
theorem registers_of_values {response : Response} {list : List UInt16}
    (h : response.values = .ok (list.flatMap Octets.big)) : response.registers = .ok list := by
  have hlength := length_flatMap_big list
  have hfits := (values_ok_iff.mp h).length_le
  have heven : ¬ (list.flatMap Octets.big).length % 2 ≠ 0 := by omega
  have hroom : ¬ maxDecodedRegisters < list.length := by
    rw [maxDecodedRegisters, maxPduLength]
    omega
  unfold Response.registers
  rw [h]
  show (if _ then _ else if _ then _ else _) = _
  rw [if_neg heven, words_flatMap_big, if_neg hroom]

end Response

theorem DataTable.maxRead_le (table : DataTable) : table.maxRead ≤ 2000 := by
  cases table <;> decide

/-- The functions that read do not look like exceptions. -/
theorem DataTable.readFunction_regular (table : DataTable) :
    table.readFunction &&& Response.exceptionFlag = 0 := by
  cases table <;> decide

/-! ## §2. Reads. -/

section Reads

variable {σ : Type} [OctetStream σ] {holds : Octets → σ → Prop}

/-- The whole backlog came in, all of it this frame, and the connection is the one of before. -/
structure Session.Consumed (session : Session σ) (holds : Octets → σ → Prop) (frame : Octets)
    (after : Session σ) : Prop where
  /-- The connection is open as before. -/
  connection_eq : after.master.connection = session.master.connection
  /-- Nothing is left of the backlog. -/
  nothing_left : holds [] after.line.platform
  /-- What was read is the frame. -/
  received_eq : ∃ events, after.line.events = session.line.events ++ events
    ∧ Traffic.received events = frame

/-- **A read takes its answer off the line**, whatever values it brings: up to 250 octets of them
fit into a frame. -/
theorem read_answered {framing : Framing} (hsuits : framing.Suits holds) {session : Session σ}
    (hopen : session.master.connection = some framing) {table : DataTable} (address : UInt16)
    {count : Nat} (hpos : 1 ≤ count) (hle : count ≤ table.maxRead) {values : Octets}
    (hvalues : values.length ≤ 250) :
    ∃ frame, framing.frame (session.master.transaction + 1) session.master.unit
        table.readFunction (Response.counted values) = .ok frame
      ∧ (holds frame session.line.platform → ∃ response after,
        session.read table address (UInt16.ofNat count) = (.ok response, after)
          ∧ session.Consumed holds frame after ∧ response.values = .ok values) := by
  have hmost := table.maxRead_le
  have hquantity : (UInt16.ofNat count).toNat = count := by
    rw [UInt16.toNat_ofNat', Nat.mod_eq_of_lt (by omega)]
  have hasked : ¬ (UInt16.ofNat count = 0 ∨ table.maxRead < (UInt16.ofNat count).toNat) := by
    rw [hquantity]
    rintro (hzero | hmore)
    · rw [hzero] at hquantity
      exact absurd hquantity.symm (by show ¬ count = 0; omega)
    · omega
  have hfits : (Response.counted values).length + 1 ≤ maxPduLength := by
    simp only [Response.counted, List.length_cons, maxPduLength]
    omega
  -- ===== the response that the device sends =====
  let response : Response :=
    ⟨session.master.unit, table.readFunction, Response.counted values, hfits⟩
  have hregular : response.isException = false := by
    show decide (table.readFunction &&& Response.exceptionFlag ≠ 0) = false
    rw [table.readFunction_regular]
    rfl
  obtain ⟨frame, hframe⟩ := framing.exists_frame (session.master.transaction + 1)
    session.master.unit table.readFunction hfits
  refine ⟨frame, hframe, fun hholds => ?_⟩
  -- ===== the request that it answers =====
  obtain ⟨line, hexchange, hempty⟩ := exchange_suits hsuits hopen
    (show (Request.read address (UInt16.ofNat count)).length + 1 ≤ maxPduLength from
      (by decide : 4 + 1 ≤ 253))
    (show response.unit = session.master.unit from rfl) hregular (List.cons_ne_nil _ _) hframe
    hholds
  refine ⟨response, ⟨session.master.numbered framing, line⟩, ?_,
    ⟨Master.numbered_connection framing session.master, hempty, ?_⟩,
    Response.values_counted (by omega) rfl⟩
  · unfold Session.read
    rw [if_neg hasked]
    exact hexchange
  · obtain ⟨events, hlog, hreceived⟩ := exchange_received hopen hexchange
    exact ⟨events, hlog, Except.ok.inj (hreceived.symm.trans hframe)⟩

/-- **A read delivers the values of the device**, whatever master reads them, over every platform on
which no call fails.  If the line holds the matching answer, the frame with the next number, the
addressed device, the function of the table and the values behind their count, in any pieces over
TCP and at once on a serial line, then the read succeeds, takes the whole answer off the line, keeps
the connection, and its response decodes to the list that the device sent: to up to 125 registers,
or to up to 2000 bits. -/
theorem read_delivers_values {framing : Framing} (hsuits : framing.Suits holds)
    {session : Session σ} (hopen : session.master.connection = some framing) (address : UInt16) :
    let master := session.master
    (∀ table list, (table = .holdingRegisters ∨ table = .inputRegisters) → 1 ≤ list.length →
        list.length ≤ 125 →
        ∃ frame, framing.frame (master.transaction + 1) master.unit table.readFunction
            (Response.counted (list.flatMap Octets.big)) = .ok frame
          ∧ (holds frame session.line.platform → ∃ response after,
            session.read table address (UInt16.ofNat list.length) = (.ok response, after)
              ∧ session.Consumed holds frame after ∧ response.registers = .ok list))
      ∧ ∀ table list octets, (table = .coils ∨ table = .discreteInputs) → 1 ≤ list.length →
        list.length ≤ 2000 → Coils.Packs list octets →
        ∃ frame, framing.frame (master.transaction + 1) master.unit table.readFunction
            (Response.counted octets) = .ok frame
          ∧ (holds frame session.line.platform → ∃ response after,
            session.read table address (UInt16.ofNat list.length) = (.ok response, after)
              ∧ session.Consumed holds frame after ∧ response.coils list.length = .ok list) := by
  intro master
  refine ⟨?_, ?_⟩
  · intro table list htable hpos hle
    have hlimit : table.maxRead = 125 := by
      rcases htable with rfl | rfl <;> rfl
    have hvalues : (list.flatMap Octets.big).length ≤ 250 := by
      rw [Response.length_flatMap_big]
      omega
    obtain ⟨frame, hframe, hanswered⟩ :=
      read_answered hsuits hopen address hpos (hlimit ▸ hle) hvalues
    refine ⟨frame, hframe, fun hholds => ?_⟩
    obtain ⟨response, after, hread, hconsumed, hfound⟩ := hanswered hholds
    exact ⟨response, after, hread, hconsumed, Response.registers_of_values hfound⟩
  · intro table list octets htable hpos hle hpacks
    have hlimit : table.maxRead = 2000 := by
      rcases htable with rfl | rfl <;> rfl
    have hvalues : octets.length ≤ 250 := by
      rw [hpacks.length_eq]
      omega
    obtain ⟨frame, hframe, hanswered⟩ :=
      read_answered hsuits hopen address hpos (hlimit ▸ hle) hvalues
    refine ⟨frame, hframe, fun hholds => ?_⟩
    obtain ⟨response, after, hread, hconsumed, hfound⟩ := hanswered hholds
    exact ⟨response, after, hread, hconsumed, Response.coils_of_values hfound hpacks hle⟩

end Reads

namespace Specimen

/-- What a device server answers to a read of two registers, which are 42 and 256. -/
def words : Octets := [0, 1, 0, 0, 0, 6, 1, 3, 4, 0, 42, 1, 0]

/-- A connection over which it comes in three pieces. -/
def networked : Session Wire where
  master := { connection := some .tcp }
  line := { platform :=
    { inbound := [.chunk [0, 1, 0], .chunk [0, 0, 6, 1, 3, 4, 0], .chunk [42, 1, 0]] } }

/-- Nine coils. -/
def nine : List Bool := [true, false, true, true, false, false, true, false, true]

/-- What a device on a serial line answers when they are read. -/
def packed : Octets := [1, 1, 2, 0x4D, 1, 0x4D, 0x6C]

/-- A serial line on which it comes at once. -/
def serialized : Session Wire where
  master := { connection := some .rtu }
  line := { platform := { inbound := [.chunk packed] } }

end Specimen

/-- Two registers are read over TCP from an answer in three pieces, and nine coils over a serial
line. -/
theorem read_delivers_values_specimen :
    Framing.Suits .tcp Wire.Delivers ∧ Framing.Suits .rtu Wire.DeliversWhole
      ∧ Specimen.networked.master.connection = some .tcp
      ∧ Specimen.serialized.master.connection = some .rtu
      ∧ Coils.Packs Specimen.nine [0x4D, 1]
      ∧ (∃ response after, Specimen.networked.read .holdingRegisters 7 2 = (.ok response, after)
        ∧ Specimen.networked.Consumed Wire.Delivers Specimen.words after
        ∧ response.registers = .ok [42, 256])
      ∧ ∃ response after, Specimen.serialized.read .coils 7 9 = (.ok response, after)
        ∧ Specimen.serialized.Consumed Wire.DeliversWhole Specimen.packed after
        ∧ response.coils 9 = .ok Specimen.nine := by
  have hpacks : Coils.Packs Specimen.nine [0x4D, 1] := by
    have hpack : Coils.pack Specimen.nine = [0x4D, 1] := by decide +kernel
    exact hpack ▸ Coils.pack_packs Specimen.nine
  refine ⟨Wire.delivers_reliable, Wire.deliversWhole_unbroken, rfl, rfl, hpacks, ?_, ?_⟩
  · obtain ⟨hregisters, -⟩ := read_delivers_values (show Framing.Suits .tcp Wire.Delivers from
      Wire.delivers_reliable) (show Specimen.networked.master.connection = some .tcp from rfl) 7
    obtain ⟨frame, hframe, hread⟩ :=
      hregisters .holdingRegisters [42, 256] (.inl rfl) (by decide) (by decide)
    obtain rfl : Specimen.words = frame := Except.ok.inj hframe
    exact hread ⟨⟨[[0, 1, 0], [0, 0, 6, 1, 3, 4, 0], [42, 1, 0]], rfl, by decide, rfl⟩, nofun, rfl,
      rfl, rfl⟩
  · obtain ⟨-, hcoils⟩ := read_delivers_values (show Framing.Suits .rtu Wire.DeliversWhole from
      Wire.deliversWhole_unbroken) (show Specimen.serialized.master.connection = some .rtu from rfl)
      7
    obtain ⟨frame, hframe, hread⟩ :=
      hcoils .coils Specimen.nine [0x4D, 1] (.inl rfl) (by decide) (by decide) hpacks
    have hbuilt : Frame.rtu 1 1 [2, 0x4D, 1] = .ok Specimen.packed := by decide +kernel
    obtain rfl : Specimen.packed = frame := Except.ok.inj (hbuilt.symm.trans hframe)
    exact hread ⟨⟨⟨[Specimen.packed], rfl, by decide, rfl⟩, nofun, rfl, rfl, rfl⟩, rfl⟩

end FieldLink.Modbus
