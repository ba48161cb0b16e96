/-
  FieldLink.Proofs.Modbus.Rephrasing
  ────────────────────────────────
  **THE SAME WRITE IN TWO FORMS.**

  Coils and registers can be written as what they are, or as octets through
  the write that serves every table.  The two forms go different ways:
  coils as octets are told apart by zero, and registers pass a buffer that
  is longer than a request may be, so what is too much for the one check
  never comes to the other.  All the same they cannot be told apart, on any
  session and for arguments of any length:

      writeCoils_eq_write      — coils and octets that show them
      writeRegisters_eq_write  — registers and their octets
      apply_rephrased          — one operation in either form
      typed_writes_agree       — every run of them
-/
import Mathlib.Data.List.Forall2
import FieldLink.Proofs.Modbus.Refusal

namespace FieldLink.Modbus

/-! ## §1. One write. -/

/-- Octets that show coils: one for each, and it is not zero just if the coil is on. -/
structure Coils.Shows (values : Octets) (coils : List Bool) : Prop where
  /-- There is one for each. -/
  length_eq : values.length = coils.length
  /-- Only a coil that is off is shown by zero. -/
  nonzero_iff : ∀ i (hi : i < values.length) (hi' : i < coils.length),
    values[i] ≠ 0 ↔ coils[i] = true

/-- What is not zero tells the coils. -/
theorem Coils.Shows.map_eq {values : Octets} {coils : List Bool} (h : Shows values coils) :
    (values.map fun value => decide (value ≠ 0)) = coils := by
  refine List.ext_getElem (by rw [List.length_map, h.length_eq]) fun i hi hi' => ?_
  have hvalue : i < values.length := h.length_eq ▸ hi'
  rw [List.getElem_map, Bool.eq_iff_iff, decide_eq_true_iff]
  exact h.nonzero_iff i hvalue hi'

namespace Session

variable {σ : Type} [OctetStream σ]

/-- **Coils are written as the octets that show them.** -/
theorem writeCoils_eq_write (session : Session σ) (address : UInt16) {coils : List Bool}
    {values : Octets} (h : Coils.Shows values coils) :
    session.writeCoils address coils = session.write .coils address values := by
  rw [← h.map_eq]
  rfl

/-- **Registers are written as their octets**, and what their buffer has no room for is more than
any request has. -/
theorem writeRegisters_eq_write (session : Session σ) (address : UInt16)
    (registers : List UInt16) :
    session.writeRegisters address registers
      = session.write .holdingRegisters address (registers.flatMap Octets.big) := by
  unfold writeRegisters
  dsimp only
  split
  · next hlong =>
    rw [maxPduLength] at hlong
    show _ = session.confirm writeRegistersFunction (Request.writeRegisters address _)
    rw [Request.writeRegisters_refused (.inr (.inr (by omega)))]
    rfl
  · rfl

end Session

/-! ## §2. Runs. -/

/-- The second operation is the first one, but for the form of a write. -/
inductive Operation.Rephrases {σ : Type} : Operation σ → Operation σ → Prop where
  /-- Coils, and octets that show them. -/
  | coils (address : UInt16) {coils : List Bool} {values : Octets} (h : Coils.Shows values coils) :
      Rephrases (.writeCoils address coils) (.write .coils address values)
  /-- Registers, and their octets. -/
  | registers (address : UInt16) (registers : List UInt16) :
      Rephrases (.writeRegisters address registers)
        (.write .holdingRegisters address (registers.flatMap Octets.big))
  /-- The same operation. -/
  | same (operation : Operation σ) : Rephrases operation operation

section Runs

variable {σ : Type} [OctetStream σ] [Dialer σ] [SerialBus σ]

/-- Nothing tells two exchanges apart but the form of their operations. -/
structure Exchange.Same (exchange exchange' : Exchange σ) : Prop where
  /-- The same session before. -/
  before : exchange.before = exchange'.before
  /-- The same reply. -/
  reply : exchange.reply = exchange'.reply
  /-- The same events. -/
  events : exchange.events = exchange'.events
  /-- The same session after. -/
  after : exchange.after = exchange'.after

/-- **An operation does the same in either form.** -/
theorem apply_rephrased {operation operation' : Operation σ} (h : operation.Rephrases operation')
    (session : Session σ) : session.apply operation = session.apply operation' := by
  cases h with
  | coils address hshows =>
    exact congrArg (Session.replying _) (session.writeCoils_eq_write address hshows)
  | registers address registers =>
    exact congrArg (Session.replying _) (session.writeRegisters_eq_write address registers)
  | same => rfl

theorem exchange_rephrased {operation operation' : Operation σ}
    (h : operation.Rephrases operation') (session : Session σ) :
    Exchange.Same ⟨session, operation⟩ ⟨session, operation'⟩ where
  before := rfl
  reply := congrArg Prod.fst (apply_rephrased h session)
  events := congrArg (fun outcome => outcome.2.line.events.drop session.line.events.length)
    (apply_rephrased h session)
  after := congrArg Prod.snd (apply_rephrased h session)

/-- Every run goes through the same exchanges and ends in the same session. -/
theorem runs_rephrased {operations operations' : List (Operation σ)}
    (h : List.Forall₂ Operation.Rephrases operations operations') (session : Session σ) :
    List.Forall₂ Exchange.Same (session.history operations) (session.history operations')
      ∧ session.run operations = session.run operations' := by
  refine Endpoint.related_runs ?_ h rfl
  rintro session _ rfl operation operation' hoperation
  exact ⟨exchange_rephrased hoperation session,
    congrArg Prod.snd (apply_rephrased hoperation session)⟩

/-- **The two forms of a write cannot be told apart.**  On every session and every platform, a
write of coils gives the same result, the same events and the same session as the general write of
any octets that show them, and a write of registers the same as the general write of their octets,
however many there are.  So every run comes to the same with its writes in either form, exchange by
exchange. -/
theorem typed_writes_agree (session : Session σ) :
    (∀ address coils values, Coils.Shows values coils →
        session.writeCoils address coils = session.write .coils address values)
      ∧ (∀ address registers, session.writeRegisters address registers
        = session.write .holdingRegisters address (registers.flatMap Octets.big))
      ∧ ∀ operations operations', List.Forall₂ Operation.Rephrases operations operations' →
        List.Forall₂ Exchange.Same (session.history operations) (session.history operations')
          ∧ session.run operations = session.run operations' :=
  ⟨fun address _ _ => session.writeCoils_eq_write address,
    fun address registers => session.writeRegisters_eq_write address registers,
    fun _ _ h => runs_rephrased h session⟩

end Runs

namespace Specimen

/-- A device confirms the write of three coils, and then the connection is gone. -/
def confirming : Session Wire where
  master := { connection := some .tcp }
  line := { platform :=
    { inbound := [.chunk [0, 1, 0, 0, 0, 5, 1, 15, 0, 4, 0, 3], .ending], writeChunk := some 5 } }

end Specimen

/-- Three coils are written and confirmed in either form, 127 registers are refused in either, and
two registers find the connection lost. -/
theorem typed_writes_agree_specimen :
    let typed : List (Operation Wire) := [.writeCoils 4 [true, false, true],
      .writeRegisters 0 (List.replicate 127 7), .writeRegisters 9 [555, 100]]
    let general : List (Operation Wire) := [.write .coils 4 [255, 0, 1],
      .write .holdingRegisters 0 ((List.replicate 127 7).flatMap Octets.big),
      .write .holdingRegisters 9 [2, 0x2B, 0, 0x64]]
    Coils.Shows [255, 0, 1] [true, false, true]
      ∧ Specimen.confirming.writeCoils 4 [true, false, true]
        = Specimen.confirming.write .coils 4 [255, 0, 1]
      ∧ List.Forall₂ Operation.Rephrases typed general
      ∧ Specimen.confirming.run typed = Specimen.confirming.run general
      ∧ (Specimen.confirming.history typed).map Exchange.reply
        = [.ok .done, .error .invalidArgument, .error .connectionClosed] := by
  intro typed general
  have hshows : Coils.Shows [255, 0, 1] [true, false, true] := ⟨rfl, by decide⟩
  have hforms : List.Forall₂ Operation.Rephrases typed general :=
    .cons (.coils 4 hshows) (.cons (.registers 0 _) (.cons (.registers 9 [555, 100]) .nil))
  obtain ⟨hcoils, -, hruns⟩ := typed_writes_agree Specimen.confirming
  exact ⟨hshows, hcoils 4 _ _ hshows, hforms, (hruns typed general hforms).2, by decide +kernel⟩

end FieldLink.Modbus
