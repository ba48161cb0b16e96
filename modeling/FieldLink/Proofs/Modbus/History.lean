/-
  FieldLink.Proofs.Modbus.History
  ────────────────────────────────
  **WHERE AN OPEN CONNECTION COMES FROM.**

  A master holds at most one connection, and only two operations open one;
  every other one leaves it as it is or closes it.  So the framing of the
  open connection is the one of the last exchange of the run that opened
  any:

      connection_step       — one exchange opens, keeps or closes
      opened_of_connection  — the last opening of a run
-/
import FieldLink.Proofs.History
import FieldLink.Proofs.Modbus.Calls

namespace FieldLink.Modbus

/-! ## §1. Exchanges and histories. -/

/-- One operation of a run, with the session that it found. -/
abbrev Exchange (σ : Type) : Type := FieldLink.Exchange (Session σ) (Operation σ)

section Histories

variable {σ : Type} [OctetStream σ] [Dialer σ] [SerialBus σ]

/-- The exchanges of a run, first one first. -/
abbrev Session.history (session : Session σ) (operations : List (Operation σ)) :
    List (Exchange σ) :=
  Endpoint.history session operations

/-- The operation was to open such a connection, and it did. -/
def Exchange.Opens (exchange : Exchange σ) (framing : Framing) : Prop :=
  exchange.operation.opens? = some framing ∧ exchange.reply = .ok .done

/-- The last opening of a history gave this framing. -/
def Opened (history : List (Exchange σ)) (framing : Framing) : Prop :=
  ∃ past opening later, history = past ++ opening :: later ∧ opening.Opens framing
    ∧ ∀ other ∈ later, ∀ framing', ¬ other.Opens framing'

end Histories

/-! ## §2. The last opening. -/

section Provenance

variable {σ : Type} [OctetStream σ] [Dialer σ] [SerialBus σ]

/-- **A connection that is open after an exchange was opened by it**, or it was open before and the
exchange opened none. -/
theorem Exchange.connection_step (exchange : Exchange σ) {framing : Framing}
    (h : exchange.after.master.connection = some framing) :
    exchange.Opens framing
      ∨ (∀ framing', ¬ exchange.Opens framing')
        ∧ exchange.before.master.connection = some framing := by
  obtain ⟨session, operation⟩ := exchange
  have happlying := apply_applying session operation
  change (session.apply operation).2.master.connection = some framing at h
  show (operation.opens? = some framing ∧ (session.apply operation).1 = .ok .done)
    ∨ (∀ framing', ¬ (operation.opens? = some framing' ∧ (session.apply operation).1 = .ok .done))
      ∧ session.master.connection = some framing
  generalize session.apply operation = outcome at happlying h ⊢
  cases happlying with
  | attempted hopens hattempting =>
    cases hattempting with
    | connected hsilent hopen =>
      obtain rfl := Option.some.inj (hopen.symm.trans h)
      exact .inl ⟨hopens, rfl⟩
    | failed hpassive =>
      exact .inr ⟨fun _ hgiven => (nomatch hgiven.2), hpassive.inherits framing h⟩
  | requested hasks hexchanging =>
    rw [hasks.isRequest.opens?_eq]
    exact .inr ⟨fun _ hgiven => (nomatch hgiven.1), hexchanging.inherits framing h⟩
  | given hsending => exact .inr ⟨fun _ hgiven => (nomatch hgiven.1), hsending.inherits framing h⟩
  | passed hopens hpassive hfault =>
    rw [hopens]
    exact .inr ⟨fun _ hgiven => (nomatch hgiven.1), hpassive.inherits framing h⟩

/-- One exchange more keeps an opening the last one, or it is the last one itself. -/
theorem Opened.concat {history : List (Exchange σ)} (last : Exchange σ)
    (h : ∀ framing, last.before.master.connection = some framing → Opened history framing)
    (framing : Framing) (hopen : last.after.master.connection = some framing) :
    Opened (history ++ [last]) framing := by
  rcases last.connection_step hopen with hopens | ⟨hnone, hbefore⟩
  · exact ⟨history, last, [], rfl, hopens, nofun⟩
  · obtain ⟨past, opening, later, rfl, hopens, hlater⟩ := h framing hbefore
    exact ⟨past, opening, later ++ [last], by simp, hopens,
      List.forall_mem_append.mpr ⟨hlater, List.forall_mem_singleton.mpr hnone⟩⟩

/-- **The framing of the open connection is the one of the last opening.** -/
theorem opened_of_connection (line : Line σ) (operations : List (Operation σ)) {framing : Framing}
    (h : ((⟨{}, line⟩ : Session σ).run operations).master.connection = some framing) :
    Opened ((⟨{}, line⟩ : Session σ).history operations) framing := by
  refine Endpoint.history_induction
    (motive := fun history session =>
      ∀ framing, session.master.connection = some framing → Opened history framing)
    ?_ Opened.concat operations framing h
  intro framing hopen
  cases hopen

end Provenance

end FieldLink.Modbus
