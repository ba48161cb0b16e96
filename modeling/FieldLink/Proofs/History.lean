/-
  FieldLink.Proofs.History
  ────────────────────────────────
  **THE HISTORY OF A RUN.**

  A run leaves more behind than its last session: the list of its
  exchanges, each with the session before it and the operation that was
  performed there.  What an exchange replied, left and added to the log
  follows from these two.  A run is taken apart from either end:

      Exchange.events_eq         — what an exchange added to the log
      run_concat, history_concat — one operation more, at the end
      history_induction          — what one exchange more keeps, every run keeps
      history_split              — where an exchange of a history begins
      related_runs               — two runs that stay related, step by step
-/
import Mathlib.Data.List.Forall2
import Mathlib.Data.List.Induction
import FieldLink.Run

namespace FieldLink

variable {S O R κ σ : Type} [Endpoint S O R κ σ]

/-! ## §1. Exchanges. -/

/-- One operation of a run, with the session that it found. -/
structure Exchange (S O : Type) where
  /-- The session before the operation. -/
  before : S
  /-- The operation. -/
  operation : O

namespace Exchange

/-- What the operation replied. -/
def reply (exchange : Exchange S O) : Except Fault R :=
  (Endpoint.apply exchange.before exchange.operation).1

/-- The session after the operation. -/
def after (exchange : Exchange S O) : S :=
  (Endpoint.apply exchange.before exchange.operation).2

/-- What the operation added to the log. -/
def events (exchange : Exchange S O) : List Event :=
  (Endpoint.line exchange.after).events.drop (Endpoint.line exchange.before).events.length

theorem events_eq {exchange : Exchange S O} {events : List Event}
    (h : (Endpoint.line exchange.after).events
      = (Endpoint.line exchange.before).events ++ events) :
    exchange.events = events := by
  rw [Exchange.events, h, List.drop_left]

end Exchange

/-! ## §2. Runs and their histories. -/

namespace Endpoint

/-- The exchanges of a run, first one first. -/
def history : S → List O → List (Exchange S O)
  | _, [] => []
  | session, operation :: operations =>
    ⟨session, operation⟩ :: history (apply session operation).2 operations

theorem run_concat (session : S) (operations : List O) (operation : O) :
    run session (operations ++ [operation]) = (apply (run session operations) operation).2 := by
  induction operations generalizing session with
  | nil => rfl
  | cons first operations ih => exact ih (apply session first).2

theorem history_concat (session : S) (operations : List O) (operation : O) :
    history session (operations ++ [operation])
      = history session operations ++ [⟨run session operations, operation⟩] := by
  induction operations generalizing session with
  | nil => rfl
  | cons first operations ih =>
    rw [List.cons_append, history, ih (apply session first).2]
    rfl

/-- **What one exchange more keeps, every run keeps**, of its history and the session that it
reaches. -/
theorem history_induction {motive : List (Exchange S O) → S → Prop} {session : S}
    (start : motive [] session)
    (step : ∀ {history : List (Exchange S O)} (last : Exchange S O),
      motive history last.before → motive (history ++ [last]) last.after)
    (operations : List O) : motive (history session operations) (run session operations) := by
  -- induction from the back: the last operation meets the session that the others have reached
  induction operations using List.reverseRecOn with
  | nil => exact start
  | append_singleton operations operation ih =>
    rw [history_concat, run_concat]
    exact step ⟨run session operations, operation⟩ ih

/-- What every operation keeps, every run keeps. -/
theorem run_induction {motive : S → Prop}
    (step : ∀ session operation, motive session → motive (apply session operation).2)
    {session : S} (h : motive session) (operations : List O) :
    motive (run session operations) :=
  history_induction (motive := fun _ reached => motive reached) h
    (fun last => step last.before last.operation) operations

/-- An exchange of a history begins where the run of the operations before it ends. -/
theorem history_split {session : S} {operations : List O} {past later : List (Exchange S O)}
    {exchange : Exchange S O} (h : history session operations = past ++ exchange :: later) :
    ∃ earlier, past = history session earlier ∧ exchange.before = run session earlier := by
  induction past generalizing session operations with
  | nil =>
    cases operations with
    | nil => cases h
    | cons operation operations =>
      obtain ⟨rfl, -⟩ := List.cons.inj h
      exact ⟨[], rfl, rfl⟩
  | cons first past ih =>
    cases operations with
    | nil => cases h
    | cons operation operations =>
      obtain ⟨rfl, htail⟩ := List.cons.inj h
      obtain ⟨earlier, hpast, hbefore⟩ := ih htail
      exact ⟨operation :: earlier, by rw [hpast, history], hbefore⟩

theorem exists_run_of_mem_history {session : S} {operations : List O} {exchange : Exchange S O}
    (h : exchange ∈ history session operations) :
    ∃ earlier, exchange.before = run session earlier := by
  obtain ⟨past, later, hsplit⟩ := List.append_of_mem h
  obtain ⟨earlier, -, hbefore⟩ := history_split hsplit
  exact ⟨earlier, hbefore⟩

/-- **Runs that are related at first stay related**, if operations that answer to each other keep
the relation; and their exchanges come to the same one by one. -/
theorem related_runs {S' O' R' κ' σ' : Type} [Endpoint S' O' R' κ' σ'] {related : S → S' → Prop}
    {answers : O → O' → Prop} {alike : Exchange S O → Exchange S' O' → Prop}
    (step : ∀ {session session'}, related session session' →
      ∀ {operation operation'}, answers operation operation' →
        alike ⟨session, operation⟩ ⟨session', operation'⟩
          ∧ related (apply session operation).2 (apply session' operation').2)
    {operations : List O} {operations' : List O'}
    (hoperations : List.Forall₂ answers operations operations') {session : S} {session' : S'}
    (h : related session session') :
    List.Forall₂ alike (history session operations) (history session' operations')
      ∧ related (run session operations) (run session' operations') := by
  induction hoperations generalizing session session' with
  | nil => exact ⟨.nil, h⟩
  | cons hoperation _ ih =>
    obtain ⟨halike, hafter⟩ := step h hoperation
    obtain ⟨hlater, hend⟩ := ih hafter
    exact ⟨.cons halike hlater, hend⟩

end Endpoint

/-- An element of a list with one more at its end is that one, or it stood in the list before. -/
theorem eq_last_or_split {α : Type} {items past later : List α} {item last : α}
    (h : items ++ [last] = past ++ item :: later) :
    (item = last ∧ past = items ∧ later = [])
      ∨ ∃ before, later = before ++ [last] ∧ items = past ++ item :: before := by
  rcases List.eq_nil_or_concat later with rfl | ⟨before, final, rfl⟩
  · obtain ⟨rfl, hlast⟩ := List.append_inj' h rfl
    exact .inl ⟨(List.singleton_inj.mp hlast).symm, rfl, rfl⟩
  · rw [List.concat_eq_append] at h ⊢
    have hregrouped : items ++ [last] = (past ++ item :: before) ++ [final] := by
      rw [h]
      simp
    obtain ⟨hitems, hlast⟩ := List.append_inj' hregrouped rfl
    exact .inr ⟨before, by rw [List.singleton_inj.mp hlast], hitems⟩

end FieldLink
