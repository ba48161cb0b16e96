/-
  FieldLink.Proofs.Line.Custody
  ────────────────────────────────
  **EVERY CONNECTION IS CLOSED ONCE.**

  Nothing but the log knows how many connections a platform has given out.
  `Event.custody` reads the log event by event and remembers whether a
  connection is held; it gets stuck where one is asked for although another
  one is held, and where one is closed although none is.  A log that it can
  read to the end is in order:

      Custody.balance       — what was obtained, against what was closed
      Custody.closed_first  — nothing is held when a connection is asked for
      Custody.accounted     — both, for a client that begins without one
      Writes.custody        — work on a connection is always in order
-/
import FieldLink.Proofs.Line.Failure

namespace FieldLink

/-! ## §1. Events that make or end a connection. -/

namespace Event

/-- A connection is asked for; for a serial one the devices are listed first. -/
def asks : Event → Bool
  | .dialed .. | .opened .. | .enumerated _ => true
  | _ => false

/-- A connection is obtained. -/
def obtains : Event → Bool
  | .dialed _ worked | .opened _ worked => worked
  | _ => false

/-- A connection is closed, whether or not the platform likes it. -/
def closes : Event → Bool
  | .closed _ => true
  | _ => false

/-- Whether a connection is held after the event, if the event is in order: none is asked for while
one is held, and none is closed that is not held. -/
def custody (held : Bool) (event : Event) : Option Bool :=
  if event.asks then
    if held then none else some event.obtains
  else if event.closes then
    if held then some false else none
  else some held

/-- The event neither asks for a connection nor closes one. -/
def IsSettled (event : Event) : Prop := event.asks = false ∧ event.closes = false

theorem IsAside.isSettled {event : Event} (h : event.IsAside) : event.IsSettled := by
  cases event with
  | received | readFailed | timeoutSet | tlsStarted | delivered => exact ⟨rfl, rfl⟩
  | _ => exact h.elim

theorem IsUse.isSettled {event : Event} (h : event.IsUse) : event.IsSettled := by
  cases event with
  | received | readFailed | sent | writeFailed | flushed | timeoutSet => exact ⟨rfl, rfl⟩
  | _ => exact h.elim

theorem IsSettled.custody_eq {event : Event} (h : event.IsSettled) (held : Bool) :
    event.custody held = some held := by
  unfold Event.custody
  rw [h.1, h.2]
  rfl

/-- Only a request can obtain a connection, and none is a closing. -/
theorem obtains_eq_false {event : Event} (h : event.asks = false) : event.obtains = false := by
  cases event with
  | dialed | opened => cases h
  | _ => rfl

theorem closes_eq_false {event : Event} (h : event.asks = true) : event.closes = false := by
  cases event with
  | closed => cases h
  | _ => rfl

/-- One event in order: what is obtained is what is closed and the change in what is held. -/
theorem custody_balance {event : Event} {held held' : Bool}
    (h : event.custody held = some held') :
    held.toNat + event.obtains.toNat = event.closes.toNat + held'.toNat := by
  unfold Event.custody at h
  by_cases hasks : event.asks = true
  · rw [if_pos hasks] at h
    rw [closes_eq_false hasks]
    cases held with
    | true => cases h
    | false => rw [← Option.some.inj h]
  · rw [if_neg hasks] at h
    rw [obtains_eq_false (eq_false_of_ne_true hasks)]
    by_cases hcloses : event.closes = true
    · rw [if_pos hcloses] at h
      cases held with
      | true => rw [hcloses, ← Option.some.inj h]
      | false => cases h
    · rw [if_neg hcloses] at h
      rw [eq_false_of_ne_true hcloses, ← Option.some.inj h]
      exact Nat.add_comm _ _

end Event

/-! ## §2. Logs that are in order. -/

/-- The events are in order if a connection is held before them or not, as the first flag says; the
second one says whether one is held behind them. -/
def Custody (held : Bool) (events : List Event) (held' : Bool) : Prop :=
  events.foldlM Event.custody held = some held'

namespace Custody

variable {held held' held'' : Bool} {events later : List Event}

theorem nil (held : Bool) : Custody held [] held := rfl

/-- One event, and what follows. -/
theorem cons_iff {event : Event} :
    Custody held (event :: events) held''
      ↔ ∃ held', event.custody held = some held' ∧ Custody held' events held'' := by
  unfold Custody
  rw [List.foldlM_cons]
  exact Option.bind_eq_some_iff

theorem cons {event : Event} (hevent : event.custody held = some held')
    (h : Custody held' events held'') : Custody held (event :: events) held'' :=
  cons_iff.mpr ⟨held', hevent, h⟩

theorem append_iff :
    Custody held (events ++ later) held''
      ↔ ∃ held', Custody held events held' ∧ Custody held' later held'' := by
  unfold Custody
  rw [List.foldlM_append]
  exact Option.bind_eq_some_iff

theorem append (h : Custody held events held') (h' : Custody held' later held'') :
    Custody held (events ++ later) held'' :=
  append_iff.mpr ⟨held', h, h'⟩

theorem of_event {event : Event} (h : event.custody held = some held') :
    Custody held [event] held' :=
  cons h (nil held')

/-- Whatever else happens changes nothing. -/
theorem settled (h : ∀ event ∈ events, event.IsSettled) (held : Bool) :
    Custody held events held := by
  induction events with
  | nil => exact nil held
  | cons event events ih =>
    obtain ⟨hevent, hevents⟩ := List.forall_mem_cons.mp h
    exact cons (hevent.custody_eq held) (ih hevents)

/-- **What was obtained is what was closed and what is held.** -/
theorem balance (h : Custody held events held') :
    held.toNat + events.countP Event.obtains = events.countP Event.closes + held'.toNat := by
  induction events generalizing held with
  | nil =>
    obtain rfl := Option.some.inj h
    simp
  | cons event events ih =>
    obtain ⟨next, hnext, hrest⟩ := cons_iff.mp h
    have hstep := Event.custody_balance hnext
    have hlater := ih hrest
    have hone : ∀ flag : Bool, (if flag = true then 1 else 0) = flag.toNat := by decide
    rw [List.countP_cons, List.countP_cons, hone, hone]
    omega

/-- **When a connection is asked for, none is held.** -/
theorem closed_first {request : Event}
    (h : Custody held (events ++ request :: later) held') (hasks : request.asks = true) :
    held.toNat + events.countP Event.obtains = events.countP Event.closes := by
  obtain ⟨between, hbefore, hafter⟩ := append_iff.mp h
  obtain ⟨next, hnext, -⟩ := cons_iff.mp hafter
  cases between with
  | true =>
    rw [Event.custody, if_pos hasks] at hnext
    cases hnext
  | false => exact hbefore.balance

end Custody

/-- **The connections of a log are accounted for.** -/
structure Accounted (events : List Event) (held : Bool) : Prop where
  /-- All that were obtained have been closed, but for the one that is held. -/
  balance : events.countP Event.obtains
    = events.countP Event.closes + if held then 1 else 0
  /-- All that were obtained have been closed before the next one is asked for. -/
  closed_first : ∀ before request after, events = before ++ request :: after →
    request.asks = true → before.countP Event.obtains = before.countP Event.closes

/-- A log that begins without a connection and is in order accounts for all of them. -/
theorem Custody.accounted {events : List Event} {held : Bool} (h : Custody false events held) :
    Accounted events held := by
  refine ⟨?_, ?_⟩
  · have hbalance := h.balance
    cases held with
    | true => simpa using hbalance
    | false => simpa using hbalance
  · rintro before request after rfl hasks
    simpa using h.closed_first hasks

/-! ## §3. Lines and stretches of work. -/

/-- What happened between two lines is in order; the flags say whether a connection is held. -/
def Line.InCustody {σ : Type} (held : Bool) (line : Line σ) (held' : Bool) (line' : Line σ) :
    Prop :=
  ∃ events, line'.events = line.events ++ events ∧ Custody held events held'

namespace Line.InCustody

variable {σ : Type} {held held' held'' : Bool} {line line' line'' : Line σ}

theorem refl (held : Bool) (line : Line σ) : line.InCustody held held line :=
  ⟨[], (List.append_nil _).symm, .nil held⟩

theorem trans (h : Line.InCustody held line held' line')
    (h' : Line.InCustody held' line' held'' line'') :
    Line.InCustody held line held'' line'' := by
  obtain ⟨events, hlog, hcustody⟩ := h
  obtain ⟨events', hlog', hcustody'⟩ := h'
  exact ⟨events ++ events', by rw [hlog', hlog, List.append_assoc], hcustody.append hcustody'⟩

theorem of_event {event : Event} (hlog : line'.events = line.events ++ [event])
    (h : event.custody held = some held') : Line.InCustody held line held' line' :=
  ⟨[event], hlog, .of_event h⟩

end Line.InCustody

/-- Packets are written on a connection without making or ending one. -/
theorem Writes.custody {whole : Bool} {packets : List Octets} {events : List Event}
    (h : Writes whole packets events) (held : Bool) : Custody held events held := by
  induction h with
  | done => exact .nil held
  | aside haside _ ih => exact .cons (haside.isSettled.custody_eq held) ih
  | packet hsent _ ih =>
    have hsettled := Custody.settled (fun event hevent => (hsent.isUse event hevent).isSettled) held
    exact hsettled.append ih
  | interrupted hsent =>
    exact .settled (fun event hevent => (hsent.isUse event hevent).isSettled) held

end FieldLink
