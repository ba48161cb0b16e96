/-
  FieldLink.Proofs.Line.Failure
  ────────────────────────────────
  **HOW A TRANSFER THAT FAILED SHOWS IN THE LOG.**

  A transfer reports one cause, and that cause can be read off the events
  which it left behind.  A reader that gives up does so at its last event,
  and what had come before tells silence from a broken stream.  A writer
  that gives up leaves an event of its own kind, and one that succeeds
  leaves none:

      readExact_gaveUp     — the last read, and what was still wanting
      writeAll_ok_smooth   — a complete write has no failure in its events
      writeAll_error_event — any other one has
-/
import FieldLink.Proofs.Line.Writes

namespace FieldLink

/-! ## §1. The events of a failure. -/

namespace Event

/-- An attempt to write came to nothing: it failed, it took no octet, or nothing was pushed out. -/
def IsFailedWrite : Event → Prop
  | .writeFailed => True
  | .sent octets => octets = []
  | .flushed worked => worked = false
  | _ => False

/-- The connection was used, and it did what was asked of it; nothing came in. -/
def IsSmooth : Event → Prop
  | .sent octets => octets ≠ []
  | .flushed worked => worked = true
  | .timeoutSet _ worked => worked = true
  | _ => False

/-- The open connection was used, and it is still there. -/
def IsUse : Event → Prop
  | .received _ | .readFailed | .sent _ | .writeFailed | .flushed _ | .timeoutSet .. => True
  | _ => False

theorem IsSmooth.isUse {event : Event} (h : event.IsSmooth) : event.IsUse := by
  cases event with
  | sent | flushed | timeoutSet => trivial
  | _ => exact h.elim

theorem IsSmooth.not_isFailedWrite {event : Event} (h : event.IsSmooth) :
    ¬ event.IsFailedWrite := by
  cases event with
  | sent octets => exact h
  | flushed worked =>
    intro hfailed
    exact Bool.false_ne_true (hfailed.symm.trans h)
  | timeoutSet => exact id
  | _ => exact h.elim

theorem IsSmooth.not_isRead {event : Event} (h : event.IsSmooth) : ¬ event.IsRead := by
  cases event with
  | sent | flushed | timeoutSet => exact id
  | _ => exact h.elim

theorem IsSmooth.inbound_eq {event : Event} (h : event.IsSmooth) : event.inbound = [] := by
  cases event with
  | received => exact h.elim
  | _ => rfl

theorem IsRead.isUse {event : Event} (h : event.IsRead) : event.IsUse := by
  cases event with
  | received | readFailed => trivial
  | _ => exact h.elim

end Event

/-- Taking a packet in pieces is a use of the connection. -/
theorem isUse_of_pieces (pieces : List Octets) {last : Event} (hlast : last.IsUse) :
    ∀ event ∈ pieces.map Event.sent ++ [last], event.IsUse := by
  refine List.forall_mem_append.mpr ⟨?_, List.forall_mem_singleton.mpr hlast⟩
  intro event hevent
  obtain ⟨piece, -, rfl⟩ := List.mem_map.mp hevent
  trivial

theorem Delivered.isUse {packet : Octets} {events : List Event} (h : Delivered packet events) :
    ∀ event ∈ events, event.IsUse := by
  obtain ⟨pieces, -, rfl⟩ := h
  exact isUse_of_pieces pieces (by trivial)

theorem Interrupted.isUse {packet : Octets} {events : List Event}
    (h : Interrupted packet events) : ∀ event ∈ events, event.IsUse := by
  obtain ⟨pieces, last, rfl, ⟨-, rfl⟩ | ⟨unsent, -, -, rfl | rfl⟩⟩ := h <;>
    exact isUse_of_pieces pieces (by trivial)

theorem Traffic.received_smooth {events : List Event} (h : ∀ event ∈ events, event.IsSmooth) :
    Traffic.received events = [] :=
  List.flatMap_eq_nil_iff.mpr fun event hevent => (h event hevent).inbound_eq

/-- The read at which a reader gave up. -/
def Shortfall.event : Shortfall → Event
  | .closed => .received []
  | .failed => .readFailed

/-- The cause that is reported if there are these octets of what was wanted. -/
def Shortfall.fault (part : Octets) : Shortfall → Fault
  | .closed => .connectionClosed
  | .failed => if part = [] then .timedOut else .readFailed

theorem Shortfall.event_isRead (shortfall : Shortfall) : shortfall.event.IsRead := by
  cases shortfall <;> trivial

/-- Giving up is always reported as a failure of the stream. -/
theorem Shortfall.fault_cases (part : Octets) (shortfall : Shortfall) :
    shortfall.fault part = .connectionClosed ∨ shortfall.fault part = .timedOut
      ∨ shortfall.fault part = .readFailed := by
  cases shortfall with
  | closed => exact .inl rfl
  | failed =>
    by_cases hpart : part = []
    · exact .inr (.inl (if_pos hpart))
    · exact .inr (.inr (if_neg hpart))

/-- The cause that is reported for a stream that broke within a unit. -/
def Fault.IsLoss : Fault → Prop
  | .writeFailed | .readFailed | .connectionClosed => True
  | _ => False

theorem Fault.IsLoss.kind_eq {fault : Fault} (h : fault.IsLoss) : fault.kind = .transport := by
  cases fault with
  | writeFailed | readFailed | connectionClosed => rfl
  | _ => exact h.elim

/-- The cause lies with the line or with what came in over it. -/
def Fault.IsFromLine : Fault → Prop
  | .writeFailed | .readFailed | .timedOut | .connectionClosed | .protocolViolation
  | .checksumMismatch .. => True
  | _ => False

theorem Shortfall.fault_isFromLine (part : Octets) (shortfall : Shortfall) :
    (shortfall.fault part).IsFromLine := by
  rcases shortfall.fault_cases part with heq | heq | heq <;>
    · rw [heq]
      trivial

/-- A reader that wanted `need` octets gave up behind these reads, for this cause. -/
structure GaveUp (need : Nat) (reads : List Event) (fault : Fault) : Prop where
  /-- Nothing but reads happened. -/
  isRead : ∀ event ∈ reads, event.IsRead
  /-- Something was still wanting. -/
  wanting : (Traffic.received reads).length < need
  /-- The last read is the reason. -/
  stopped : ∃ shortfall : Shortfall, reads.getLast? = some shortfall.event
    ∧ fault = shortfall.fault (Traffic.received reads)

/-- Unless nothing came in time, a reader that gave up met a broken stream. -/
theorem GaveUp.isLoss {need : Nat} {reads : List Event} {fault : Fault}
    (h : GaveUp need reads fault) (hfault : fault ≠ .timedOut) : fault.IsLoss := by
  obtain ⟨shortfall, -, rfl⟩ := h.stopped
  rcases shortfall.fault_cases (Traffic.received reads) with heq | heq | heq
  · rw [heq]
    trivial
  · exact absurd heq hfault
  · rw [heq]
    trivial

/-! ## §2. Reading. -/

namespace Line

variable {σ : Type} [OctetStream σ]

/-- A reader stops at the read that gave it nothing. -/
theorem gather_last {need : Nat} {line : Line σ} {shortfall : Shortfall}
    (h : (line.gather need).shortfall = some shortfall) :
    ∃ front, (line.gather need).line.events = line.events ++ (front ++ [shortfall.event]) := by
  induction need using Nat.strongRecOn generalizing line with
  | ind need ih =>
    have hlog := events_read need line
    rw [gather] at h ⊢
    by_cases hzero : need = 0
    · rw [if_pos hzero] at h
      cases h
    · rw [if_neg hzero] at h ⊢
      split at h
      · next line' hread =>
        obtain rfl := Option.some.inj h
        rw [hread] at hlog
        exact ⟨[], hlog⟩
      · next line' hread =>
        obtain rfl := Option.some.inj h
        rw [hread] at hlog
        exact ⟨[], hlog⟩
      · next octet octets line' hread =>
        rw [hread] at hlog
        obtain ⟨front, hrest⟩ := ih (need - (octets.length + 1)) (by omega) h
        refine ⟨.received (octet :: octets) :: front, ?_⟩
        show (gather (need - (octets.length + 1)) line').line.events = _
        rw [hrest, hlog, List.append_assoc]
        rfl

/-- **An incomplete read says where it gave up and why.** -/
theorem readExact_gaveUp {need : Nat} {line line' : Line σ} {fault : Fault}
    (h : line.readExact need = (.error fault, line')) :
    ∃ reads, line'.events = line.events ++ reads ∧ GaveUp need reads fault := by
  obtain ⟨hresult, rfl⟩ := Prod.mk.inj h
  obtain ⟨reads, hlog, hisRead, hoctets⟩ := reads_gather need line
  cases hshort : (line.gather need).shortfall with
  | none => simp [Gathered.result, hshort] at hresult
  | some shortfall =>
    obtain ⟨front, hfront⟩ := gather_last hshort
    have hreads : reads = front ++ [shortfall.event] :=
      List.append_cancel_left (hlog.symm.trans hfront)
    refine ⟨reads, hlog, hisRead, ?_, shortfall, ?_, ?_⟩
    · rw [hoctets]
      exact length_gather_lt hshort
    · rw [hreads, List.getLast?_append, List.getLast?_singleton]
      rfl
    · rw [hoctets]
      unfold Gathered.result at hresult
      rw [hshort] at hresult
      cases shortfall with
      | closed => exact (Except.error.inj hresult).symm
      | failed => exact (Except.error.inj hresult).symm

/-! ## §3. Writing. -/

/-- While octets are taken there is no failure among the events. -/
theorem offerAll_smooth {octets : Octets} {line line' : Line σ}
    (h : line.offerAll octets = (true, line')) :
    ∃ events, line'.events = line.events ++ events ∧ ∀ event ∈ events, event.IsSmooth := by
  fun_induction offerAll octets line with
  | case1 line =>
    obtain ⟨-, rfl⟩ := Prod.mk.inj h
    exact ⟨[], (List.append_nil _).symm, List.forall_mem_nil _⟩
  | case2 => cases h
  | case3 => cases h
  | case4 octet octets line taken line₁ hwrite ih =>
    obtain ⟨events, hlog, hsmooth⟩ := ih h
    have hsome : Event.IsSmooth (.sent ((octet :: octets).take (taken + 1))) := by
      show (octet :: octets).take (taken + 1) ≠ []
      simp
    refine ⟨_ :: events, ?_, List.forall_mem_cons.mpr ⟨hsome, hsmooth⟩⟩
    rw [hlog, events_write_some hwrite, List.append_assoc]
    rfl

/-- **A complete write has no failure in its events.** -/
theorem writeAll_ok_smooth {packet : Octets} {line line' : Line σ}
    (h : line.writeAll packet = (.ok (), line')) :
    ∃ events, line'.events = line.events ++ events ∧ ∀ event ∈ events, event.IsSmooth := by
  unfold writeAll at h
  split at h
  · cases h
  · next line₁ hoffer =>
    obtain ⟨events, hlog, hsmooth⟩ := offerAll_smooth hoffer
    have hflush := events_flush line₁
    split at h
    · cases h
    · next line₂ heq =>
      obtain ⟨-, rfl⟩ := Prod.mk.inj h
      rw [heq, hlog, List.append_assoc] at hflush
      refine ⟨_, hflush, List.forall_mem_append.mpr ⟨hsmooth, ?_⟩⟩
      exact List.forall_mem_singleton.mpr rfl

/-- **Any other write has one.** -/
theorem writeAll_error_event {packet : Octets} {line line' : Line σ} {fault : Fault}
    (h : line.writeAll packet = (.error fault, line')) :
    fault = .writeFailed ∧ ∃ events, line'.events = line.events ++ events
      ∧ (∀ event ∈ events, event.IsUse) ∧ ∃ event ∈ events, event.IsFailedWrite := by
  obtain ⟨hfault, events, hlog, hsent⟩ := writeAll_error h
  refine ⟨hfault, events, hlog, hsent.isUse, ?_⟩
  -- the failure is the last event, whichever it is
  obtain ⟨pieces, last, rfl, ⟨-, rfl⟩ | ⟨unsent, -, -, rfl | rfl⟩⟩ := hsent
  · exact ⟨.flushed false, by simp, rfl⟩
  · exact ⟨.writeFailed, by simp, trivial⟩
  · exact ⟨.sent [], by simp, rfl⟩

end Line

end FieldLink
