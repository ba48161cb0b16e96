/-
  FieldLink.Proofs.Line.Traffic
  ────────────────────────────────
  **WHAT A TRANSFER LEAVES IN THE LOG.**

  The log of a line is read here as traffic: the octets that came in and the
  octets that went out.  Every transfer is described by the stretch of
  events that it adds at the end of the log, whatever the platform is:

      reads_readExact_ok   — a complete read adds reads of exactly its result
      readExact_error      — an incomplete one adds reads of too few octets
      writeAll_ok          — a complete write adds its packet and a flush
      writeAll_error       — any other one adds the front part of its packet

  A complete write is `Delivered`, any other one `Interrupted`; the last
  event of either says which of the two it was.
-/
import FieldLink.Line.Transfer

namespace FieldLink

/-! ## §1. The octets of a stretch of events. -/

namespace Event

/-- The octets that an event brought in. -/
def inbound : Event → Octets
  | .received octets => octets
  | _ => []

/-- The octets that an event took out. -/
def outbound : Event → Octets
  | .sent octets => octets
  | _ => []

/-- The event of a read. -/
def IsRead : Event → Prop
  | .received _ | .readFailed => True
  | _ => False

end Event

namespace Traffic

/-- The octets that came in, first received first. -/
def received (events : List Event) : Octets := events.flatMap Event.inbound

/-- The octets that went out, first sent first. -/
def sent (events : List Event) : Octets := events.flatMap Event.outbound

@[simp] theorem received_append (before after : List Event) :
    received (before ++ after) = received before ++ received after := by
  simp [received]

@[simp] theorem sent_append (before after : List Event) :
    sent (before ++ after) = sent before ++ sent after := by
  simp [sent]

@[simp] theorem received_nil : received [] = [] := rfl

@[simp] theorem sent_nil : sent [] = [] := rfl

@[simp] theorem received_cons (event : Event) (events : List Event) :
    received (event :: events) = event.inbound ++ received events := rfl

@[simp] theorem sent_cons (event : Event) (events : List Event) :
    sent (event :: events) = event.outbound ++ sent events := rfl

end Traffic

/-! ## §2. Reading. -/

namespace Line

variable {σ : Type}

/-- Between two lines nothing happened but reads, and they gave these octets. -/
def Reads (line line' : Line σ) (octets : Octets) : Prop :=
  ∃ events, line'.events = line.events ++ events ∧ (∀ event ∈ events, event.IsRead)
    ∧ Traffic.received events = octets

theorem Reads.refl (line : Line σ) : line.Reads line [] :=
  ⟨[], by simp, by simp, rfl⟩

theorem Reads.trans {first second third : Line σ} {before after : Octets}
    (h : first.Reads second before) (h' : second.Reads third after) :
    first.Reads third (before ++ after) := by
  obtain ⟨events, hlog, hread, hoctets⟩ := h
  obtain ⟨events', hlog', hread', hoctets'⟩ := h'
  refine ⟨events ++ events', ?_, ?_, ?_⟩
  · rw [hlog', hlog, List.append_assoc]
  · intro event hevent
    rcases List.mem_append.mp hevent with hmem | hmem
    · exact hread event hmem
    · exact hread' event hmem
  · rw [Traffic.received_append, hoctets, hoctets']

/-- Which octets came in between two lines is told by their logs. -/
theorem Reads.octets_eq {line line' : Line σ} {octets octets' : Octets}
    (h : line.Reads line' octets) (h' : line.Reads line' octets') : octets = octets' := by
  obtain ⟨events, hlog, -, rfl⟩ := h
  obtain ⟨events', hlog', -, rfl⟩ := h'
  rw [List.append_cancel_left (hlog.symm.trans hlog')]

variable [OctetStream σ]

theorem reads_read (limit : Nat) (line : Line σ) :
    line.Reads (line.read limit).2 ((line.read limit).1.getD []) := by
  refine ⟨[readEvent (line.read limit).1], events_read limit line, ?_, ?_⟩
  · intro event hevent
    rw [List.mem_singleton.mp hevent]
    cases (line.read limit).1 <;> trivial
  · cases (line.read limit).1 <;> simp [readEvent, Event.inbound]

/-- What a reader collected is what the platform gave it. -/
theorem reads_gather (need : Nat) (line : Line σ) :
    line.Reads (line.gather need).line (line.gather need).octets := by
  induction need using Nat.strongRecOn generalizing line with
  | ind need ih =>
    have hread := reads_read need line
    rw [gather]
    split
    · exact Reads.refl line
    · next hpos =>
      split
      · next line' heq =>
        rw [heq] at hread
        exact hread
      · next line' heq =>
        rw [heq] at hread
        exact hread
      · next octet octets line' heq =>
        rw [heq] at hread
        have hrest := ih (need - (octets.length + 1)) (by omega) line'
        exact hread.trans hrest

/-- A reader that stopped early has less than it needed. -/
theorem length_gather_lt {need : Nat} {line : Line σ} {shortfall : Shortfall}
    (h : (line.gather need).shortfall = some shortfall) :
    (line.gather need).octets.length < need := by
  induction need using Nat.strongRecOn generalizing line with
  | ind need ih =>
    rw [gather] at h ⊢
    split
    · next hzero =>
      rw [if_pos hzero] at h
      cases h
    · next hpos =>
      rw [if_neg hpos] at h
      split
      · exact Nat.pos_of_ne_zero hpos
      · exact Nat.pos_of_ne_zero hpos
      · next octet octets line' heq =>
        rw [heq] at h
        have hle := length_read_le heq
        simp only [List.length_cons] at hle
        have hrest := ih (need - (octets.length + 1)) (by omega) h
        simp only [List.cons_append, List.length_cons, List.length_append]
        omega

/-- **A complete read gives exactly what came in.** -/
theorem reads_readExact_ok {need : Nat} {line line' : Line σ} {octets : Octets}
    (h : line.readExact need = (.ok octets, line')) : line.Reads line' octets := by
  obtain ⟨hresult, hline⟩ := Prod.mk.inj h
  have hoctets : (line.gather need).octets = octets := by
    unfold Gathered.result at hresult
    split at hresult
    · exact Except.ok.inj hresult
    · cases hresult
    · cases hresult
  rw [← hline, ← hoctets]
  exact reads_gather need line

/-- **An incomplete read leaves something wanting**, and it is silence only if nothing came. -/
theorem readExact_error {need : Nat} {line line' : Line σ} {fault : Fault}
    (h : line.readExact need = (.error fault, line')) :
    ∃ octets, line.Reads line' octets ∧ octets.length < need
      ∧ (fault = .timedOut → octets = []) := by
  obtain ⟨hresult, hline⟩ := Prod.mk.inj h
  refine ⟨(line.gather need).octets, hline ▸ reads_gather need line, ?_, ?_⟩
  · cases hshort : (line.gather need).shortfall with
    | none => simp [Gathered.result, hshort] at hresult
    | some shortfall => exact length_gather_lt hshort
  · rintro rfl
    unfold Gathered.result at hresult
    split at hresult
    · cases hresult
    · cases hresult
    · by_cases hnil : (line.gather need).octets = []
      · exact hnil
      · simp [hnil] at hresult

end Line

/-! ## §3. Writing. -/

/-- The packet went out in some number of pieces and was flushed. -/
def Delivered (packet : Octets) (events : List Event) : Prop :=
  ∃ pieces : List Octets, pieces.flatten = packet
    ∧ events = pieces.map Event.sent ++ [.flushed true]

/-- Either the flush of the whole packet failed, or only a part of it was taken. -/
def Interrupted (packet : Octets) (events : List Event) : Prop :=
  ∃ (pieces : List Octets) (last : Event), events = pieces.map Event.sent ++ [last]
    ∧ (pieces.flatten = packet ∧ last = .flushed false
      ∨ ∃ unsent, unsent ≠ [] ∧ pieces.flatten ++ unsent = packet
        ∧ (last = .writeFailed ∨ last = .sent []))

namespace Traffic

@[simp] theorem sent_map_sent (pieces : List Octets) :
    sent (pieces.map Event.sent) = pieces.flatten := by
  induction pieces with
  | nil => rfl
  | cons piece pieces ih => simp [ih, Event.outbound]

@[simp] theorem received_map_sent (pieces : List Octets) :
    received (pieces.map Event.sent) = [] := by
  induction pieces with
  | nil => rfl
  | cons piece pieces ih => simp [ih, Event.inbound]

end Traffic

namespace Delivered

variable {packet : Octets} {events : List Event}

theorem sent_eq (h : Delivered packet events) : Traffic.sent events = packet := by
  obtain ⟨pieces, rfl, rfl⟩ := h
  simp [Event.outbound]

theorem received_eq (h : Delivered packet events) : Traffic.received events = [] := by
  obtain ⟨pieces, rfl, rfl⟩ := h
  simp [Event.inbound]

end Delivered

namespace Interrupted

variable {packet : Octets} {events : List Event}

/-- What went out is the front part of the packet. -/
theorem sent_prefix (h : Interrupted packet events) : Traffic.sent events <+: packet := by
  obtain ⟨pieces, last, rfl, ⟨rfl, rfl⟩ | ⟨unsent, -, rfl, rfl | rfl⟩⟩ := h <;>
    simp [Event.outbound]

theorem received_eq (h : Interrupted packet events) : Traffic.received events = [] := by
  obtain ⟨pieces, last, rfl, ⟨rfl, rfl⟩ | ⟨unsent, -, rfl, rfl | rfl⟩⟩ := h <;>
    simp [Event.inbound]

theorem flushed_notMem (h : Interrupted packet events) : .flushed true ∉ events := by
  obtain ⟨pieces, last, rfl, ⟨rfl, rfl⟩ | ⟨unsent, -, rfl, rfl | rfl⟩⟩ := h <;>
    simp

end Interrupted

namespace Line

variable {σ : Type} [OctetStream σ]

theorem events_write_some {octets : Octets} {line line' : Line σ} {taken : Nat}
    (h : line.write octets = (some taken, line')) :
    line'.events = line.events ++ [.sent (octets.take taken)] := by
  have hlog := events_write octets line
  rw [h] at hlog
  exact hlog

theorem offerAll_true {octets : Octets} {line line' : Line σ}
    (h : line.offerAll octets = (true, line')) :
    ∃ pieces : List Octets, pieces.flatten = octets
      ∧ line'.events = line.events ++ pieces.map Event.sent := by
  fun_induction offerAll octets line with
  | case1 line =>
    obtain ⟨-, rfl⟩ := Prod.mk.inj h
    exact ⟨[], rfl, by simp⟩
  | case2 => cases h
  | case3 => cases h
  | case4 octet octets line taken line₁ hwrite ih =>
    obtain ⟨pieces, hflat, hlog⟩ := ih h
    refine ⟨(octet :: octets).take (taken + 1) :: pieces, ?_, ?_⟩
    · rw [List.flatten_cons, hflat]
      exact List.take_append_drop (taken + 1) (octet :: octets)
    · rw [hlog, events_write_some hwrite]
      simp

theorem offerAll_false {octets : Octets} {line line' : Line σ}
    (h : line.offerAll octets = (false, line')) :
    ∃ (pieces : List Octets) (unsent : Octets) (last : Event), unsent ≠ []
      ∧ pieces.flatten ++ unsent = octets ∧ (last = .writeFailed ∨ last = .sent [])
      ∧ line'.events = line.events ++ (pieces.map Event.sent ++ [last]) := by
  fun_induction offerAll octets line with
  | case1 => cases h
  | case2 octet octets line line₁ hwrite =>
    obtain ⟨-, rfl⟩ := Prod.mk.inj h
    have hlog := events_write (octet :: octets) line
    rw [hwrite] at hlog
    exact ⟨[], octet :: octets, .writeFailed, by simp, rfl, .inl rfl, hlog⟩
  | case3 octet octets line line₁ hwrite =>
    obtain ⟨-, rfl⟩ := Prod.mk.inj h
    exact ⟨[], octet :: octets, .sent [], by simp, rfl, .inr rfl, events_write_some hwrite⟩
  | case4 octet octets line taken line₁ hwrite ih =>
    obtain ⟨pieces, unsent, last, hne, hflat, hlast, hlog⟩ := ih h
    refine ⟨(octet :: octets).take (taken + 1) :: pieces, unsent, last, hne, ?_, hlast, ?_⟩
    · rw [List.flatten_cons, List.append_assoc, hflat]
      exact List.take_append_drop (taken + 1) (octet :: octets)
    · rw [hlog, events_write_some hwrite]
      simp

/-- **A write that succeeds has delivered its packet.** -/
theorem writeAll_ok {packet : Octets} {line line' : Line σ}
    (h : line.writeAll packet = (.ok (), line')) :
    ∃ events, line'.events = line.events ++ events ∧ Delivered packet events := by
  unfold writeAll at h
  split at h
  · cases h
  · next line₁ hoffer =>
    obtain ⟨pieces, hflat, hlog⟩ := offerAll_true hoffer
    have hflush := events_flush line₁
    split at h
    · cases h
    · next line₂ heq =>
      obtain ⟨-, rfl⟩ := Prod.mk.inj h
      rw [heq, hlog, List.append_assoc] at hflush
      exact ⟨pieces.map Event.sent ++ [.flushed true], hflush, pieces, hflat, rfl⟩

/-- **A write that fails was interrupted**, and says so in one way only. -/
theorem writeAll_error {packet : Octets} {line line' : Line σ} {fault : Fault}
    (h : line.writeAll packet = (.error fault, line')) :
    fault = .writeFailed
      ∧ ∃ events, line'.events = line.events ++ events ∧ Interrupted packet events := by
  unfold writeAll at h
  split at h
  · next line₁ hoffer =>
    obtain ⟨hfault, rfl⟩ := Prod.mk.inj h
    obtain ⟨pieces, unsent, last, hne, hflat, hlast, hlog⟩ := offerAll_false hoffer
    exact ⟨(Except.error.inj hfault).symm, _, hlog, pieces, last, rfl,
      .inr ⟨unsent, hne, hflat, hlast⟩⟩
  · next line₁ hoffer =>
    obtain ⟨pieces, hflat, hlog⟩ := offerAll_true hoffer
    have hflush := events_flush line₁
    split at h
    · next line₂ heq =>
      obtain ⟨hfault, rfl⟩ := Prod.mk.inj h
      rw [heq, hlog, List.append_assoc] at hflush
      exact ⟨(Except.error.inj hfault).symm, _, hflush, pieces, .flushed false, rfl,
        .inl ⟨hflat, rfl⟩⟩
    · cases h

end Line

end FieldLink
