/-
  FieldLink.Proofs.Line.Writes
  ────────────────────────────────
  **SEVERAL PACKETS, ONE AFTER ANOTHER.**

  On an open connection packets go out one at a time.  Between two of them
  the line is read, waits are bounded and messages are handed over; all of
  these are asides that write nothing.  `Writes` follows such a stretch of
  events packet by packet: all packets went out whole, or the last one was
  interrupted and nothing came behind it:

      Writes.append     — stretches follow each other until one is interrupted
      Writes.sent_eq    — whole packets are all that went out
      Writes.cut        — an interrupted packet stands at the very end
      Writes.sent_parts — what went out either way
      writeAll_writes   — a write is such a stretch with one packet
-/
import FieldLink.Proofs.Line.Traffic

namespace FieldLink

/-! ## §1. Events between two packets. -/

namespace Event

/-- The event writes nothing and leaves the connection as it is. -/
def IsAside : Event → Prop
  | .received _ | .readFailed | .timeoutSet .. | .tlsStarted _ | .delivered .. => True
  | _ => False

/-- The event neither opens nor closes a network connection. -/
def IsSteady : Event → Prop
  | .closed _ | .dialed .. => False
  | _ => True

/-- The event is a part of an attempt to write. -/
def IsWrite : Event → Prop
  | .sent _ | .writeFailed | .flushed _ => True
  | _ => False

/-- The message that an event handed to a handler. -/
def handed : Event → List (String × Octets)
  | .delivered topic payload => [(topic, payload)]
  | _ => []

theorem IsRead.isAside {event : Event} (h : event.IsRead) : event.IsAside := by
  cases event with
  | received | readFailed => trivial
  | _ => exact h.elim

theorem IsAside.not_isWrite {event : Event} (h : event.IsAside) : ¬ event.IsWrite := by
  cases event with
  | sent | writeFailed | flushed => exact h.elim
  | _ => exact id

theorem IsAside.isSteady {event : Event} (h : event.IsAside) : event.IsSteady := by
  cases event with
  | closed | dialed => exact h.elim
  | _ => trivial

theorem IsAside.outbound_eq {event : Event} (h : event.IsAside) : event.outbound = [] := by
  cases event with
  | sent => exact h.elim
  | _ => rfl

theorem IsRead.handed_eq {event : Event} (h : event.IsRead) : event.handed = [] := by
  cases event with
  | delivered => exact h.elim
  | _ => rfl

end Event

namespace Traffic

/-- The messages that were handed to handlers, in their order. -/
def handed (events : List Event) : List (String × Octets) := events.flatMap Event.handed

@[simp] theorem handed_nil : handed [] = [] := rfl

@[simp] theorem handed_cons (event : Event) (events : List Event) :
    handed (event :: events) = event.handed ++ handed events := rfl

@[simp] theorem handed_append (before after : List Event) :
    handed (before ++ after) = handed before ++ handed after := by
  simp [handed]

@[simp] theorem handed_map_sent (pieces : List Octets) :
    handed (pieces.map Event.sent) = [] := by
  induction pieces with
  | nil => rfl
  | cons piece pieces ih => simp [ih, Event.handed]

theorem handed_reads {events : List Event} (h : ∀ event ∈ events, event.IsRead) :
    handed events = [] :=
  List.flatMap_eq_nil_iff.mpr fun event hevent => (h event hevent).handed_eq

theorem sent_asides {events : List Event} (h : ∀ event ∈ events, event.IsAside) :
    sent events = [] :=
  List.flatMap_eq_nil_iff.mpr fun event hevent => (h event hevent).outbound_eq

end Traffic

/-! ## §2. One packet. -/

theorem Delivered.handed_eq {packet : Octets} {events : List Event}
    (h : Delivered packet events) : Traffic.handed events = [] := by
  obtain ⟨pieces, rfl, rfl⟩ := h
  simp [Event.handed]

/-- Taking a packet in pieces neither opens nor closes a connection. -/
theorem steady_of_pieces (pieces : List Octets) {last : Event} (hlast : last.IsSteady) :
    ∀ event ∈ pieces.map Event.sent ++ [last], event.IsSteady := by
  intro event hevent
  rcases List.mem_append.mp hevent with hmem | hmem
  · obtain ⟨piece, -, rfl⟩ := List.mem_map.mp hmem
    trivial
  · rw [List.mem_singleton.mp hmem]
    exact hlast

theorem Delivered.isSteady {packet : Octets} {events : List Event} (h : Delivered packet events) :
    ∀ event ∈ events, event.IsSteady := by
  obtain ⟨pieces, rfl, rfl⟩ := h
  exact steady_of_pieces pieces trivial

/-- A frame that went out whole ends at its flush. -/
theorem flushed_append_inj {pieces pieces' : List Octets} {rest rest' : List Event}
    (h : pieces.map Event.sent ++ .flushed true :: rest
      = pieces'.map Event.sent ++ .flushed true :: rest') : rest = rest' := by
  induction pieces generalizing pieces' with
  | nil =>
    cases pieces' with
    | nil => exact (List.cons.inj h).2
    | cons piece' pieces' => cases h
  | cons piece pieces ih =>
    cases pieces' with
    | nil => cases h
    | cons piece' pieces' => exact ih (List.cons.inj h).2

/-- Two frames that went out whole at one place left the same events behind them. -/
theorem Delivered.rest_eq {frame frame' : Octets} {written written' rest rest' : List Event}
    (h : Delivered frame written) (h' : Delivered frame' written')
    (heq : written ++ rest = written' ++ rest') : rest = rest' := by
  obtain ⟨pieces, -, rfl⟩ := h
  obtain ⟨pieces', -, rfl⟩ := h'
  rw [List.append_assoc, List.append_assoc] at heq
  exact flushed_append_inj heq

theorem Interrupted.handed_eq {packet : Octets} {events : List Event}
    (h : Interrupted packet events) : Traffic.handed events = [] := by
  obtain ⟨pieces, last, rfl, ⟨rfl, rfl⟩ | ⟨unsent, -, rfl, rfl | rfl⟩⟩ := h <;>
    simp [Event.handed]

theorem Interrupted.isSteady {packet : Octets} {events : List Event}
    (h : Interrupted packet events) : ∀ event ∈ events, event.IsSteady := by
  obtain ⟨pieces, last, rfl, ⟨rfl, rfl⟩ | ⟨unsent, -, rfl, rfl | rfl⟩⟩ := h <;>
    exact steady_of_pieces pieces trivial

/-- Only this part of a packet was taken, and then a write failed or took nothing. -/
def CutShort (packet part : Octets) (events : List Event) : Prop :=
  ∃ (pieces : List Octets) (unsent : Octets) (last : Event), pieces.flatten = part
    ∧ unsent ≠ [] ∧ part ++ unsent = packet
    ∧ events = pieces.map Event.sent ++ [last] ∧ (last = .writeFailed ∨ last = .sent [])

/-- A packet that was interrupted went out all the same, or was cut short. -/
theorem Interrupted.sent_eq_or {packet : Octets} {events : List Event}
    (h : Interrupted packet events) :
    Traffic.sent events = packet ∨ CutShort packet (Traffic.sent events) events := by
  obtain ⟨pieces, last, rfl, ⟨rfl, rfl⟩ | ⟨unsent, hne, hpacket, hlast⟩⟩ := h
  · exact .inl (by simp [Event.outbound])
  · have hsent : Traffic.sent (pieces.map Event.sent ++ [last]) = pieces.flatten := by
      rcases hlast with rfl | rfl <;> simp [Event.outbound]
    rw [hsent]
    exact .inr ⟨pieces, unsent, last, rfl, hne, hpacket, rfl, hlast⟩

/-! ## §3. Many packets. -/

/-- These packets were written in a stretch of events: all of them went out whole (`true`), or the
last one was interrupted and nothing else happened (`false`). -/
inductive Writes : Bool → List Octets → List Event → Prop where
  /-- Nothing was written. -/
  | done : Writes true [] []
  /-- Something else happened first. -/
  | aside {whole : Bool} {packets : List Octets} {event : Event} {events : List Event}
      (haside : event.IsAside) (hrest : Writes whole packets events) :
      Writes whole packets (event :: events)
  /-- The first packet went out whole. -/
  | packet {whole : Bool} {packet : Octets} {packets : List Octets} {events later : List Event}
      (hsent : Delivered packet events) (hrest : Writes whole packets later) :
      Writes whole (packet :: packets) (events ++ later)
  /-- The first packet did not, so there is no other one. -/
  | interrupted {packet : Octets} {events : List Event} (hsent : Interrupted packet events) :
      Writes false [packet] events

namespace Writes

variable {whole : Bool} {packets packets' : List Octets} {events events' : List Event}

theorem asides (h : ∀ event ∈ events, event.IsAside) : Writes true [] events := by
  induction events with
  | nil => exact .done
  | cons event events ih =>
    exact .aside (h event List.mem_cons_self) (ih fun other hother =>
      h other (List.mem_cons_of_mem event hother))

theorem delivered {packet : Octets} (h : Delivered packet events) :
    Writes true [packet] events := by
  have hpacket := Writes.packet h .done
  rw [List.append_nil] at hpacket
  exact hpacket

/-- **Stretches of whole packets can be continued.** -/
theorem append (h : Writes true packets events) (h' : Writes whole packets' events') :
    Writes whole (packets ++ packets') (events ++ events') := by
  -- the first stretch is whole, so the case of an interruption does not arise
  generalize htrue : true = first at h
  induction h with
  | done => exact h'
  | aside haside _ ih => exact .aside haside (ih htrue)
  | packet hsent _ ih =>
    rw [List.append_assoc]
    exact .packet hsent (ih htrue)
  | interrupted => cases htrue

/-- **Whole packets are all that went out.** -/
theorem sent_eq (h : Writes true packets events) : Traffic.sent events = packets.flatten := by
  generalize htrue : true = first at h
  induction h with
  | done => rfl
  | aside haside _ ih => rw [Traffic.sent_cons, haside.outbound_eq, List.nil_append, ih htrue]
  | packet hsent _ ih => rw [Traffic.sent_append, hsent.sent_eq, List.flatten_cons, ih htrue]
  | interrupted => cases htrue

/-- **An interrupted packet stands at the very end**, behind packets that went out whole. -/
theorem cut (h : Writes false packets events) :
    ∃ earlier packet front back, packets = earlier ++ [packet] ∧ events = front ++ back
      ∧ Writes true earlier front ∧ Interrupted packet back := by
  generalize hfalse : false = last at h
  induction h with
  | done => cases hfalse
  | aside haside _ ih =>
    obtain ⟨earlier, packet, front, back, rfl, rfl, hfront, hback⟩ := ih hfalse
    exact ⟨earlier, packet, _ :: front, back, rfl, rfl, .aside haside hfront, hback⟩
  | packet hsent _ ih =>
    obtain ⟨earlier, packet, front, back, rfl, rfl, hfront, hback⟩ := ih hfalse
    exact ⟨_ :: earlier, packet, _ ++ front, back, rfl, by rw [List.append_assoc],
      .packet hsent hfront, hback⟩
  | interrupted hsent => exact ⟨[], _, [], _, rfl, rfl, .done, hsent⟩

/-- **What went out are packets, and at most a part of one more** if the last one was cut short. -/
theorem sent_parts (h : Writes whole packets events) :
    ∃ complete part, Traffic.sent events = complete.flatten ++ part
      ∧ (complete = packets ∧ part = []
        ∨ whole = false ∧ ∃ packet front back, packets = complete ++ [packet]
          ∧ events = front ++ back ∧ Traffic.sent front = complete.flatten
          ∧ CutShort packet part back) := by
  cases whole with
  | true => exact ⟨packets, [], by rw [h.sent_eq, List.append_nil], .inl ⟨rfl, rfl⟩⟩
  | false =>
    obtain ⟨earlier, packet, front, back, rfl, rfl, hfront, hback⟩ := h.cut
    rcases hback.sent_eq_or with hsent | hcut
    · refine ⟨earlier ++ [packet], [], ?_, .inl ⟨rfl, rfl⟩⟩
      rw [Traffic.sent_append, hfront.sent_eq, hsent]
      simp
    · refine ⟨earlier, Traffic.sent back, ?_, .inr ⟨rfl, packet, front, back, rfl, rfl,
        hfront.sent_eq, hcut⟩⟩
      rw [Traffic.sent_append, hfront.sent_eq]

theorem isSteady (h : Writes whole packets events) : ∀ event ∈ events, event.IsSteady := by
  induction h with
  | done => exact nofun
  | aside haside _ ih =>
    intro event hevent
    rcases List.mem_cons.mp hevent with rfl | hmem
    · exact haside.isSteady
    · exact ih event hmem
  | packet hsent _ ih =>
    intro event hevent
    rcases List.mem_append.mp hevent with hmem | hmem
    · exact hsent.isSteady event hmem
    · exact ih event hmem
  | interrupted hsent => exact hsent.isSteady

end Writes

/-- Writing a packet, whatever comes of it. -/
theorem Line.writeAll_writes {σ : Type} [OctetStream σ] (packet : Octets) (line : Line σ) :
    ∃ whole events, (line.writeAll packet).2.events = line.events ++ events
      ∧ Writes whole [packet] events ∧ ((line.writeAll packet).1 = .ok () → whole = true) := by
  cases hwrite : line.writeAll packet with
  | mk result line' =>
    cases result with
    | ok =>
      obtain ⟨events, hlog, hsent⟩ := writeAll_ok hwrite
      exact ⟨true, events, hlog, .delivered hsent, fun _ => rfl⟩
    | error fault =>
      obtain ⟨-, events, hlog, hsent⟩ := writeAll_error hwrite
      exact ⟨false, events, hlog, .interrupted hsent, nofun⟩

end FieldLink
