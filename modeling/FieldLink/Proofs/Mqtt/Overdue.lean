/-
  FieldLink.Proofs.Mqtt.Overdue
  ────────────────────────────────
  **WHAT IS OVERDUE IS SENT AGAIN, AND NOTHING ELSE.**

  The second half of a poll looks at the table that the first half has left.
  It sends the messages that were last sent a whole interval ago, in the
  order of the table, and gives each one that went out the time of the poll.
  A write that fails ends the round: what stands before it has the new time,
  and it and everything behind it have the old one.

      Repeats.complete_stretches — a round in which everything went out
      Repeats.unsent_split       — a round that was broken off
      stamped_entries            — the table after a round
      resends_exactly_overdue    — the second half of every poll
-/
import Mathlib.Data.List.Forall2
import FieldLink.Proofs.Mqtt.Dispatch

namespace FieldLink.Mqtt

/-! ## §1. Messages that are due. -/

/-- The time since the last transmission is counted up to now, and never below 0. -/
theorem Pending.isOverdue_iff (now : Nat) (pending : Pending) :
    pending.isOverdue now = true ↔ pending.lastSentMs + 5000 ≤ now := by
  rw [Pending.isOverdue, decide_eq_true_iff, retryIntervalMs]
  omega

/-- The entries that were last sent a whole interval before this time, in their order. -/
def due (now : Nat) (entries : List (UInt16 × Pending)) : List (UInt16 × Pending) :=
  entries.filter fun entry => entry.2.lastSentMs + 5000 ≤ now

theorem mem_due_iff {now : Nat} {entries : List (UInt16 × Pending)} {entry : UInt16 × Pending} :
    entry ∈ due now entries ↔ entry ∈ entries ∧ entry.2.lastSentMs + 5000 ≤ now := by
  rw [due, List.mem_filter, decide_eq_true_iff]

theorem overdue_eq (now : Nat) (entries : List (UInt16 × Pending)) :
    Session.overdue now entries = (due now entries).map Prod.fst := by
  rw [Session.overdue, due]
  congr 1
  refine List.filter_congr fun entry _ => ?_
  rw [Bool.eq_iff_iff, Pending.isOverdue_iff, decide_eq_true_iff]

/-- These messages went out, one after another and each as its own packet. -/
def SentAgain (entries : List (UInt16 × Pending)) (events : List Event) : Prop :=
  ∃ stretches, events = stretches.flatten
    ∧ List.Forall₂ (fun entry stretch =>
      ∃ packet, entry.2.packet entry.1 = .ok packet ∧ Delivered packet stretch) entries stretches

/-- An entry with the time at which it has been sent again. -/
def restamped (now : Nat) (entry : UInt16 × Pending) : UInt16 × Pending :=
  (entry.1, { entry.2 with lastSentMs := now })

namespace Session

/-! ## §2. Rounds. -/

namespace Repeats

variable {original : UInt16 → Octets → Prop} {ids sent : List UInt16} {events : List Event}

/-- **A round in which everything went out.** -/
theorem complete_stretches (h : Repeats original ids sent .complete events) :
    sent = ids ∧ ∃ stretches, events = stretches.flatten
      ∧ List.Forall₂ (fun id stretch => ∃ packet, original id packet ∧ Delivered packet stretch)
        ids stretches := by
  generalize hround : Round.complete = round at h
  induction h with
  | complete => exact ⟨rfl, [], rfl, .nil⟩
  | @sent id due ids round packet events later horiginal hsent hrest ih =>
    obtain ⟨rfl, stretches, rfl, hstretches⟩ := ih hround
    exact ⟨rfl, events :: stretches, rfl, .cons ⟨packet, horiginal, hsent⟩ hstretches⟩
  | unsent => cases hround

/-- **A round that was broken off**, and where. -/
theorem unsent_split (h : Repeats original ids sent (.unsent .writeFailed) events) :
    ∃ id back packet stretches cut, ids = sent ++ id :: back
      ∧ events = stretches.flatten ++ cut
      ∧ List.Forall₂ (fun id stretch => ∃ packet, original id packet ∧ Delivered packet stretch)
        sent stretches
      ∧ original id packet ∧ Interrupted packet cut := by
  generalize hround : Round.unsent .writeFailed = round at h
  induction h with
  | complete => cases hround
  | @sent first due ids round packet events later horiginal hsent hrest ih =>
    obtain ⟨id, back, packet', stretches, cut, rfl, rfl, hstretches, hpacket, hcut⟩ := ih hround
    exact ⟨id, back, packet', events :: stretches, cut, rfl, by simp,
      .cons ⟨packet, horiginal, hsent⟩ hstretches, hpacket, hcut⟩
  | @unsent id due packet events horiginal hsent =>
    exact ⟨id, due, packet, [], events, rfl, rfl, .nil, horiginal, hsent⟩

end Repeats

section Tables

variable {η : Type}

/-- An identifier stands for one entry of the table, so its packet is the one of that entry. -/
theorem Builds.packet_eq {client : Client η} {entry : UInt16 × Pending} {packet : Octets}
    (hentry : entry ∈ client.pending.entries) (h : Builds client entry.1 packet) :
    entry.2.packet entry.1 = .ok packet := by
  obtain ⟨pending, hmem, hpacket⟩ := h
  have hget := (Table.get?_eq_some_iff client.pending entry.1 pending).mpr hmem
  have hget' := (Table.get?_eq_some_iff client.pending entry.1 entry.2).mpr hentry
  rw [Option.some.inj (hget'.symm.trans hget)]
  exact hpacket

/-- What went out for the identifiers went out for their entries. -/
theorem sentAgain_of_stretches {client : Client η} {entries : List (UInt16 × Pending)}
    (hentries : ∀ entry ∈ entries, entry ∈ client.pending.entries) {stretches : List (List Event)}
    (h : List.Forall₂
      (fun id stretch => ∃ packet, Builds client id packet ∧ Delivered packet stretch)
      (entries.map Prod.fst) stretches) : SentAgain entries stretches.flatten := by
  refine ⟨stretches, rfl, ?_⟩
  rw [List.forall₂_map_left_iff] at h
  refine ((List.forall₂_and_left entries stretches).mpr ⟨hentries, h⟩).imp ?_
  rintro entry stretch ⟨hentry, packet, hbuilds, hsent⟩
  exact ⟨packet, hbuilds.packet_eq hentry, hsent⟩

/-- **The table after a round**: the entries that went out have the new time, and nothing else has
changed. -/
theorem stamped_entries {client : Client η} {sent : List (UInt16 × Pending)}
    (hsent : ∀ entry ∈ sent, entry ∈ client.pending.entries) (now : Nat) :
    (stamped (sent.map Prod.fst) now client).pending.entries
      = client.pending.entries.map fun entry =>
        if entry ∈ sent then restamped now entry else entry := by
  refine List.map_congr_left fun entry hentry => ?_
  -- no other entry has the identifier
  have hsame : entry.1 ∈ sent.map Prod.fst ↔ entry ∈ sent := by
    refine ⟨fun hmem => ?_, List.mem_map_of_mem⟩
    obtain ⟨other, hother, hid⟩ := List.mem_map.mp hmem
    have hget := (Table.get?_eq_some_iff client.pending other.1 other.2).mpr (hsent other hother)
    have hget' := (Table.get?_eq_some_iff client.pending entry.1 entry.2).mpr hentry
    rw [hid, hget'] at hget
    rwa [Prod.ext hid.symm (Option.some.inj hget)]
  show (entry.1, if entry.1 ∈ sent.map Prod.fst then { entry.2 with lastSentMs := now }
    else entry.2) = _
  by_cases hmem : entry ∈ sent
  · rw [if_pos hmem, if_pos (hsame.mpr hmem)]
    rfl
  · rw [if_neg hmem, if_neg fun hid => hmem (hsame.mp hid)]

/-- Where everything that was due went out, nothing is overdue. -/
theorem not_due_restamped {now : Nat} {entries : List (UInt16 × Pending)}
    {entry : UInt16 × Pending}
    (h : entry ∈ entries.map fun entry =>
      if entry ∈ due now entries then restamped now entry else entry) :
    ¬ entry.2.lastSentMs + 5000 ≤ now := by
  obtain ⟨old, hold, rfl⟩ := List.mem_map.mp h
  by_cases hdue : old ∈ due now entries
  · rw [if_pos hdue]
    show ¬ now + 5000 ≤ now
    omega
  · rw [if_neg hdue]
    exact fun hlate => hdue (mem_due_iff.mpr ⟨hold, hlate⟩)

/-- **What a round of repetitions comes to**, entry by entry. -/
theorem Resending.rounds {σ : Type} {now : Nat} {session : Session η σ}
    {outcome : Except Fault Unit × Session η σ}
    (h : Resending (Builds session.client) now session outcome) :
    let entries := session.client.pending.entries
    (∃ events, SentAgain (due now entries) events
      ∧ outcome.2.line.events = session.line.events ++ events ∧ outcome.1 = .ok ()
      ∧ outcome.2.client = stamped ((due now entries).map Prod.fst) now session.client)
    ∨ ∃ front entry back events packet cut worked, due now entries = front ++ entry :: back
      ∧ SentAgain front events ∧ entry.2.packet entry.1 = .ok packet ∧ Interrupted packet cut
      ∧ outcome.2.line.events = session.line.events ++ (events ++ (cut ++ [.closed worked]))
      ∧ outcome.1 = .error .writeFailed
      ∧ outcome.2.client = (stamped (front.map Prod.fst) now session.client).offline := by
  intro entries
  have hdue : ∀ entry ∈ due now entries, entry ∈ entries := fun entry hentry =>
    (mem_due_iff.mp hentry).1
  cases h with
  | complete hlog hrepeats =>
    rw [overdue_eq] at hrepeats
    obtain ⟨rfl, stretches, rfl, hstretches⟩ := hrepeats.complete_stretches
    exact .inl ⟨_, sentAgain_of_stretches hdue hstretches, hlog, rfl, rfl⟩
  | @lost ids line events worked hlog hrepeats =>
    rw [overdue_eq] at hrepeats
    obtain ⟨id, later, packet, stretches, cut, hsplit, rfl, hstretches, hpacket, hcut⟩ :=
      hrepeats.unsent_split
    -- the identifiers split where their entries do
    obtain ⟨front, rest, hentries, rfl, hrest⟩ := List.map_eq_append_iff.mp hsplit
    obtain ⟨entry, back, rfl, rfl, -⟩ := List.map_eq_cons_iff.mp hrest
    have hall : ∀ other ∈ front ++ entry :: back, other ∈ entries := by
      rw [← hentries]
      exact hdue
    obtain ⟨hfront, hback⟩ := List.forall_mem_append.mp hall
    rw [List.append_assoc] at hlog
    exact .inr ⟨front, entry, back, _, packet, cut, worked, hentries,
      sentAgain_of_stretches hfront hstretches,
      hpacket.packet_eq (hback entry List.mem_cons_self), hcut, hlog, rfl, rfl⟩

end Tables

/-! ## §3. The second half of a poll. -/

section Polling

variable {η σ : Type} [OctetStream σ] [MessageHandler η]

/-- What is acknowledged in a poll is not in the table any more when the second half begins. -/
theorem acknowledged_not_due {session : Session η σ} (h : session.client.Sound)
    (hready : session.client.isReady = true) (timeoutMs : UInt32) (now : Nat) :
    ∃ events, (session.poll timeoutMs now).2.line.events = session.line.events ++ events
      ∧ ∀ (packet : ControlPacket) (id : UInt16),
        Packet.kind packet.header = Packet.kind Packet.pubackHeader → packet.body = Octets.big id →
        Traffic.received events = packet.octets →
        ∀ entry ∈ (session.takeIn timeoutMs).2.client.pending.entries, entry.1 ≠ id := by
  obtain ⟨inbound, events, hlog, hfound, hkept⟩ := poll_kept timeoutMs now h hready
  refine ⟨events, hlog, ?_⟩
  rintro packet id hkind hbody hreceived entry hentry rfl
  have hnames := (hfound.names_iff entry.1).mpr ⟨packet, hkind, hbody, hreceived⟩
  have hnone : (session.poll timeoutMs now).2.client.kept entry.1 = none := by
    rcases hkept entry.1 with ⟨-, hnone⟩ | ⟨hother, -⟩
    · exact hnone
    · exact absurd hnames hother
  have hsame : (session.poll timeoutMs now).2.client.kept entry.1
      = (session.takeIn timeoutMs).2.client.kept entry.1 := by
    rcases poll_cases timeoutMs now h hready with ⟨-, heq⟩ | ⟨-, outcome, -, hresending, heq⟩
    · rw [heq]
    · rw [heq]
      exact hresending.kept_eq entry.1
  -- but the entry is there, and a round of repetitions forgets nothing
  have hheld : (session.takeIn timeoutMs).2.client.kept entry.1 = some entry.2.content := by
    rw [Client.kept, (Table.get?_eq_some_iff _ _ _).mpr hentry]
    rfl
  cases hheld.symm.trans (hsame.symm.trans hnone)

/-- **A poll sends again exactly what is overdue.**  Of a client that is ready, with all that every
reachable client keeps, whatever the time and the platform: if the connection outlives the first
half of the poll, then the second half sends the entries that are left in the table and were last
sent a whole interval ago, in their order and each as its own packet.  Either all of them go out;
then they have the time of the poll, everything else is as it was, nothing is overdue any more, and
the result is that of the first half.  Or one of them is cut short; then the ones before it have the
time of the poll, everything else is as it was, and the connection is closed at once.  What the poll
itself saw acknowledged is not among them. -/
theorem resends_exactly_overdue {session : Session η σ} (h : session.client.Sound)
    (hready : session.client.isReady = true) (timeoutMs : UInt32) (now : Nat)
    (hsurvives : (session.takeIn timeoutMs).2.client.isConnected = true) :
    let taken := session.takeIn timeoutMs
    let entries := taken.2.client.pending.entries
    let outcome := session.poll timeoutMs now
    ((∃ events, SentAgain (due now entries) events
        ∧ outcome.2.line.events = taken.2.line.events ++ events
        ∧ outcome.2.client.pending.entries = entries.map (fun entry =>
          if entry ∈ due now entries then restamped now entry else entry)
        ∧ (∀ entry ∈ outcome.2.client.pending.entries, ¬ entry.2.lastSentMs + 5000 ≤ now)
        ∧ outcome.1 = taken.1 ∧ outcome.2.client.isReady = true)
      ∨ ∃ front entry back events packet cut worked, due now entries = front ++ entry :: back
        ∧ SentAgain front events ∧ entry.2.packet entry.1 = .ok packet ∧ Interrupted packet cut
        ∧ outcome.2.line.events = taken.2.line.events ++ (events ++ (cut ++ [.closed worked]))
        ∧ outcome.2.client.pending.entries = entries.map (fun entry =>
          if entry ∈ front then restamped now entry else entry)
        ∧ outcome.1 = .error .writeFailed ∧ outcome.2.client.phase = .disconnected
        ∧ outcome.2.client.holdsConnection = false)
      ∧ ∃ events, outcome.2.line.events = session.line.events ++ events
        ∧ ∀ (packet : ControlPacket) (id : UInt16),
          Packet.kind packet.header = Packet.kind Packet.pubackHeader →
          packet.body = Octets.big id → Traffic.received events = packet.octets →
          ∀ entry ∈ due now entries, entry.1 ≠ id := by
  intro taken entries outcome
  have hsound : taken.2.client.Sound := takeIn_sound timeoutMs h hready
  have hholds : taken.2.client.holdsConnection = true := hsound.isConnected_iff.mp hsurvives
  have hdue : ∀ entry ∈ due now entries, entry ∈ entries := fun entry hentry =>
    (mem_due_iff.mp hentry).1
  refine ⟨?_, ?_⟩
  · rcases poll_cases timeoutMs now h hready with ⟨hgone, -⟩ | ⟨-, round, -, hresending, heq⟩
    · cases hholds.symm.trans hgone
    · have hpoll : outcome = (round.1.bind fun _ => taken.1, round.2) := heq
      rw [hpoll]
      rcases hresending.rounds with ⟨events, hsent, hlog, hok, hclient⟩
        | ⟨front, entry, back, events, packet, cut, worked, hsplit, hsent, hpacket, hcut, hlog,
          hfailed, hclient⟩
      · -- ===== everything went out =====
        have hentries : round.2.client.pending.entries = entries.map (fun entry =>
            if entry ∈ due now entries then restamped now entry else entry) := by
          rw [hclient]
          exact stamped_entries hdue now
        refine .inl ⟨events, hsent, hlog, hentries, fun entry hentry => ?_, ?_, ?_⟩
        · rw [hentries] at hentry
          exact not_due_restamped hentry
        · rw [hok]
          rfl
        · rw [hclient]
          exact (hsound.stamped _ now).isReady_iff.mpr hholds
      · -- ===== one was cut short =====
        have hfront : ∀ other ∈ front, other ∈ entries := fun other hother =>
          hdue other (hsplit ▸ List.mem_append_left _ hother)
        refine .inr ⟨front, entry, back, events, packet, cut, worked, hsplit, hsent, hpacket, hcut,
          hlog, ?_, ?_, ?_, ?_⟩
        · rw [hclient]
          exact stamped_entries hfront now
        · rw [hfailed]
          rfl
        · rw [hclient]
          rfl
        · rw [hclient]
          rfl
  · obtain ⟨events, hlog, hnot⟩ := acknowledged_not_due h hready timeoutMs now
    exact ⟨events, hlog, fun packet id hkind hbody hreceived entry hentry =>
      hnot packet id hkind hbody hreceived entry (hdue entry hentry)⟩

end Polling

end Session

/-- A message that was last sent six seconds ago is sent again, and has the new time. -/
theorem resends_exactly_overdue_specimen :
    let entry : UInt16 × Pending := (2, ⟨⟨"b", by decide⟩, ⟨[2], by decide⟩, false, 0⟩)
    let taken := Specimen.busy.takeIn 10
    let outcome := Specimen.busy.poll 10 6000
    Specimen.busy.client.Sound ∧ Specimen.busy.client.isReady = true
      ∧ taken.2.client.isConnected = true
      ∧ (∃ events, SentAgain [entry] events
        ∧ outcome.2.line.events = taken.2.line.events ++ events)
      ∧ outcome.2.client.pending.entries = [restamped 6000 entry] := by
  intro entry taken outcome
  have hsound : Specimen.busy.client.Sound := Session.run_sound Specimen.ofOptions_eq _ _
  have hready : Specimen.busy.client.isReady = true := by decide +kernel
  have hsurvives : taken.2.client.isConnected = true := by decide +kernel
  have hentries : taken.2.client.pending.entries = [entry] := by decide +kernel
  have hresult : outcome.1 = .ok () := by decide +kernel
  obtain ⟨hround, -⟩ := Session.resends_exactly_overdue hsound hready 10 6000 hsurvives
  rw [show (Session.takeIn 10 Specimen.busy).2.client.pending.entries = [entry] from hentries]
    at hround
  have hdue : due 6000 [entry] = [entry] := by decide +kernel
  rw [hdue] at hround
  rcases hround with ⟨events, hsent, hlog, hstamped, -⟩
    | ⟨front, other, back, events, packet, cut, worked, -, -, -, -, -, -, hfailed, -⟩
  · refine ⟨hsound, hready, hsurvives, ⟨events, hsent, hlog⟩, hstamped.trans ?_⟩
    rw [List.map_singleton, if_pos (List.mem_singleton.mpr rfl)]
  · cases hresult.symm.trans hfailed

end FieldLink.Mqtt
