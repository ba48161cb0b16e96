/-
  FieldLink.Proofs.Mqtt.Polling
  ────────────────────────────────
  **THE TWO HALVES OF A POLL.**

  A poll first takes in one packet (`takeIn`) and then, if the connection
  is still there, sends again what is overdue.  Each half ends in one of a
  few ways, which are the constructors here:

      handle_handling           — what becomes of the packet that was found
      resend_repeats            — which entries are sent again, in which order
      resendOverdue_resending   — all of them, or up to the first failure
      poll_eq                   — a poll is the one half and then the other
-/
import FieldLink.Proofs.Mqtt.Message
import FieldLink.Proofs.Mqtt.Reception
import FieldLink.Proofs.Mqtt.Sending

namespace FieldLink.Mqtt.Session

variable {η σ : Type}

/-! ## §1. What is done with a packet. -/

section Handling

variable [MessageHandler η]

/-- The handlers after a message was handed to that of its topic. -/
def notified (message : Message) (session : Session η σ) : Subscriptions η :=
  session.client.subscriptions.modify message.topic
    (MessageHandler.onMessage · message.topic message.payload)

/-- A delivery changes a handler at most, and records that it did. -/
theorem deliver_cases (message : Message) (session : Session η σ) :
    session.deliver message = session
      ∨ session.deliver message = {
          client := { session.client with subscriptions := session.notified message }
          line := session.line.record (.delivered message.topic message.payload) } := by
  unfold deliver
  split
  · exact .inr rfl
  · exact .inl rfl

variable [OctetStream σ]

/-- What handling comes to. -/
inductive Handling (session : Session η σ) :
    Inbound → Except Fault Unit × Session η σ → Prop where
  /-- There was nothing to handle. -/
  | silence : Handling session .silence (.ok (), session)
  /-- The packet had been too long. -/
  | oversized (header : UInt8) (length : Nat) :
      Handling session (.oversized header length) (.error .capacityExceeded, session)
  /-- The stream had been broken. -/
  | broken (fault : Fault) : Handling session (.broken fault) (.error fault, session.hangUp)
  /-- The packet was neither a message nor an acknowledgement. -/
  | ignored {header : UInt8} (body : Octets)
      (hmessage : Packet.kind header ≠ Packet.kind Packet.publishHeader)
      (hack : Packet.kind header ≠ Packet.kind Packet.pubackHeader) :
      Handling session (.packet header body) (.ok (), session)
  /-- The message was malformed. -/
  | malformedMessage {header : UInt8} {body : Octets} {fault : Fault}
      (hkind : Packet.kind header = Packet.kind Packet.publishHeader)
      (hparse : Message.parse (header &&& 0x0F) body = .error fault) :
      Handling session (.packet header body) (.error fault, session)
  /-- The message asked for no acknowledgement. -/
  | delivered {header : UInt8} {body : Octets} {message : Message}
      (hkind : Packet.kind header = Packet.kind Packet.publishHeader)
      (hparse : Message.parse (header &&& 0x0F) body = .ok message)
      (hqos : message.qos ≠ .atLeastOnce) :
      Handling session (.packet header body) (.ok (), session.deliver message)
  /-- The message was acknowledged. -/
  | acknowledged {header : UInt8} {body : Octets} {message : Message} {id : UInt16}
      {session' : Session η σ}
      (hkind : Packet.kind header = Packet.kind Packet.publishHeader)
      (hparse : Message.parse (header &&& 0x0F) body = .ok message)
      (hqos : message.qos = .atLeastOnce) (hid : message.packetId = some id)
      (hsend : session.send (Packet.puback id) = (.ok (), session'))
      (hsending : Sending (Packet.puback id) session (.ok (), session')) :
      Handling session (.packet header body) (.ok (), session'.deliver message)
  /-- The message could not be acknowledged. -/
  | unacknowledged {header : UInt8} {body : Octets} {message : Message} {id : UInt16}
      {fault : Fault} {session' : Session η σ}
      (hkind : Packet.kind header = Packet.kind Packet.publishHeader)
      (hparse : Message.parse (header &&& 0x0F) body = .ok message)
      (hqos : message.qos = .atLeastOnce) (hid : message.packetId = some id)
      (hsend : session.send (Packet.puback id) = (.error fault, session'))
      (hsending : Sending (Packet.puback id) session (.error fault, session')) :
      Handling session (.packet header body) (.error fault, session')
  /-- The acknowledgement names a message. -/
  | released {header high low : UInt8}
      (hkind : Packet.kind header = Packet.kind Packet.pubackHeader) :
      Handling session (.packet header [high, low])
        (.ok (), { session with client :=
          { session.client with pending := session.client.pending.erase (Octets.word high low) } })
  /-- The acknowledgement was malformed. -/
  | malformedAcknowledgement {header : UInt8} {body : Octets}
      (hkind : Packet.kind header = Packet.kind Packet.pubackHeader) (hbody : body.length ≠ 2) :
      Handling session (.packet header body) (.error .protocolViolation, session)

/-- **Every way in which handling can end.** -/
theorem handle_handling (inbound : Inbound) (session : Session η σ)
    (h : session.client.holdsConnection = true) :
    Handling session inbound (handle inbound session) := by
  cases inbound with
  | silence => exact .silence
  | oversized header length => exact .oversized header length
  | broken fault => exact .broken fault
  | packet header body =>
    unfold handle
    dsimp only
    by_cases hmessage : Packet.kind header = Packet.kind Packet.publishHeader
    · rw [if_pos hmessage]
      split
      · next fault hparse => exact .malformedMessage hmessage hparse
      · next message hparse =>
        unfold handleMessage
        split
        · next hqos hnone =>
          -- a message of this guarantee always has an identifier
          obtain ⟨id, hid⟩ := Message.packetId_of_parse hparse hqos
          rw [hnone] at hid
          cases hid
        · next id hqos hid =>
          have hsending := send_sending (Packet.puback id) session h
          split
          · next fault session' heq =>
            rw [heq] at hsending
            exact .unacknowledged hmessage hparse hqos hid heq hsending
          · next session' heq =>
            rw [heq] at hsending
            exact .acknowledged hmessage hparse hqos hid heq hsending
        · next hnone hsome =>
          refine .delivered hmessage hparse ?_
          intro hqos
          obtain ⟨id, hid⟩ := Message.packetId_of_parse hparse hqos
          exact hsome id hqos hid
    · rw [if_neg hmessage]
      by_cases hack : Packet.kind header = Packet.kind Packet.pubackHeader
      · rw [if_pos hack]
        unfold handleAcknowledgement
        split
        · exact .released hack
        · next hne =>
          refine .malformedAcknowledgement hack ?_
          intro hlength
          match body, hlength with
          | [high, low], _ => exact hne high low rfl
      · rw [if_neg hack]
        exact .ignored body hmessage hack

end Handling

/-! ## §2. What is sent again. -/

/-- The identifiers of the messages that are overdue, in their order. -/
def overdue (now : Nat) (entries : List (UInt16 × Pending)) : List UInt16 :=
  (entries.filter fun entry => entry.2.isOverdue now).map Prod.fst

/-- A round of repetitions in which each identifier stands for a packet: which were due, which of
them were sent, how the round ended, and what it added to the log. -/
inductive Repeats (original : UInt16 → Octets → Prop) :
    List UInt16 → List UInt16 → Round → List Event → Prop where
  /-- Nothing is due any more. -/
  | complete : Repeats original [] [] .complete []
  /-- The next packet went out whole. -/
  | sent {id : UInt16} {due ids : List UInt16} {round : Round} {packet : Octets}
      {events later : List Event} (horiginal : original id packet)
      (hsent : Delivered packet events) (hrest : Repeats original due ids round later) :
      Repeats original (id :: due) (id :: ids) round (events ++ later)
  /-- The next packet did not; what is due behind it stays where it is. -/
  | unsent {id : UInt16} (due : List UInt16) {packet : Octets} {events : List Event}
      (horiginal : original id packet) (hsent : Interrupted packet events) :
      Repeats original (id :: due) [] (.unsent .writeFailed) events

namespace Repeats

variable {original : UInt16 → Octets → Prop} {due ids : List UInt16} {round : Round}
  {events : List Event}

theorem mono {original' : UInt16 → Octets → Prop}
    (himp : ∀ id packet, original id packet → original' id packet)
    (h : Repeats original due ids round events) : Repeats original' due ids round events := by
  induction h with
  | complete => exact .complete
  | sent horiginal hsent _ ih => exact .sent (himp _ _ horiginal) hsent ih
  | unsent due horiginal hsent => exact .unsent due (himp _ _ horiginal) hsent

theorem received_eq (h : Repeats original due ids round events) :
    Traffic.received events = [] := by
  induction h with
  | complete => rfl
  | sent _ hsent _ ih => rw [Traffic.received_append, hsent.received_eq, ih, List.append_nil]
  | unsent _ _ hsent => exact hsent.received_eq

/-- A round ends complete or with a failed write, and in no other way. -/
theorem round_eq (h : Repeats original due ids round events) :
    round = .complete ∨ round = .unsent .writeFailed := by
  induction h with
  | complete => exact .inl rfl
  | sent _ _ _ ih => exact ih
  | unsent _ _ _ => exact .inr rfl

end Repeats

/-- The client once the messages with these identifiers have been sent again. -/
def stamped (ids : List UInt16) (now : Nat) (client : Client η) : Client η :=
  { client with pending := client.pending.mapValues fun id pending =>
      if id ∈ ids then { pending with lastSentMs := now } else pending }

/-- A packet that a pending message of the client was made. -/
def Builds (client : Client η) (id : UInt16) (packet : Octets) : Prop :=
  ∃ pending, (id, pending) ∈ client.pending.entries ∧ pending.packet id = .ok packet

/-- What sending again comes to, if each identifier stands for a packet. -/
inductive Resending (original : UInt16 → Octets → Prop) (now : Nat) (session : Session η σ) :
    Except Fault Unit × Session η σ → Prop where
  /-- All that was overdue went out. -/
  | complete {ids : List UInt16} {line : Line σ} {events : List Event}
      (hlog : line.events = session.line.events ++ events)
      (hrepeats : Repeats original
        (overdue now session.client.pending.entries) ids .complete events) :
      Resending original now session (.ok (), ⟨stamped ids now session.client, line⟩)
  /-- Something did not, and the connection was closed. -/
  | lost {ids : List UInt16} {line : Line σ} {events : List Event} {closed : Bool}
      (hlog : line.events = session.line.events ++ (events ++ [.closed closed]))
      (hrepeats : Repeats original
        (overdue now session.client.pending.entries) ids (.unsent .writeFailed) events) :
      Resending original now session
        (.error .writeFailed, ⟨(stamped ids now session.client).offline, line⟩)

theorem Resending.mono {original original' : UInt16 → Octets → Prop} {now : Nat}
    {session : Session η σ} {outcome : Except Fault Unit × Session η σ}
    (himp : ∀ id packet, original id packet → original' id packet)
    (h : Resending original now session outcome) : Resending original' now session outcome := by
  cases h with
  | complete hlog hrepeats => exact .complete hlog (hrepeats.mono himp)
  | lost hlog hrepeats => exact .lost hlog (hrepeats.mono himp)

section Resending

variable [OctetStream σ]

/-- **A round sends what is overdue, in order, up to the first failure**, if every entry can be
made a packet. -/
theorem resend_repeats (now : Nat) (entries : List (UInt16 × Pending)) (line : Line σ)
    (hbuilt : ∀ entry ∈ entries, ∃ packet, entry.2.packet entry.1 = .ok packet) :
    ∃ events, (resend now entries line).2.2.events = line.events ++ events
      ∧ Repeats
        (fun id packet => ∃ pending, (id, pending) ∈ entries ∧ pending.packet id = .ok packet)
        (overdue now entries) (resend now entries line).1 (resend now entries line).2.1 events := by
  induction entries generalizing line with
  | nil => exact ⟨[], by simp [resend], .complete⟩
  | cons entry entries ih =>
    obtain ⟨id, pending⟩ := entry
    have hrest := fun line =>
      ih line fun other hother => hbuilt other (List.mem_cons_of_mem _ hother)
    -- what a later entry was made, an entry of the whole list was made
    have hweaken : ∀ id' packet,
        (∃ pending', (id', pending') ∈ entries ∧ pending'.packet id' = .ok packet)
          → ∃ pending', (id', pending') ∈ (id, pending) :: entries
            ∧ pending'.packet id' = .ok packet := by
      rintro id' packet ⟨pending', hmem, hpacket⟩
      exact ⟨pending', List.mem_cons_of_mem _ hmem, hpacket⟩
    rw [resend]
    by_cases hdue : pending.isOverdue now = true
    · rw [if_pos hdue]
      obtain ⟨packet, hpacket⟩ := hbuilt (id, pending) List.mem_cons_self
      have hoverdue : overdue now ((id, pending) :: entries) = id :: overdue now entries := by
        simp [overdue, hdue]
      rw [hoverdue]
      simp only [hpacket]
      split
      · next fault line' hwrite =>
        obtain ⟨rfl, events, hlog, hsent⟩ := Line.writeAll_error hwrite
        exact ⟨events, hlog, .unsent _ ⟨pending, List.mem_cons_self, hpacket⟩ hsent⟩
      · next line' hwrite =>
        obtain ⟨events, hlog, hsent⟩ := Line.writeAll_ok hwrite
        obtain ⟨later, hlog', hrepeats⟩ := hrest line'
        refine ⟨events ++ later, ?_, ?_⟩
        · dsimp only
          rw [hlog', hlog, List.append_assoc]
        · exact .sent ⟨pending, List.mem_cons_self, hpacket⟩ hsent
            (hrepeats.mono hweaken)
    · rw [if_neg hdue]
      have hoverdue : overdue now ((id, pending) :: entries) = overdue now entries := by
        simp [overdue, hdue]
      rw [hoverdue]
      obtain ⟨events, hlog, hrepeats⟩ := hrest line
      exact ⟨events, hlog, hrepeats.mono hweaken⟩

/-- **Every way in which sending again can end.** -/
theorem resendOverdue_resending (now : Nat) (session : Session η σ)
    (hholds : session.client.holdsConnection = true)
    (hbuilt : ∀ entry ∈ session.client.pending.entries,
      ∃ packet, entry.2.packet entry.1 = .ok packet) :
    Resending (Builds session.client) now session (session.resendOverdue now) := by
  obtain ⟨events, hlog, hrepeats⟩ :=
    resend_repeats now session.client.pending.entries session.line hbuilt
  unfold resendOverdue
  generalize resend now session.client.pending.entries session.line = outcome at hlog hrepeats
  obtain ⟨ids, round, line⟩ := outcome
  -- every entry could be built, so the round is complete or a write failed
  rcases hrepeats.round_eq with hround | hround
  · subst hround
    exact .complete hlog hrepeats
  · subst hround
    obtain ⟨closed, hclosed⟩ := hangUp_events ⟨stamped ids now session.client, line⟩ hholds
    rw [hlog, List.append_assoc] at hclosed
    exact .lost hclosed hrepeats

end Resending

/-! ## §3. A whole poll. -/

section Polling

variable [OctetStream σ] [MessageHandler η]

/-- The first half of a poll: takes a packet off the stream and handles it. -/
def takeIn (timeoutMs : UInt32) (session : Session η σ) : Except Fault Unit × Session η σ :=
  handle (Inbound.receive timeoutMs session.line).1
    { session with line := (Inbound.receive timeoutMs session.line).2 }

/-- **A poll takes in a packet, and then sends again what is overdue** if it still can. -/
theorem poll_eq (timeoutMs : UInt32) (now : Nat) {session : Session η σ}
    (h : session.client.isReady = true) :
    session.poll timeoutMs now
      = if (session.takeIn timeoutMs).2.client.isConnected then
          (((session.takeIn timeoutMs).2.resendOverdue now).1.bind
            fun _ => (session.takeIn timeoutMs).1,
          ((session.takeIn timeoutMs).2.resendOverdue now).2)
        else session.takeIn timeoutMs := by
  rcases hreceive : Inbound.receive timeoutMs session.line with ⟨inbound, line⟩
  rcases hhandle : handle inbound { session with line := line } with ⟨result, session'⟩
  have htaken : session.takeIn timeoutMs = (result, session') := by
    unfold takeIn
    rw [hreceive]
    exact hhandle
  unfold poll
  rw [if_neg (not_not_intro h), hreceive, htaken]
  dsimp only
  rw [hhandle]
  dsimp only
  by_cases hconnected : session'.client.isConnected = true
  · rw [if_pos hconnected, if_pos hconnected]
    -- a failure to send again hides the first result, and success shows it
    rcases session'.resendOverdue now with ⟨fault | done, session''⟩
    · rfl
    · rfl
  · rw [if_neg hconnected, if_neg hconnected]

theorem poll_not_ready (timeoutMs : UInt32) (now : Nat) {session : Session η σ}
    (h : ¬ session.client.isReady = true) :
    session.poll timeoutMs now = (.error .notOpen, session) := by
  unfold poll
  rw [if_pos h]

/-- What the first half of a poll found and did, and what it left in the log. -/
theorem takeIn_spec (timeoutMs : UInt32) (session : Session η σ)
    (h : session.client.holdsConnection = true) :
    ∃ inbound line bounded reads,
      line.events = session.line.events ++ .timeoutSet timeoutMs bounded :: reads
      ∧ (∀ event ∈ reads, event.IsRead)
      ∧ inbound.Found (Traffic.received reads)
      ∧ Handling { session with line := line } inbound (session.takeIn timeoutMs) := by
  obtain ⟨bounded, reads, hlog, hread, hfound⟩ := Inbound.receive_found timeoutMs session.line
  exact ⟨_, _, bounded, reads, hlog, hread, hfound, handle_handling _ _ h⟩

end Polling

end FieldLink.Mqtt.Session
