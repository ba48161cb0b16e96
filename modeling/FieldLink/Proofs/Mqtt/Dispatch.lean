/-
  FieldLink.Proofs.Mqtt.Dispatch
  ────────────────────────────────
  **A MESSAGE IS ACKNOWLEDGED FIRST AND HANDED OVER SECOND.**

  A poll goes through its stages in one order, whatever the client has in
  its tables and whatever the platform does: it waits, answers the message
  that came in, hands it to the handler of its topic, sends again what is
  overdue, and stops where the connection is lost.  `Course` is such a poll
  with the events of each stage:

      Handling.dispatch         — what is answered and what is handed over
      resendOverdue_writes      — what is sent again, from any table
      poll_course               — every poll of a client that is ready
      acknowledged_then_handed  — what follows for messages, handlers and
                                  acknowledgements
-/
import FieldLink.Proofs.Line.Writes
import FieldLink.Proofs.Mqtt.Outbound
import FieldLink.Proofs.Mqtt.Polling
import FieldLink.Proofs.Mqtt.Outstanding

namespace FieldLink.Mqtt

/-! ## §1. What a message asks for. -/

/-- What was found brings this message.  A packet that was too long has been skipped unread, and
brings none. -/
def Inbound.Brings : Inbound → Message → Prop
  | .packet header body, message =>
    Packet.kind header = Packet.kind Packet.publishHeader
      ∧ Message.parse (header &&& 0x0F) body = .ok message
  | _, _ => False

theorem Inbound.Brings.inj {inbound : Inbound} {message message' : Message}
    (h : inbound.Brings message) (h' : inbound.Brings message') : message = message' := by
  cases inbound with
  | packet header body =>
    obtain ⟨-, hparse⟩ := h
    obtain ⟨-, hparse'⟩ := h'
    rw [hparse] at hparse'
    exact Except.ok.inj hparse'
  | silence => exact h.elim
  | oversized => exact h.elim
  | broken => exact h.elim

/-- **Octets that are a packet were found as that packet**, unless it is too long. -/
theorem Inbound.Found.eq_packet {inbound : Inbound} {octets : Octets} (h : inbound.Found octets)
    {packet : ControlPacket} (hoctets : octets = packet.octets)
    (hshort : packet.body.length ≤ maxPacketLength) :
    inbound = .packet packet.header packet.body := by
  cases h with
  | silence =>
    have hlength := packet.two_le_length_octets
    rw [← hoctets] at hlength
    simp at hlength
  | packet found _ =>
    obtain rfl := ControlPacket.octets_inj hoctets
    rfl
  | oversized found hlong =>
    obtain rfl := ControlPacket.octets_inj hoctets
    exact absurd hshort (Nat.not_le.mpr hlong)
  | broken fault hunfinished => exact absurd hoctets.symm (hunfinished packet)

/-- A message that asks for an acknowledgement has got it, all four octets of it. -/
def Message.AcknowledgedBy (message : Message) (answer : List Event) : Prop :=
  message.qos = .atLeastOnce →
    ∃ id, message.packetId = some id
      ∧ Delivered [0x40, 2, UInt8.ofNat (id.toNat / 256), UInt8.ofNat (id.toNat % 256)] answer

section Handlers

variable {η : Type} [MessageHandler η]

/-- A handler after these messages; those of other topics do not reach it. -/
def MessageHandler.takeAll (topic : String) (messages : List (String × Octets)) (handler : η) : η :=
  messages.foldl (fun handler message =>
    if message.1 = topic then MessageHandler.onMessage handler message.1 message.2 else handler)
    handler

/-- Every handler has got the messages of its own topic, and nothing else has changed it. -/
def Client.Notified (messages : List (String × Octets)) (client client' : Client η) : Prop :=
  ∀ topic, client'.subscriptions.get? topic
    = (client.subscriptions.get? topic).map (MessageHandler.takeAll topic messages)

theorem Client.Notified.nil {client client' : Client η}
    (h : client'.subscriptions = client.subscriptions) : Client.Notified [] client client' := by
  intro topic
  rw [h]
  exact Option.map_id'.symm

end Handlers

section Stages

variable {η : Type}

/-- The event of handing a message over; only a subscribed topic has a handler. -/
def Client.handing (client : Client η) (message : Message) : List Event :=
  if client.subscriptions.contains message.topic then
    [.delivered message.topic message.payload]
  else []

/-- What is answered and what is handed over, and whether the answer went out. -/
inductive Dispatch (client : Client η) (inbound : Inbound) :
    Bool → List Event → List Event → Prop where
  /-- No message came in. -/
  | nothing (hnone : ∀ message, ¬ inbound.Brings message) : Dispatch client inbound true [] []
  /-- The message asked for no acknowledgement. -/
  | unasked {message : Message} (hbrings : inbound.Brings message)
      (hqos : message.qos ≠ .atLeastOnce) :
      Dispatch client inbound true [] (client.handing message)
  /-- The message was acknowledged. -/
  | acknowledged {message : Message} {id : UInt16} {answer : List Event}
      (hbrings : inbound.Brings message) (hqos : message.qos = .atLeastOnce)
      (hid : message.packetId = some id) (hsent : Delivered (Packet.puback id) answer) :
      Dispatch client inbound true answer (client.handing message)
  /-- The message could not be acknowledged. -/
  | unacknowledged {message : Message} {id : UInt16} {answer : List Event}
      (hbrings : inbound.Brings message) (hqos : message.qos = .atLeastOnce)
      (hid : message.packetId = some id) (hsent : Interrupted (Packet.puback id) answer) :
      Dispatch client inbound false answer []

/-- How a stage leaves the connection: it is held, or it has just been closed. -/
inductive Standing : Client η → List Event → Prop where
  /-- The client is as ready as before. -/
  | held {client : Client η} (h : client.isReady = true) : Standing client []
  /-- The connection has gone. -/
  | gone {client : Client η} (worked : Bool) (hphase : client.phase = .disconnected)
      (hholds : client.holdsConnection = false) : Standing client [.closed worked]

theorem Standing.eq_nil_or {client : Client η} {closing : List Event}
    (h : Standing client closing) :
    closing = [] ∨ (∃ worked, closing = [.closed worked]) ∧ client.phase = .disconnected
      ∧ client.holdsConnection = false := by
  cases h with
  | held => exact .inl rfl
  | gone worked hphase hholds => exact .inr ⟨⟨worked, rfl⟩, hphase, hholds⟩

/-- Closing a connection brings nothing in and hands nothing over. -/
theorem Standing.quiet {client : Client η} {closing : List Event} (h : Standing client closing) :
    Traffic.handed closing = [] ∧ Traffic.received closing = [] := by
  cases h with
  | held => exact ⟨rfl, rfl⟩
  | gone => exact ⟨rfl, rfl⟩

theorem Standing.isReady_iff {client : Client η} {closing : List Event}
    (h : Standing client closing) : client.isReady = true ↔ closing = [] := by
  cases h with
  | held h => simp [h]
  | gone worked hphase hholds => simp [Client.isReady, hholds]

theorem Standing.isConnected_iff {client : Client η} {closing : List Event}
    (h : Standing client closing) : client.isConnected = true ↔ closing = [] := by
  cases h with
  | held h => simp [Client.isConnected, ((Client.isReady_iff _).mp h).1]
  | gone worked hphase hholds => simp [Client.isConnected, hphase]

end Stages

/-! ## §2. Answering and handing over. -/

namespace Session

variable {η σ : Type}

section Deliver

variable [MessageHandler η]

theorem deliver_events (message : Message) (session : Session η σ) :
    (session.deliver message).line.events
      = session.line.events ++ session.client.handing message := by
  unfold deliver Client.handing
  split
  · exact Line.events_record _ _
  · exact (List.append_nil _).symm

theorem deliver_notified (message : Message) (session : Session η σ) :
    Client.Notified (Traffic.handed (session.client.handing message)) session.client
      (session.deliver message).client := by
  unfold deliver Client.handing
  by_cases hcontains : session.client.subscriptions.contains message.topic = true
  · rw [if_pos hcontains, if_pos hcontains]
    intro topic
    show (session.notified message).get? topic = _
    rw [notified, Subscriptions.get?_modify]
    by_cases htopic : topic = message.topic
    · rw [if_pos htopic, htopic]
      congr 1
      funext handler
      simp [MessageHandler.takeAll, Event.handed]
    · rw [if_neg htopic]
      -- the message is of another topic, so this handler does not get it
      have hother : (MessageHandler.takeAll topic
          (Traffic.handed [.delivered message.topic message.payload]) : η → η)
            = fun handler => handler := by
        funext handler
        simp [MessageHandler.takeAll, Event.handed, Ne.symm htopic]
      rw [hother]
      exact Option.map_id'.symm
  · rw [if_neg hcontains, if_neg hcontains]
    exact .nil rfl

theorem deliver_isReady (message : Message) (session : Session η σ) :
    (session.deliver message).client.isReady = session.client.isReady := by
  rcases deliver_cases message session with heq | heq
  · rw [heq]
  · rw [heq]
    rfl

end Deliver

section Handling

variable [OctetStream σ]

theorem hangUp_standing (session : Session η σ) (h : session.client.holdsConnection = true) :
    ∃ closing, session.hangUp.line.events = session.line.events ++ closing
      ∧ Standing session.hangUp.client closing ∧ closing ≠ [] := by
  obtain ⟨worked, hlog⟩ := hangUp_events session h
  exact ⟨_, hlog, .gone worked rfl rfl, nofun⟩

variable [MessageHandler η]

/-- **What is answered and what is handed over.** -/
theorem Handling.dispatch {session : Session η σ} {inbound : Inbound}
    {outcome : Except Fault Unit × Session η σ} (hhandling : Handling session inbound outcome)
    (h : session.client.isReady = true) :
    ∃ answered answer handed closing,
      outcome.2.line.events = session.line.events ++ (answer ++ (handed ++ closing))
        ∧ Dispatch session.client inbound answered answer handed
        ∧ Client.Notified (Traffic.handed handed) session.client outcome.2.client
        ∧ Standing outcome.2.client closing ∧ (answered = false → closing ≠ []) := by
  have hkinds : Packet.kind Packet.publishHeader ≠ Packet.kind Packet.pubackHeader := by decide
  -- where nothing came in, nothing is answered or handed over
  have hnothing : ∀ {client : Client η}, (∀ message, ¬ inbound.Brings message) →
      client.isReady = true → client.subscriptions = session.client.subscriptions →
      ∃ answered answer handed closing,
        session.line.events = session.line.events ++ (answer ++ (handed ++ closing))
          ∧ Dispatch session.client inbound answered answer handed
          ∧ Client.Notified (Traffic.handed handed) session.client client
          ∧ Standing client closing ∧ (answered = false → closing ≠ []) :=
    fun hnone hready hhandlers =>
      ⟨true, [], [], [], by simp, .nothing hnone, .nil hhandlers, .held hready, nofun⟩
  cases hhandling with
  | silence => exact hnothing (fun _ => id) h rfl
  | oversized header length => exact hnothing (fun _ => id) h rfl
  | broken fault =>
    obtain ⟨closing, hlog, hstanding, -⟩ :=
      hangUp_standing session ((Client.isReady_iff _).mp h).2
    exact ⟨true, [], [], closing, hlog, .nothing fun _ => id, .nil rfl, hstanding, nofun⟩
  | ignored body hmessage hack => exact hnothing (fun _ hbrings => hmessage hbrings.1) h rfl
  | malformedMessage hkind hparse =>
    refine hnothing ?_ h rfl
    intro message hbrings
    rw [hbrings.2] at hparse
    cases hparse
  | delivered hkind hparse hqos =>
    refine ⟨true, [], _, [], ?_, .unasked ⟨hkind, hparse⟩ hqos, deliver_notified _ session,
      .held ?_, nofun⟩
    · rw [deliver_events, List.append_nil, List.nil_append]
    · rw [deliver_isReady]
      exact h
  | acknowledged hkind hparse hqos hid hsend hsending =>
    cases hsending with
    | delivered hlog hsent =>
      refine ⟨true, _, _, [], ?_, .acknowledged ⟨hkind, hparse⟩ hqos hid hsent,
        deliver_notified _ { session with line := _ }, .held ?_, nofun⟩
      · rw [deliver_events, List.append_nil, ← List.append_assoc]
        exact congrArg (· ++ _) hlog
      · rw [deliver_isReady]
        exact h
  | unacknowledged hkind hparse hqos hid hsend hsending =>
    cases hsending with
    | lost hlog hsent =>
      exact ⟨false, _, [], _, hlog, .unacknowledged ⟨hkind, hparse⟩ hqos hid hsent, .nil rfl,
        .gone _ rfl rfl, nofun⟩
  | released hkind =>
    exact hnothing (fun _ hbrings => hkinds (hbrings.1.symm.trans hkind)) h rfl
  | malformedAcknowledgement hkind hbody =>
    exact hnothing (fun _ hbrings => hkinds (hbrings.1.symm.trans hkind)) h rfl

/-- Handling forgets messages at most; it keeps no new ones. -/
theorem Handling.pending_le {session : Session η σ} {inbound : Inbound}
    {outcome : Except Fault Unit × Session η σ} (hhandling : Handling session inbound outcome)
    {id : UInt16} {pending : Pending} (hget : outcome.2.client.pending.get? id = some pending) :
    session.client.pending.get? id = some pending := by
  cases hhandling with
  | silence => exact hget
  | oversized header length => exact hget
  | broken fault => exact hget
  | ignored body hmessage hack => exact hget
  | malformedMessage hkind hparse => exact hget
  | delivered hkind hparse hqos =>
    rw [deliver_pending] at hget
    exact hget
  | acknowledged hkind hparse hqos hid hsend hsending =>
    rw [deliver_pending, hsending.pending_eq] at hget
    exact hget
  | unacknowledged hkind hparse hqos hid hsend hsending =>
    rw [hsending.pending_eq] at hget
    exact hget
  | released hkind =>
    have herased : (session.client.pending.erase _).get? id = some pending := hget
    rw [Table.get?_erase] at herased
    split at herased
    · cases herased
    · exact herased
  | malformedAcknowledgement hkind hbody => exact hget

end Handling

/-! ## §3. Sending again. -/

section Resending

variable [OctetStream σ]

/-- The round did not end with a failed write. -/
def Round.wentOut : Round → Bool
  | .unsent _ => false
  | _ => true

/-- **What a round of repetitions writes**, from any entries: packets that were made of them, one
after another, up to the first that cannot be written. -/
theorem resend_writes (now : Nat) (entries : List (UInt16 × Pending)) (line : Line σ) :
    ∃ packets events, (resend now entries line).2.2.events = line.events ++ events
      ∧ Writes (resend now entries line).2.1.wentOut packets events
      ∧ Traffic.handed events = [] ∧ Traffic.received events = []
      ∧ ∀ packet ∈ packets, ∃ entry ∈ entries, entry.2.packet entry.1 = .ok packet := by
  induction entries generalizing line with
  | nil => exact ⟨[], [], by simp [resend], .done, rfl, rfl, nofun⟩
  | cons entry entries ih =>
    obtain ⟨id, pending⟩ := entry
    rw [resend]
    by_cases hdue : pending.isOverdue now = true
    · rw [if_pos hdue]
      split
      · exact ⟨[], [], by simp, .done, rfl, rfl, nofun⟩
      · next packet hpacket =>
        split
        · next fault line' hwrite =>
          obtain ⟨-, events, hlog, hsent⟩ := Line.writeAll_error hwrite
          refine ⟨[packet], events, hlog, .interrupted hsent, hsent.handed_eq, hsent.received_eq,
            ?_⟩
          intro other hother
          rw [List.mem_singleton.mp hother]
          exact ⟨(id, pending), List.mem_cons_self, hpacket⟩
        · next line' hwrite =>
          obtain ⟨events, hlog, hsent⟩ := Line.writeAll_ok hwrite
          obtain ⟨packets, later, hlog', hwrites, hhanded, hreceived, hmade⟩ := ih line'
          refine ⟨packet :: packets, events ++ later, ?_, .packet hsent hwrites, ?_, ?_, ?_⟩
          · dsimp only
            rw [hlog', hlog, List.append_assoc]
          · rw [Traffic.handed_append, hsent.handed_eq, hhanded, List.append_nil]
          · rw [Traffic.received_append, hsent.received_eq, hreceived, List.append_nil]
          · intro other hother
            rcases List.mem_cons.mp hother with rfl | hmem
            · exact ⟨(id, pending), List.mem_cons_self, hpacket⟩
            · obtain ⟨entry, hentry, hmade⟩ := hmade other hmem
              exact ⟨entry, List.mem_cons_of_mem _ hentry, hmade⟩
    · rw [if_neg hdue]
      obtain ⟨packets, events, hlog, hwrites, hhanded, hreceived, hmade⟩ := ih line
      refine ⟨packets, events, hlog, hwrites, hhanded, hreceived, ?_⟩
      intro other hother
      obtain ⟨entry, hentry, hmade⟩ := hmade other hother
      exact ⟨entry, List.mem_cons_of_mem _ hentry, hmade⟩

/-- **Sending again from any table.**  A packet that was cut short costs the connection. -/
theorem resendOverdue_writes (now : Nat) (session : Session η σ)
    (h : session.client.isReady = true) :
    ∃ whole packets events closing,
      (session.resendOverdue now).2.line.events = session.line.events ++ (events ++ closing)
        ∧ Writes whole packets events
        ∧ Traffic.handed events = [] ∧ Traffic.received events = []
        ∧ (∀ packet ∈ packets, ∃ id, Builds session.client id packet)
        ∧ (session.resendOverdue now).2.client.subscriptions = session.client.subscriptions
        ∧ Standing (session.resendOverdue now).2.client closing
        ∧ (whole = false → closing ≠ []) := by
  obtain ⟨packets, events, hlog, hwrites, hhanded, hreceived, hmade⟩ :=
    resend_writes now session.client.pending.entries session.line
  have hbuilds : ∀ packet ∈ packets, ∃ id, Builds session.client id packet := by
    intro packet hpacket
    obtain ⟨⟨id, pending⟩, hentry, heq⟩ := hmade packet hpacket
    exact ⟨id, pending, hentry, heq⟩
  unfold resendOverdue
  generalize resend now session.client.pending.entries session.line = outcome at hlog hwrites
  obtain ⟨ids, round, line⟩ := outcome
  have hready : (stamped ids now session.client).isReady = true := h
  cases round with
  | complete =>
    exact ⟨true, packets, events, [], by rw [List.append_nil]; exact hlog, hwrites, hhanded,
      hreceived, hbuilds, rfl, .held hready, nofun⟩
  | unbuilt fault =>
    exact ⟨true, packets, events, [], by rw [List.append_nil]; exact hlog, hwrites, hhanded,
      hreceived, hbuilds, rfl, .held hready, nofun⟩
  | unsent fault =>
    obtain ⟨closing, hclosed, hstanding, hne⟩ := hangUp_standing
      (⟨stamped ids now session.client, line⟩ : Session η σ) ((Client.isReady_iff _).mp hready).2
    rw [hlog, List.append_assoc] at hclosed
    exact ⟨false, packets, events, closing, hclosed, hwrites, hhanded, hreceived, hbuilds, rfl,
      hstanding, fun _ => hne⟩

end Resending

/-! ## §4. The course of a poll. -/

/-- A poll with the events of its stages. -/
structure Course [MessageHandler η] (timeoutMs : UInt32) (session after : Session η σ) where
  /-- What it found on the stream. -/
  inbound : Inbound
  /-- The wait, and the octets that came in. -/
  awaited : List Event
  /-- The acknowledgement. -/
  answer : List Event
  /-- What was handed over. -/
  handed : List Event
  /-- What was sent again. -/
  resent : List Event
  /-- The end of the connection, if it came. -/
  closing : List Event
  /-- The answer went out. -/
  answered : Bool
  /-- All that was sent again went out. -/
  whole : Bool
  /-- The packets that were sent again. -/
  packets : List Octets
  events_eq : after.line.events
    = session.line.events ++ (awaited ++ (answer ++ (handed ++ (resent ++ closing))))
  awaited_eq : ∃ bounded reads, awaited = .timeoutSet timeoutMs bounded :: reads
    ∧ ∀ event ∈ reads, event.IsRead
  found : inbound.Found (Traffic.received awaited)
  dispatch : Dispatch session.client inbound answered answer handed
  notified : Client.Notified (Traffic.handed handed) session.client after.client
  writes : Writes whole packets resent
  handed_resent : Traffic.handed resent = []
  received_resent : Traffic.received resent = []
  builds : ∀ packet ∈ packets, ∃ id, Builds session.client id packet
  standing : Standing after.client closing
  /-- Without an answer the poll ends there. -/
  of_unanswered : answered = false → resent = [] ∧ packets = [] ∧ closing ≠ []
  /-- A packet that was cut short costs the connection. -/
  of_cut : whole = false → closing ≠ []

section Polling

variable [OctetStream σ] [MessageHandler η]

/-- **Every poll of a client that is ready takes this course**, whatever is in its tables. -/
theorem poll_course (timeoutMs : UInt32) (now : Nat) {session : Session η σ}
    (h : session.client.isReady = true) :
    Nonempty (Course timeoutMs session (session.poll timeoutMs now).2) := by
  obtain ⟨inbound, line, bounded, reads, hlog, hreads, hfound, hhandling⟩ :=
    takeIn_spec timeoutMs session ((Client.isReady_iff _).mp h).2
  obtain ⟨answered, answer, handed, closing, hlog', hdispatch, hnotified, hstanding, hunanswered⟩ :=
    hhandling.dispatch h
  rw [poll_eq timeoutMs now h]
  by_cases hconnected : (session.takeIn timeoutMs).2.client.isConnected = true
  · -- the connection is still there, so nothing was lost in the first half
    rw [if_pos hconnected]
    obtain rfl := hstanding.isConnected_iff.mp hconnected
    obtain ⟨whole, packets, resent, closing, hlog'', hwrites, hhanded, hreceived, hbuilds,
      hhandlers, hstanding', hcut⟩ :=
      resendOverdue_writes now (session.takeIn timeoutMs).2 (hstanding.isReady_iff.mpr rfl)
    refine ⟨{
      inbound, answer, handed, resent, closing, answered, whole, packets
      awaited := .timeoutSet timeoutMs bounded :: reads
      events_eq := ?_
      awaited_eq := ⟨bounded, reads, rfl, hreads⟩
      found := hfound
      dispatch := hdispatch
      notified := ?_
      writes := hwrites
      handed_resent := hhanded
      received_resent := hreceived
      builds := ?_
      standing := hstanding'
      of_unanswered := fun hfalse => absurd rfl (hunanswered hfalse)
      of_cut := hcut }⟩
    · rw [hlog'', hlog']
      show line.events ++ _ ++ _ = _
      rw [hlog]
      simp
    · intro topic
      rw [hhandlers]
      exact hnotified topic
    · intro packet hpacket
      obtain ⟨id, pending, hentry, heq⟩ := hbuilds packet hpacket
      have hget := hhandling.pending_le ((Table.get?_eq_some_iff _ _ _).mpr hentry)
      exact ⟨id, pending, (Table.get?_eq_some_iff _ _ _).mp hget, heq⟩
  · -- the connection was lost in the first half, and nothing is sent again
    rw [if_neg hconnected]
    refine ⟨{
      inbound, answer, handed, closing, answered
      awaited := .timeoutSet timeoutMs bounded :: reads
      resent := []
      whole := true
      packets := []
      events_eq := ?_
      awaited_eq := ⟨bounded, reads, rfl, hreads⟩
      found := hfound
      dispatch := hdispatch
      notified := hnotified
      writes := .done
      handed_resent := rfl
      received_resent := rfl
      builds := nofun
      standing := hstanding
      of_unanswered := fun hfalse => ⟨rfl, rfl, hunanswered hfalse⟩
      of_cut := nofun }⟩
    rw [hlog']
    show line.events ++ _ = _
    rw [hlog]
    simp

end Polling

end Session

/-! ## §5. Messages, handlers and acknowledgements. -/

namespace Dispatch

variable {η : Type} {client : Client η} {inbound : Inbound} {answered : Bool}
  {answer handed : List Event}

/-- An answer is nothing but an attempt to write. -/
theorem quiet_answer (h : Dispatch client inbound answered answer handed) :
    Traffic.handed answer = [] ∧ Traffic.received answer = [] := by
  cases h with
  | nothing | unasked => exact ⟨rfl, rfl⟩
  | acknowledged _ _ _ hsent => exact ⟨hsent.handed_eq, hsent.received_eq⟩
  | unacknowledged _ _ _ hsent => exact ⟨hsent.handed_eq, hsent.received_eq⟩

theorem handed_cases (h : Dispatch client inbound answered answer handed) :
    handed = [] ∨ ∃ topic payload, handed = [.delivered topic payload] := by
  have hhanding : ∀ message, client.handing message = []
      ∨ ∃ topic payload, client.handing message = [.delivered topic payload] := by
    intro message
    unfold Client.handing
    split
    · exact .inr ⟨_, _, rfl⟩
    · exact .inl rfl
  cases h with
  | nothing | unacknowledged => exact .inl rfl
  | unasked | acknowledged => exact hhanding _

/-- **At most one message is handed over**, and nothing else happens in that stage. -/
theorem handed_eq (h : Dispatch client inbound answered answer handed) :
    handed = (Traffic.handed handed).map (fun message => .delivered message.1 message.2)
      ∧ (Traffic.handed handed).length ≤ 1 ∧ Traffic.received handed = [] := by
  rcases h.handed_cases with rfl | ⟨topic, payload, rfl⟩
  · exact ⟨rfl, Nat.zero_le 1, rfl⟩
  · exact ⟨rfl, Nat.le_refl 1, rfl⟩

/-- A message that was handed over has its topic subscribed. -/
theorem mem_handing_iff (message : Message) (topic : String) (payload : Octets) :
    (topic, payload) ∈ Traffic.handed (client.handing message)
      ↔ client.subscriptions.contains message.topic = true
        ∧ message.topic = topic ∧ message.payload = payload := by
  unfold Client.handing
  by_cases hcontains : client.subscriptions.contains message.topic = true
  · simp [hcontains, Event.handed, eq_comm]
  · simp [hcontains]

/-- **What is handed over**: the message that came in, if its topic is subscribed and it has the
acknowledgement that it asks for. -/
theorem mem_handed_iff (h : Dispatch client inbound answered answer handed) (topic : String)
    (payload : Octets) :
    (topic, payload) ∈ Traffic.handed handed
      ↔ ∃ message, inbound.Brings message
        ∧ client.subscriptions.contains message.topic = true ∧ message.AcknowledgedBy answer
        ∧ message.topic = topic ∧ message.payload = payload := by
  -- where the message has what it asks for, being handed over is a matter of its topic alone
  have hhanding : ∀ {message}, inbound.Brings message → message.AcknowledgedBy answer →
      ((topic, payload) ∈ Traffic.handed (client.handing message)
        ↔ ∃ message, inbound.Brings message
          ∧ client.subscriptions.contains message.topic = true ∧ message.AcknowledgedBy answer
          ∧ message.topic = topic ∧ message.payload = payload) := by
    intro message hbrings hacknowledged
    rw [mem_handing_iff]
    constructor
    · intro hgiven
      obtain ⟨hcontains, htopic, hpayload⟩ := hgiven
      exact ⟨message, hbrings, hcontains, hacknowledged, htopic, hpayload⟩
    · intro hgiven
      obtain ⟨other, hother, hcontains, -, htopic, hpayload⟩ := hgiven
      obtain rfl := hbrings.inj hother
      exact ⟨hcontains, htopic, hpayload⟩
  cases h with
  | nothing hnone =>
    refine ⟨nofun, ?_⟩
    intro hgiven
    obtain ⟨message, hbrings, -⟩ := hgiven
    exact absurd hbrings (hnone message)
  | unasked hbrings hqos => exact hhanding hbrings fun hasks => absurd hasks hqos
  | acknowledged hbrings hqos hid hsent =>
    exact hhanding hbrings fun _ => ⟨_, hid, Packet.puback_octets _ ▸ hsent⟩
  | unacknowledged hbrings hqos hid hsent =>
    refine ⟨nofun, ?_⟩
    intro hgiven
    obtain ⟨message, hother, -, hacknowledged, -⟩ := hgiven
    obtain rfl := hbrings.inj hother
    -- a packet that was interrupted has not gone out whole
    obtain ⟨id, -, pieces, -, rfl⟩ := hacknowledged hqos
    exact absurd (by simp) hsent.flushed_notMem

/-- **Each message that asks for it gets one attempt at its acknowledgement**, and nothing else is
answered. -/
theorem answer_cases (h : Dispatch client inbound answered answer handed) :
    (answered = true ∧ answer = []
        ∧ ∀ message, inbound.Brings message → message.qos ≠ .atLeastOnce)
      ∨ ∃ message id, inbound.Brings message ∧ message.qos = .atLeastOnce
        ∧ message.packetId = some id
        ∧ (answered = true ∧ Delivered (Packet.puback id) answer
          ∨ answered = false ∧ handed = [] ∧ Interrupted (Packet.puback id) answer) := by
  cases h with
  | nothing hnone => exact .inl ⟨rfl, rfl, fun message hbrings => absurd hbrings (hnone message)⟩
  | unasked hbrings hqos => exact .inl ⟨rfl, rfl, fun message hother => hbrings.inj hother ▸ hqos⟩
  | acknowledged hbrings hqos hid hsent =>
    exact .inr ⟨_, _, hbrings, hqos, hid, .inl ⟨rfl, hsent⟩⟩
  | unacknowledged hbrings hqos hid hsent =>
    exact .inr ⟨_, _, hbrings, hqos, hid, .inr ⟨rfl, rfl, hsent⟩⟩

/-- **What becomes of a message that came in**: it is handed over, behind its acknowledgement if it
asks for one, unless that could not be written. -/
theorem of_brings (h : Dispatch client inbound answered answer handed) {message : Message}
    (hbrings : inbound.Brings message) :
    (answered = true ∧ handed = client.handing message ∧ message.AcknowledgedBy answer)
      ∨ answered = false := by
  cases h with
  | nothing hnone => exact absurd hbrings (hnone message)
  | unasked hother hqos =>
    obtain rfl := hbrings.inj hother
    exact .inl ⟨rfl, rfl, fun hasks => absurd hasks hqos⟩
  | acknowledged hother hqos hid hsent =>
    obtain rfl := hbrings.inj hother
    exact .inl ⟨rfl, rfl, fun _ => ⟨_, hid, Packet.puback_octets _ ▸ hsent⟩⟩
  | unacknowledged => exact .inr rfl

end Dispatch

/-- What is built from the table is a message, and no acknowledgement. -/
theorem Session.Builds.kind_eq {η : Type} {client : Client η} {id : UInt16} {packet : Octets}
    (h : Session.Builds client id packet) :
    ∃ header rest, packet = header :: rest
      ∧ Packet.kind header = Packet.kind Packet.publishHeader := by
  obtain ⟨pending, -, hpacket⟩ := h
  let draft : Packet.Draft :=
    .publish pending.topic pending.payload .atLeastOnce pending.retain (some id)
  have hbuild : draft.build = .ok packet := hpacket
  obtain ⟨-, rfl, -⟩ := Packet.Draft.build_ok_iff.mp hbuild
  refine ⟨draft.header, _, rfl, ?_⟩
  rw [Packet.Draft.header_publish]
  exact Packet.kind_publishHeaderOf _ pending.retain

namespace Session.Course

variable {η σ : Type} [MessageHandler η] {timeoutMs : UInt32} {session after : Session η σ}

/-- Handlers run in one stage of a poll only. -/
theorem handed_events (course : Course timeoutMs session after) :
    Traffic.handed (course.awaited
      ++ (course.answer ++ (course.handed ++ (course.resent ++ course.closing))))
      = Traffic.handed course.handed := by
  obtain ⟨bounded, reads, hawaited, hreads⟩ := course.awaited_eq
  have hwait : Traffic.handed course.awaited = [] := by
    rw [hawaited, Traffic.handed_cons, Traffic.handed_reads hreads]
    rfl
  simp only [Traffic.handed_append, hwait, course.dispatch.quiet_answer.1, course.handed_resent,
    course.standing.quiet.1, List.nil_append, List.append_nil]

/-- Octets come in in one stage of a poll only. -/
theorem received_events (course : Course timeoutMs session after) :
    Traffic.received (course.awaited
      ++ (course.answer ++ (course.handed ++ (course.resent ++ course.closing))))
      = Traffic.received course.awaited := by
  simp only [Traffic.received_append, course.dispatch.quiet_answer.2,
    course.dispatch.handed_eq.2.2, course.received_resent, course.standing.quiet.2,
    List.append_nil]

/-- Nothing is written while the client waits. -/
theorem sent_awaited (course : Course timeoutMs session after) :
    Traffic.sent course.awaited = [] := by
  obtain ⟨bounded, reads, hawaited, hreads⟩ := course.awaited_eq
  rw [hawaited, Traffic.sent_cons,
    Traffic.sent_asides fun event hevent => (hreads event hevent).isAside]
  rfl

end Session.Course

namespace Session

variable {η σ : Type} [OctetStream σ] [MessageHandler η]

/-- **First the acknowledgement, then the handler, then the repetitions**: of every poll of a
client that is ready, whatever its tables hold and whatever the platform does. -/
theorem acknowledged_then_handed {session : Session η σ} (h : session.client.isReady = true)
    (timeoutMs : UInt32) (now : Nat) :
    let after := (session.poll timeoutMs now).2
    ∃ (inbound : Inbound) (awaited answer handed resent closing : List Event),
      let events := awaited ++ (answer ++ (handed ++ (resent ++ closing)))
      after.line.events = session.line.events ++ events
        -- what came in, before anything was written or handed over
        ∧ inbound.Found (Traffic.received events)
        ∧ (∃ bounded reads, awaited = .timeoutSet timeoutMs bounded :: reads
          ∧ ∀ event ∈ reads, event.IsRead)
        -- what was handed over, and to whom
        ∧ (Traffic.handed events).length ≤ 1
        ∧ handed = (Traffic.handed events).map (fun message => .delivered message.1 message.2)
        ∧ (∀ topic payload, (topic, payload) ∈ Traffic.handed events ↔
          ∃ message, inbound.Brings message
            ∧ session.client.subscriptions.contains message.topic = true
            ∧ message.AcknowledgedBy answer ∧ message.topic = topic ∧ message.payload = payload)
        ∧ session.client.Notified (Traffic.handed events) after.client
        -- what was acknowledged, and what follows if that failed
        ∧ (∀ message, inbound.Brings message → message.qos = .atLeastOnce →
          ∃ id acknowledgement, message.packetId = some id
            ∧ acknowledgement
              = [0x40, 2, UInt8.ofNat (id.toNat / 256), UInt8.ofNat (id.toNat % 256)]
            ∧ (Delivered acknowledgement answer
              ∨ Interrupted acknowledgement answer ∧ handed = [] ∧ resent = []
                ∧ (∃ worked, closing = [.closed worked])
                ∧ after.client.phase = .disconnected ∧ after.client.holdsConnection = false))
        ∧ ((∀ message, inbound.Brings message → message.qos ≠ .atLeastOnce) → answer = [])
        -- what was sent again: messages only
        ∧ ∃ whole packets, Writes whole packets resent
          ∧ (∀ packet ∈ packets, (∃ id, Builds session.client id packet)
            ∧ ∃ header rest, packet = header :: rest
              ∧ Packet.kind header = Packet.kind Packet.publishHeader)
          ∧ (closing = [] ∨ ∃ worked, closing = [.closed worked]) := by
  intro after
  obtain ⟨course⟩ := poll_course timeoutMs now h
  refine ⟨course.inbound, course.awaited, course.answer, course.handed, course.resent,
    course.closing, course.events_eq, ?_, course.awaited_eq, ?_, ?_, ?_, ?_, ?_, ?_,
    course.whole, course.packets, course.writes, ?_, ?_⟩
  · rw [course.received_events]
    exact course.found
  · rw [course.handed_events]
    exact course.dispatch.handed_eq.2.1
  · rw [course.handed_events]
    exact course.dispatch.handed_eq.1
  · rw [course.handed_events]
    exact course.dispatch.mem_handed_iff
  · rw [course.handed_events]
    exact course.notified
  · intro message hbrings hqos
    rcases course.dispatch.answer_cases with
      ⟨-, -, hnone⟩ | ⟨other, id, hother, -, hid, ⟨-, hsent⟩ | ⟨hfalse, hhanded, hsent⟩⟩
    · exact absurd hqos (hnone message hbrings)
    · obtain rfl := hbrings.inj hother
      exact ⟨id, _, hid, Packet.puback_octets id, .inl hsent⟩
    · obtain rfl := hbrings.inj hother
      obtain ⟨hresent, -, hclosing⟩ := course.of_unanswered hfalse
      exact ⟨id, _, hid, Packet.puback_octets id, .inr ⟨hsent, hhanded, hresent,
        course.standing.eq_nil_or.resolve_left hclosing⟩⟩
  · intro hnone
    rcases course.dispatch.answer_cases with ⟨-, hnil, -⟩ | ⟨message, id, hbrings, hqos, -⟩
    · exact hnil
    · exact absurd hqos (hnone message hbrings)
  · intro packet hpacket
    obtain ⟨id, hbuilds⟩ := course.builds packet hpacket
    exact ⟨⟨id, hbuilds⟩, hbuilds.kind_eq⟩
  · exact course.standing.eq_nil_or.imp_right fun hgone => hgone.1

end Session

namespace Specimen

/-- A message to topic `a` that asks to be acknowledged. -/
def asking : ControlPacket where
  header := 0x32
  field := [6]
  body := [0, 1, 97, 0, 7, 9]
  isField := ⟨by decide, [], 6, rfl, nofun, by decide⟩
  value_field := rfl

/-- A client that has topic `a` subscribed and a message of its own in flight. -/
def busy : Session Mailbox Wire :=
  (⟨client, line [.chunk asking.octets]⟩ : Session Mailbox Wire).run
    [.connect broker false, .subscribe "a" {}, .publish "b" [2] .atLeastOnce false 0]

end Specimen

/-- The acknowledgement of message 7 has gone out before the message is handed over. -/
theorem acknowledged_then_handed_specimen :
    let after := (Specimen.busy.poll 10 6000).2
    Specimen.busy.client.isReady = true
      ∧ ∃ awaited answer later,
        after.line.events = Specimen.busy.line.events
            ++ (awaited ++ (answer ++ ([.delivered "a" [9]] ++ later)))
          ∧ Delivered [0x40, 2, 0, 7] answer := by
  intro after
  have hready : Specimen.busy.client.isReady = true := by decide +kernel
  obtain ⟨inbound, awaited, answer, handed, resent, closing, hlog, hfound, -, -, hhanded, -, -,
    hasked, -, -⟩ := Session.acknowledged_then_handed hready 10 6000
  -- what came in is the message, so it is the message that was acknowledged
  have hevents := congrArg (List.drop Specimen.busy.line.events.length) hlog
  rw [List.drop_left] at hevents
  rw [← hevents] at hfound hhanded
  have hinbound := hfound.eq_packet
    (show _ = Specimen.asking.octets by decide +kernel) (by decide)
  have hbrings : inbound.Brings ⟨"a", .atLeastOnce, some 7, false, [9]⟩ := by
    rw [hinbound]
    exact ⟨rfl, by decide +kernel⟩
  have hnotified : handed = [.delivered "a" [9]] := hhanded.trans (by decide +kernel)
  obtain ⟨id, _, hid, rfl, hsent | ⟨-, hnone, -⟩⟩ := hasked _ hbrings rfl
  · obtain rfl : 7 = id := Option.some.inj hid
    exact ⟨hready, awaited, answer, resent ++ closing, by rw [hlog, hnotified], hsent⟩
  · rw [hnotified] at hnone
    cases hnone

end FieldLink.Mqtt
