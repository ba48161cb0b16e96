/-
  FieldLink.Proofs.Mqtt.Agreement
  ────────────────────────────────
  **TWO CLIENTS AGREE.**

  One client publishes a message; what it wrote comes in at another one,
  in pieces of any size.  The other one hands the message to the handler of
  its topic, and if it was to be acknowledged, the first octets that it
  writes are the acknowledgement.  When they come in at the first client,
  it forgets the message, and no other one:

      publish_reliable      — over a line that works a message is published
      poll_message          — a message that comes in is handed over
      poll_acknowledgement  — an acknowledgement that comes in is obeyed
      clients_agree         — all of it, from any two reachable clients
-/
import FieldLink.Proofs.Mqtt.Dispatch
import FieldLink.Proofs.Mqtt.Framing
import FieldLink.Proofs.Mqtt.Outbound
import FieldLink.Proofs.Mqtt.RoundTrip

namespace FieldLink.Mqtt

/-! ## §1. Packets that are accepted. -/

namespace ControlPacket

variable {packet : ControlPacket}

/-- A packet with a message that can be read is accepted. -/
theorem Carries.verdict_eq {message : Message} (h : packet.Carries message) :
    packet.verdict = .ok () := by
  rw [verdict, if_neg (Nat.not_lt.mpr h.short), not_isMalformed_of_parse_ok h.kind_eq h.parse_eq]
  rfl

/-- An acknowledgement of an identifier is accepted. -/
theorem verdict_acknowledgement (packet : ControlPacket)
    (hkind : Packet.kind packet.header = Packet.kind Packet.pubackHeader)
    (hbody : packet.body.length = 2) : packet.verdict = .ok () := by
  have hmessage : Packet.kind packet.header ≠ Packet.kind Packet.publishHeader := by
    rw [hkind]
    decide
  rw [verdict, if_neg (by rw [hbody]; decide), isMalformed_of_not_message hmessage]
  simp [hbody]

end ControlPacket

namespace Session

/-! ## §2. A message goes out. -/

section Publishing

variable {η σ : Type}

/-- The session with its platform in this state: what is to come has come. -/
def facing (state : σ) (session : Session η σ) : Session η σ :=
  { session with line := { session.line with platform := state } }

/-- The message has been published, with this identifier and by these events. -/
structure Published (topic : String) (payload : Octets) (qos : Qos) (retain : Bool)
    (session after : Session η σ) (packetId : Option UInt16) (written : List Event) : Prop where
  log_eq : after.line.events = session.line.events ++ written
  /-- It has an identifier if it is to be acknowledged. -/
  packetId_iff : packetId = none ↔ qos = .atMostOnce
  /-- Its packet went out whole. -/
  delivered : ∃ octets, Packet.publish topic payload qos retain packetId = .ok octets
    ∧ Delivered octets written
  /-- The connection is still there. -/
  holds : after.client.holdsConnection = true
  /-- It is kept under its identifier. -/
  kept_eq : ∀ other, after.client.kept other
    = if packetId = some other then some (topic, payload, retain) else session.client.kept other

variable [OctetStream σ] {holds : Octets → σ → Prop} {topic : String} {payload : Octets}
  {qos : Qos} {session : Session η σ}

/-- Over a line that works nothing stands against a message within the limits. -/
theorem publish_succeeds (hreliable : Reliable holds) {backlog : Octets}
    (hsound : session.client.Sound) (h : session.Holding holds backlog)
    (htopic : isTopic topic = true) (hpayload : payload.length ≤ maxPayloadLength)
    (hroom : qos = .atMostOnce ∨ qos = .atLeastOnce ∧ session.client.pending.size < maxPending)
    (retain : Bool) (now : Nat) :
    ∃ packetId, (session.publish topic payload qos retain now).1 = .ok packetId := by
  have hready : session.client.isReady = true := hsound.isReady_iff.mpr h.1
  rcases hroom with rfl | ⟨rfl, hroom⟩
  · obtain ⟨packet, -, heq⟩ := publish_plain_checked hready htopic hpayload retain now
    obtain ⟨line, hsent, -⟩ := send_line hreliable packet h
    rw [heq, hsent]
    exact ⟨none, rfl⟩
  · have hfree := session.client.pending.not_isFull_iff.mpr hroom
    obtain ⟨packet, entry, table, -, -, -, -, hkept⟩ :=
      publish_numbered_checked hready hsound.next_ne_zero htopic hpayload hfree retain now
    -- taking an identifier changes neither the connection nor the messages
    have hnumbered :
        Holding holds backlog (⟨session.client.allocate.2, session.line⟩ : Session η σ) := h
    obtain ⟨line, hsent, -⟩ := send_line hreliable packet hnumbered
    rw [hkept hsent]
    exact ⟨_, rfl⟩

/-- **Over a line that works a message is published.** -/
theorem publish_reliable (hreliable : Reliable holds) {backlog : Octets}
    (hsound : session.client.Sound) (h : session.Holding holds backlog)
    (htopic : isTopic topic = true) (hpayload : payload.length ≤ maxPayloadLength)
    (hroom : qos = .atMostOnce ∨ qos = .atLeastOnce ∧ session.client.pending.size < maxPending)
    (retain : Bool) (now : Nat) :
    ∃ packetId written, (session.publish topic payload qos retain now).1 = .ok packetId
      ∧ Published topic payload qos retain session (session.publish topic payload qos retain now).2
        packetId written := by
  obtain ⟨packetId, hok⟩ := publish_succeeds hreliable hsound h htopic hpayload hroom retain now
  have hpublishing := publish_publishing topic payload qos retain now hsound.next_ne_zero
  generalize session.publish topic payload qos retain now = outcome at hok hpublishing
  cases hpublishing with
  | refused => cases hok
  | lost => cases hok
  | plain hpacket hsending =>
    cases hsending with
    | lost => cases hok
    | delivered hlog hsent =>
      exact ⟨none, _, rfl, hlog, by simp, ⟨_, hpacket, hsent⟩, h.1, fun other => by simp⟩
  | kept htopic hentry hpacket htable hlog hsent =>
    refine ⟨some session.client.allocate.1, _, rfl, hlog, by simp, ⟨_, hpacket, hsent⟩, h.1, ?_⟩
    intro other
    obtain ⟨rfl, rfl, rfl, -⟩ := Pending.copy?_eq_some_iff.mp hentry
    rw [show Client.kept _ other = _ from Client.kept_insert? session.client.allocate.2 htable other]
    simp only [Option.some.injEq, eq_comm]
    rfl

end Publishing

section Polling

variable {η σ : Type} [OctetStream σ] [MessageHandler η] {holds : Octets → σ → Prop}
  {session : Session η σ}

/-! ## §3. A message comes in. -/

/-- **A message that comes in is handed over**, and if it asks for an acknowledgement, the first
octets that are written are that. -/
theorem poll_message (hreliable : Reliable holds) {packet : ControlPacket} {message : Message}
    (hcarries : packet.Carries message)
    (hsubscribed : session.client.subscriptions.contains message.topic = true)
    (hsound : session.client.Sound) (h : session.Holding holds packet.octets)
    (timeoutMs : UInt32) (now : Nat) :
    (session.poll timeoutMs now).1 = .ok ()
      ∧ ∃ events, (session.poll timeoutMs now).2.line.events = session.line.events ++ events
        ∧ Traffic.handed events = [(message.topic, message.payload)]
        ∧ session.client.Notified [(message.topic, message.payload)]
          (session.poll timeoutMs now).2.client
        ∧ (message.qos = .atLeastOnce → ∃ id, message.packetId = some id
          ∧ (Traffic.sent events).take 4 = Packet.puback id) := by
  have hready : session.client.isReady = true := hsound.isReady_iff.mpr h.1
  -- ===== the packet is taken in, and gets what it deserves =====
  obtain ⟨hverdict, hholding, events, hlog, hreceived⟩ := poll_reliable hreliable packet timeoutMs
    now hsound (show session.Holding holds (packet.octets ++ []) by rw [List.append_nil]; exact h)
  -- ===== so it brings the message, and the connection outlives the poll =====
  obtain ⟨course⟩ := poll_course timeoutMs now hready
  obtain rfl := List.append_cancel_left (hlog.symm.trans course.events_eq)
  rw [course.received_events] at hreceived
  have hbrings : course.inbound.Brings message := by
    rw [course.found.eq_packet hreceived hcarries.short]
    exact ⟨hcarries.kind_eq, hcarries.parse_eq⟩
  have hclosing : course.closing = [] := by
    rcases course.standing.eq_nil_or with hnil | ⟨-, -, hgone⟩
    · exact hnil
    · rw [hholding.1] at hgone
      cases hgone
  rcases course.dispatch.of_brings hbrings with ⟨-, hhanded, hacknowledged⟩ | hfalse
  · have hmessages : Traffic.handed course.handed = [(message.topic, message.payload)] := by
      rw [hhanded, Client.handing, if_pos hsubscribed]
      rfl
    refine ⟨hverdict.trans hcarries.verdict_eq, _, course.events_eq, ?_, ?_, ?_⟩
    · rw [course.handed_events]
      exact hmessages
    · have hnotified := course.notified
      rw [hmessages] at hnotified
      exact hnotified
    · intro hqos
      obtain ⟨id, hid, hsent⟩ := hacknowledged hqos
      refine ⟨id, hid, ?_⟩
      -- nothing is written while waiting, so the acknowledgement comes first
      rw [Traffic.sent_append, course.sent_awaited, List.nil_append, Traffic.sent_append,
        hsent.sent_eq]
      exact List.take_left' (show (Packet.puback id).length = 4 from rfl)
  · exact absurd hclosing (course.of_unanswered hfalse).2.2

/-! ## §4. An acknowledgement comes in. -/

/-- **An acknowledgement that comes in is obeyed**: its message is forgotten, and no other one. -/
theorem poll_acknowledgement (hreliable : Reliable holds) (id : UInt16)
    (hsound : session.client.Sound) (h : session.Holding holds (Packet.puback id))
    (timeoutMs : UInt32) (now : Nat) :
    (session.poll timeoutMs now).1 = .ok ()
      ∧ ∀ other, (session.poll timeoutMs now).2.client.kept other
        = if other = id then none else session.client.kept other := by
  have hready : session.client.isReady = true := hsound.isReady_iff.mpr h.1
  obtain ⟨packet, hpacket, hkind, hbody⟩ := puback_readable id
  rw [← hpacket, ← List.append_nil packet.octets] at h
  obtain ⟨hverdict, -, events, hlog, hreceived⟩ :=
    poll_reliable hreliable packet timeoutMs now hsound h
  obtain ⟨inbound, events', hlog', hfound, hkept⟩ := poll_kept timeoutMs now hsound hready
  obtain rfl := List.append_cancel_left (hlog.symm.trans hlog')
  refine ⟨hverdict.trans (packet.verdict_acknowledgement hkind (by rw [hbody]; rfl)), ?_⟩
  intro other
  -- the octets that came in are one packet, so they name one identifier
  have hnames : inbound.Names other ↔ other = id := by
    rw [hfound.names_iff, hreceived]
    constructor
    · intro hgiven
      obtain ⟨found, -, hid, hoctets⟩ := hgiven
      obtain rfl := ControlPacket.octets_inj hoctets
      exact Octets.big_inj (hid.symm.trans hbody)
    · rintro rfl
      exact ⟨packet, hkind, hbody, rfl⟩
  rcases hkept other with ⟨hnamed, hnone⟩ | ⟨hnot, hsame⟩
  · rw [if_pos (hnames.mp hnamed), hnone]
  · rw [if_neg (fun heq => hnot (hnames.mpr heq)), hsame]

end Polling

end Session

/-! ## §5. From one client to another and back. -/

/-- **Two clients agree**, in every state that they can reach connected, and over every platform on
which no call fails, in whatever pieces it gives what has come.  What the one publishes, the other
takes in with its next poll, and hands it to the handler of the topic once.  If the message is to be
acknowledged, the first four octets that this poll writes make the next poll of the publisher forget
the message, and no other one. -/
theorem clients_agree {η σ η' σ' : Type} [OctetStream σ] [Dialer σ] [MessageHandler η]
    [OctetStream σ'] [Dialer σ'] [MessageHandler η'] {holds : Octets → σ → Prop}
    {holds' : Octets → σ' → Prop} (hreliable : Reliable holds) (hreliable' : Reliable holds')
    {options options' : Options} {client : Client η} {client' : Client η'}
    (h : Client.ofOptions options = .ok client) (h' : Client.ofOptions options' = .ok client')
    (line : Line σ) (line' : Line σ') (operations : List (Operation η σ))
    (operations' : List (Operation η' σ')) (topic : String) (payload : Octets) (qos : Qos)
    (retain : Bool) (now : Nat) :
    let publisher := (⟨client, line⟩ : Session η σ).run operations
    let receiver := (⟨client', line'⟩ : Session η' σ').run operations'
    let outcome := publisher.publish topic payload qos retain now
    1 ≤ topic.utf8ByteSize → topic.utf8ByteSize ≤ 128 → payload.length ≤ 1024 →
    (qos = .atMostOnce ∨ qos = .atLeastOnce ∧ publisher.client.pending.size < 8) →
    publisher.client.isReady = true → holds [] publisher.line.platform →
    receiver.client.isReady = true → receiver.client.subscriptions.contains topic = true →
    ∃ packetId written, outcome.1 = .ok packetId ∧ (packetId = none ↔ qos = .atMostOnce)
      ∧ outcome.2.line.events = publisher.line.events ++ written
      -- what was written comes in at the receiver
      ∧ ∀ state' timeoutMs' now', holds' (Traffic.sent written) state' →
        let turn := (receiver.facing state').poll timeoutMs' now'
        turn.1 = .ok () ∧ ∃ events, turn.2.line.events = receiver.line.events ++ events
          ∧ Traffic.handed events = [(topic, payload)]
          ∧ receiver.client.Notified [(topic, payload)] turn.2.client
          -- and what that writes first comes in at the publisher
          ∧ ∀ id, packetId = some id →
            (∀ other, outcome.2.client.kept other
              = if other = id then some (topic, payload, retain) else publisher.client.kept other)
            ∧ ∀ state timeoutMs later, holds ((Traffic.sent events).take 4) state →
              ∀ other, ((outcome.2.facing state).poll timeoutMs later).2.client.kept other
                = if other = id then none else outcome.2.client.kept other := by
  intro publisher receiver outcome hnonempty hlong hpayload hroom hready hempty hready' hsubscribed
  have hsound : publisher.client.Sound := Session.run_sound h line operations
  have hsound' : receiver.client.Sound := Session.run_sound h' line' operations'
  -- ===== the message goes out =====
  obtain ⟨packetId, written, hok, hpublished⟩ := Session.publish_reliable hreliable hsound
    ⟨hsound.isReady_iff.mp hready, hempty⟩ ((isTopic_iff topic).mpr ⟨hnonempty, hlong⟩) hpayload
    hroom retain now
  refine ⟨packetId, written, hok, hpublished.packetId_iff, hpublished.log_eq, ?_⟩
  intro state' timeoutMs' now' hholds' turn
  -- ===== it comes in at the receiver =====
  obtain ⟨octets, hoctets, hdelivered⟩ := hpublished.delivered
  obtain ⟨packet, hpacket, hcarries⟩ := publish_readable hoctets
  rw [hdelivered.sent_eq, ← hpacket] at hholds'
  obtain ⟨hturn, events, hlog, hhanded, hnotified, hasked⟩ := Session.poll_message hreliable'
    hcarries (show (receiver.facing state').client.subscriptions.contains topic = true from
      hsubscribed) hsound' ⟨hsound'.isReady_iff.mp hready', hholds'⟩ timeoutMs' now'
  refine ⟨hturn, events, hlog, hhanded, hnotified, ?_⟩
  rintro id rfl
  refine ⟨?_, ?_⟩
  · intro other
    rw [hpublished.kept_eq other]
    simp only [Option.some.injEq, eq_comm]
  · -- ===== its acknowledgement comes in at the publisher =====
    intro state timeoutMs later hholds
    have hqos : qos = .atLeastOnce := by
      rcases hroom with hplain | ⟨hasks, -⟩
      · exact absurd (hpublished.packetId_iff.mpr hplain) (Option.some_ne_none id)
      · exact hasks
    obtain ⟨id', hid, hfirst⟩ := hasked hqos
    obtain rfl : id = id' := by
      simpa [Message.ofPublication, hqos] using hid
    rw [hfirst] at hholds
    have hafter : outcome.2.client.Sound :=
      Session.apply_sound publisher (.publish topic payload qos retain now) hsound
    exact (Session.poll_acknowledgement hreliable id
      (show (outcome.2.facing state).client.Sound from hafter) ⟨hpublished.holds, hholds⟩
      timeoutMs later).2

namespace Specimen

/-- A message to topic `a` that asks to be acknowledged, in two chunks. -/
def arrived : Wire := { inbound := [.chunk [0x32, 6, 0], .chunk [1, 97, 0, 1, 9]] }

/-- Its acknowledgement, an octet at a time. -/
def returned : Wire := { inbound := [.chunk [0x40], .chunk [2], .chunk [0], .chunk [1]] }

end Specimen

/-- The message goes to topic `a` in two pieces, and its acknowledgement comes back in four. -/
theorem clients_agree_specimen :
    let start : Session Mailbox Wire := ⟨Specimen.client, Specimen.line []⟩
    let publisher := start.run [.connect Specimen.broker false]
    let receiver := start.run [.connect Specimen.broker false, .subscribe "a" {}]
    let outcome := publisher.publish "a" [9] .atLeastOnce false 0
    let turn := (receiver.facing Specimen.arrived).poll 10 0
    Client.ofOptions Specimen.options = .ok Specimen.client ∧ Reliable Wire.Delivers
      ∧ publisher.client.isReady = true ∧ Wire.Delivers [] publisher.line.platform
      ∧ receiver.client.isReady = true ∧ receiver.client.subscriptions.contains "a" = true
      ∧ turn.1 = .ok () ∧ (turn.2.client.subscriptions.get? "a").map Mailbox.messages = some [[9]]
      ∧ outcome.2.client.kept 1 = some ("a", [9], false)
      ∧ ((outcome.2.facing Specimen.returned).poll 10 0).2.client.kept 1 = none := by
  intro start publisher receiver outcome turn
  have hready : publisher.client.isReady = true := by decide +kernel
  have hempty : Wire.Delivers [] publisher.line.platform :=
    ⟨⟨[], by decide +kernel, nofun, rfl⟩, by decide +kernel, by decide +kernel, by decide +kernel,
      by decide +kernel⟩
  have hready' : receiver.client.isReady = true := by decide +kernel
  have hsubscribed : receiver.client.subscriptions.contains "a" = true := by decide +kernel
  obtain ⟨packetId, written, hok, -, hlog, hagree⟩ := clients_agree Wire.delivers_reliable
    Wire.delivers_reliable Specimen.ofOptions_eq Specimen.ofOptions_eq (Specimen.line [])
    (Specimen.line []) [.connect Specimen.broker false]
    [.connect Specimen.broker false, .subscribe "a" {}] "a" [9] .atLeastOnce false 0 (by decide)
    (by decide) (by decide) (.inr ⟨rfl, by decide +kernel⟩) hready hempty hready' hsubscribed
  -- ===== what was written is what arrives =====
  have hwritten : Traffic.sent written = [0x32, 6, 0, 1, 97, 0, 1, 9] := by
    have hevents := congrArg (List.drop publisher.line.events.length) hlog
    rw [List.drop_left] at hevents
    rw [← hevents]
    decide +kernel
  have hid : packetId = some 1 := by
    have hone : outcome.1.toOption = some (some 1) := by decide +kernel
    rw [hok] at hone
    exact Option.some.inj hone
  obtain ⟨hturn, events, hlog', -, hnotified, hback⟩ := hagree Specimen.arrived 10 0
    (by rw [hwritten]; exact ⟨⟨[[0x32, 6, 0], [1, 97, 0, 1, 9]], rfl, by decide, rfl⟩,
      by decide, rfl, rfl, rfl⟩)
  -- ===== what is written first is what returns =====
  have hfirst : (Traffic.sent events).take 4 = [0x40, 2, 0, 1] := by
    have hevents := congrArg (List.drop receiver.line.events.length) hlog'
    rw [List.drop_left] at hevents
    rw [← hevents]
    decide +kernel
  obtain ⟨hkept, hforgotten⟩ := hback 1 hid
  have hgone := hforgotten Specimen.returned 10 0
    (by rw [hfirst]; exact ⟨⟨[[0x40], [2], [0], [1]], rfl, by decide, rfl⟩, by decide, rfl, rfl,
      rfl⟩) 1
  refine ⟨Specimen.ofOptions_eq, Wire.delivers_reliable, hready, hempty, hready', hsubscribed,
    hturn, ?_, ?_, ?_⟩
  · rw [hnotified "a"]
    decide +kernel
  · rw [hkept 1, if_pos rfl]
  · rw [hgone, if_pos rfl]

end FieldLink.Mqtt
