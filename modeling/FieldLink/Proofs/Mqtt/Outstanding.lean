/-
  FieldLink.Proofs.Mqtt.Outstanding
  ────────────────────────────────
  **THE PENDING TABLE IS DETERMINED BY THE HISTORY.**

  A message is outstanding from the publication that gave its identifier
  back until an acknowledgement of that identifier comes off the stream.
  Nothing else adds it, drops it or changes it: not a publication that
  failed, not a lost connection, not a malformed packet.

      kept_step               — what one exchange does to one identifier
      outstanding_concat      — what one more exchange makes outstanding
      kept_eq_some_iff        — the table holds what is outstanding
      pending_is_outstanding  — the same in full, for every run
-/
import FieldLink.Proofs.Mqtt.Sound

namespace FieldLink.Mqtt

/-! ## §1. What a client keeps under an identifier. -/

/-- The message itself, without the time of its last transmission. -/
def Pending.content (pending : Pending) : String × Octets × Bool :=
  (pending.topic, pending.payload, pending.retain)

namespace Client

variable {η : Type}

/-- The message that the client keeps under an identifier. -/
def kept (client : Client η) (id : UInt16) : Option (String × Octets × Bool) :=
  (client.pending.get? id).map Pending.content

theorem kept_eq_some_iff_get? (client : Client η) (id : UInt16) (topic : String)
    (payload : Octets) (retain : Bool) :
    client.kept id = some (topic, payload, retain)
      ↔ ∃ entry, client.pending.get? id = some entry ∧ entry.topic.text = topic
        ∧ entry.payload.octets = payload ∧ entry.retain = retain := by
  rw [kept, Option.map_eq_some_iff]
  simp only [Pending.content, Prod.mk.injEq]

theorem contains_iff_kept (client : Client η) (id : UInt16) :
    client.pending.contains id = true ↔ ∃ content, client.kept id = some content := by
  rw [Table.contains_iff]
  constructor
  · intro hgiven
    obtain ⟨pending, hget⟩ := hgiven
    exact ⟨pending.content, by rw [kept, hget]; rfl⟩
  · intro hgiven
    obtain ⟨content, hkept⟩ := hgiven
    obtain ⟨pending, hget, -⟩ := Option.map_eq_some_iff.mp hkept
    exact ⟨pending, hget⟩

theorem kept_insert? (client : Client η) {id : UInt16} {pending : Pending}
    {table : Table UInt16 Pending maxPending} (h : client.pending.insert? id pending = some table)
    (other : UInt16) :
    { client with pending := table }.kept other
      = if other = id then some pending.content else client.kept other := by
  unfold kept
  rw [Table.get?_insert? h]
  by_cases hother : other = id
  · rw [if_pos hother, if_pos hother]
    rfl
  · rw [if_neg hother, if_neg hother]

theorem kept_erase (client : Client η) (id other : UInt16) :
    { client with pending := client.pending.erase id }.kept other
      = if other = id then none else client.kept other := by
  unfold kept
  rw [Table.get?_erase]
  by_cases hother : other = id
  · rw [if_pos hother, if_pos hother]
    rfl
  · rw [if_neg hother, if_neg hother]

/-- A new time of transmission does not change the message. -/
theorem kept_stamped (client : Client η) (ids : List UInt16) (now : Nat) (id : UInt16) :
    (Session.stamped ids now client).kept id = client.kept id := by
  unfold kept Session.stamped
  rw [Table.get?_mapValues, Option.map_map]
  congr 1
  funext pending
  show Pending.content (if id ∈ ids then { pending with lastSentMs := now } else pending)
    = pending.content
  by_cases hsent : id ∈ ids
  · rw [if_pos hsent]
    rfl
  · rw [if_neg hsent]

end Client

/-! ## §2. What a poll does to an identifier. -/

/-- What was found is an acknowledgement of this identifier. -/
def Inbound.Names : Inbound → UInt16 → Prop
  | .packet header body, id =>
    Packet.kind header = Packet.kind Packet.pubackHeader ∧ body = Octets.big id
  | _, _ => False

/-- **Octets that came in acknowledge an identifier exactly if what was found does.** -/
theorem Inbound.Found.names_iff {inbound : Inbound} {octets : Octets}
    (h : inbound.Found octets) (id : UInt16) :
    inbound.Names id ↔ ∃ packet : ControlPacket,
      Packet.kind packet.header = Packet.kind Packet.pubackHeader
        ∧ packet.body = Octets.big id ∧ octets = packet.octets := by
  cases h with
  | silence =>
    refine ⟨False.elim, ?_⟩
    intro hgiven
    obtain ⟨packet, -, -, heq⟩ := hgiven
    have hlength := packet.two_le_length_octets
    rw [← heq] at hlength
    simp at hlength
  | packet found hshort =>
    constructor
    · intro hgiven
      obtain ⟨hkind, hbody⟩ := hgiven
      exact ⟨found, hkind, hbody, rfl⟩
    · intro hgiven
      obtain ⟨packet, hkind, hbody, heq⟩ := hgiven
      obtain rfl := ControlPacket.octets_inj heq
      exact ⟨hkind, hbody⟩
  | oversized found hlong =>
    refine ⟨False.elim, ?_⟩
    intro hgiven
    obtain ⟨packet, -, hbody, heq⟩ := hgiven
    -- an acknowledgement is never too long
    obtain rfl := ControlPacket.octets_inj heq
    rw [hbody] at hlong
    have hmax : maxPacketLength = 1280 := rfl
    have htwo : (Octets.big id).length = 2 := Octets.length_big id
    omega
  | broken fault hunfinished =>
    refine ⟨False.elim, ?_⟩
    intro hgiven
    obtain ⟨packet, -, -, heq⟩ := hgiven
    exact hunfinished packet heq.symm

namespace Session

variable {η σ : Type}

/-- The second session comes after the first, and nothing came in between them. -/
def Quiet (session session' : Session η σ) : Prop :=
  ∃ events, session'.line.events = session.line.events ++ events ∧ Traffic.received events = []

theorem Quiet.refl (session : Session η σ) : Quiet session session :=
  ⟨[], by simp, rfl⟩

theorem Quiet.trans {first second third : Session η σ} (h : Quiet first second)
    (h' : Quiet second third) : Quiet first third := by
  obtain ⟨events, hlog, hquiet⟩ := h
  obtain ⟨events', hlog', hquiet'⟩ := h'
  refine ⟨events ++ events', ?_, ?_⟩
  · rw [hlog', hlog, List.append_assoc]
  · rw [Traffic.received_append, hquiet, hquiet', List.append_nil]

theorem Sending.quiet {packet : Octets} {session : Session η σ}
    {outcome : Except Fault Unit × Session η σ} (h : Sending packet session outcome) :
    Quiet session outcome.2 := by
  cases h with
  | delivered hlog hsent => exact ⟨_, hlog, hsent.received_eq⟩
  | lost hlog hsent =>
    refine ⟨_, hlog, ?_⟩
    rw [Traffic.received_append, hsent.received_eq]
    rfl

theorem Sending.pending_eq {packet : Octets} {session : Session η σ}
    {outcome : Except Fault Unit × Session η σ} (h : Sending packet session outcome) :
    outcome.2.client.pending = session.client.pending := by
  cases h with
  | delivered hlog hsent => rfl
  | lost hlog hsent => rfl

theorem Resending.quiet {original : UInt16 → Octets → Prop} {now : Nat} {session : Session η σ}
    {outcome : Except Fault Unit × Session η σ} (h : Resending original now session outcome) :
    Quiet session outcome.2 := by
  cases h with
  | complete hlog hrepeats => exact ⟨_, hlog, hrepeats.received_eq⟩
  | lost hlog hrepeats =>
    refine ⟨_, hlog, ?_⟩
    rw [Traffic.received_append, hrepeats.received_eq]
    rfl

theorem Resending.kept_eq {original : UInt16 → Octets → Prop} {now : Nat} {session : Session η σ}
    {outcome : Except Fault Unit × Session η σ} (h : Resending original now session outcome)
    (id : UInt16) : outcome.2.client.kept id = session.client.kept id := by
  cases h with
  | complete hlog hrepeats => exact Client.kept_stamped session.client _ now id
  | lost hlog hrepeats => exact Client.kept_stamped session.client _ now id

variable [MessageHandler η]

theorem deliver_quiet (message : Message) (session : Session η σ) :
    Quiet session (session.deliver message) := by
  rcases deliver_cases message session with heq | heq
  · rw [heq]
    exact Quiet.refl session
  · rw [heq]
    exact ⟨[.delivered message.topic message.payload], Line.events_record _ _, rfl⟩

theorem deliver_pending (message : Message) (session : Session η σ) :
    (session.deliver message).client.pending = session.client.pending := by
  rcases deliver_cases message session with heq | heq
  · rw [heq]
  · rw [heq]

variable [OctetStream σ]

theorem Handling.quiet {session : Session η σ} {inbound : Inbound}
    {outcome : Except Fault Unit × Session η σ} (h : Handling session inbound outcome)
    (hholds : session.client.holdsConnection = true) : Quiet session outcome.2 := by
  cases h with
  | silence => exact Quiet.refl session
  | oversized header length => exact Quiet.refl session
  | broken fault =>
    obtain ⟨closed, hlog⟩ := hangUp_events session hholds
    exact ⟨_, hlog, rfl⟩
  | ignored body hmessage hack => exact Quiet.refl session
  | malformedMessage hkind hparse => exact Quiet.refl session
  | delivered hkind hparse hqos => exact deliver_quiet _ session
  | acknowledged hkind hparse hqos hid hsend hsending =>
    exact hsending.quiet.trans (deliver_quiet _ _)
  | unacknowledged hkind hparse hqos hid hsend hsending => exact hsending.quiet
  | released hkind => exact Quiet.refl session
  | malformedAcknowledgement hkind hbody => exact Quiet.refl session

/-- Handling forgets the message that was acknowledged, and no other one. -/
theorem Handling.kept_cases {session : Session η σ} {inbound : Inbound}
    {outcome : Except Fault Unit × Session η σ} (h : Handling session inbound outcome)
    (id : UInt16) :
    (inbound.Names id ∧ outcome.2.client.kept id = none)
      ∨ (¬ inbound.Names id ∧ outcome.2.client.kept id = session.client.kept id) := by
  -- what is a message is no acknowledgement, so that messages never touch the table
  have hkinds : Packet.kind Packet.publishHeader ≠ Packet.kind Packet.pubackHeader := by decide
  cases h with
  | silence => exact .inr ⟨not_false, rfl⟩
  | oversized header length => exact .inr ⟨not_false, rfl⟩
  | broken fault => exact .inr ⟨not_false, rfl⟩
  | ignored body hmessage hack => exact .inr ⟨fun hnames => hack hnames.1, rfl⟩
  | malformedMessage hkind hparse =>
    exact .inr ⟨fun hnames => hkinds (hkind.symm.trans hnames.1), rfl⟩
  | delivered hkind hparse hqos =>
    refine .inr ⟨fun hnames => hkinds (hkind.symm.trans hnames.1), ?_⟩
    rw [Client.kept, deliver_pending, Client.kept]
  | acknowledged hkind hparse hqos hid hsend hsending =>
    refine .inr ⟨fun hnames => hkinds (hkind.symm.trans hnames.1), ?_⟩
    rw [Client.kept, deliver_pending, hsending.pending_eq, Client.kept]
  | unacknowledged hkind hparse hqos hid hsend hsending =>
    refine .inr ⟨fun hnames => hkinds (hkind.symm.trans hnames.1), ?_⟩
    rw [Client.kept, hsending.pending_eq, Client.kept]
  | @released header high low hkind =>
    have herase := Client.kept_erase session.client (Octets.word high low) id
    -- the two octets are the identifier, or they name another one
    by_cases hid : id = Octets.word high low
    · refine .inl ⟨⟨hkind, ?_⟩, ?_⟩
      · rw [hid, Octets.big_word]
      · rw [herase, if_pos hid]
    · refine .inr ⟨?_, ?_⟩
      · intro hgiven
        obtain ⟨-, hbody⟩ := hgiven
        simp only [Octets.big, List.cons.injEq, and_true] at hbody
        apply hid
        rw [hbody.1, hbody.2, Octets.word_big]
      · rw [herase, if_neg hid]
  | malformedAcknowledgement hkind hbody =>
    refine .inr ⟨?_, rfl⟩
    intro hgiven
    obtain ⟨-, rfl⟩ := hgiven
    exact hbody (Octets.length_big id)

/-- Taking a packet in brings no message into the table. -/
theorem kept_of_takeIn {session : Session η σ} (h : session.client.Sound)
    (hready : session.client.isReady = true) (timeoutMs : UInt32) {id : UInt16}
    {content : String × Octets × Bool}
    (hkept : (session.takeIn timeoutMs).2.client.kept id = some content) :
    session.client.kept id = some content := by
  obtain ⟨inbound, line, bounded, reads, -, -, -, hhandling⟩ :=
    takeIn_spec timeoutMs session (h.isReady_iff.mp hready)
  rcases hhandling.kept_cases id with ⟨-, hnone⟩ | ⟨-, hsame⟩
  · rw [hnone] at hkept
    cases hkept
  · rw [hsame] at hkept
    exact hkept

/-- **A poll forgets a message exactly if what came in acknowledges it.** -/
theorem poll_kept (timeoutMs : UInt32) (now : Nat) {session : Session η σ}
    (h : session.client.Sound) (hready : session.client.isReady = true) :
    ∃ (inbound : Inbound) (events : List Event),
      (session.poll timeoutMs now).2.line.events = session.line.events ++ events
      ∧ inbound.Found (Traffic.received events)
      ∧ ∀ id, (inbound.Names id ∧ (session.poll timeoutMs now).2.client.kept id = none)
        ∨ (¬ inbound.Names id
          ∧ (session.poll timeoutMs now).2.client.kept id = session.client.kept id) := by
  have hholds := h.isReady_iff.mp hready
  obtain ⟨inbound, line, bounded, reads, hlog, -, hfound, hhandling⟩ :=
    takeIn_spec timeoutMs session hholds
  -- neither the answer to the packet nor the repetitions bring anything in or change a message
  obtain ⟨hquiet, hkept⟩ : Quiet (session.takeIn timeoutMs).2 (session.poll timeoutMs now).2
      ∧ ∀ id, (session.poll timeoutMs now).2.client.kept id
        = (session.takeIn timeoutMs).2.client.kept id := by
    rcases poll_cases timeoutMs now h hready with ⟨-, heq⟩ | ⟨-, outcome, -, hresending, heq⟩
    · rw [heq]
      exact ⟨Quiet.refl _, fun id => rfl⟩
    · rw [heq]
      exact ⟨hresending.quiet, hresending.kept_eq⟩
  obtain ⟨events, hlater, hnone⟩ := (hhandling.quiet hholds).trans hquiet
  -- so what came in during the poll is what came in while the packet was received
  refine ⟨inbound, .timeoutSet timeoutMs bounded :: (reads ++ events), ?_, ?_, ?_⟩
  · rw [hlater]
    show line.events ++ events = _
    rw [hlog]
    simp
  · rw [Traffic.received_cons, Traffic.received_append, hnone, List.append_nil]
    exact hfound
  · intro id
    rw [hkept id]
    exact hhandling.kept_cases id

end Session

/-! ## §3. What one exchange does to an identifier. -/

namespace Exchange

variable {η σ : Type} [OctetStream σ] [Dialer σ] [MessageHandler η]

/-- The exchange gave the identifier back for this message. -/
def RegistersMessage (exchange : Exchange η σ) (id : UInt16) (content : String × Octets × Bool) :
    Prop :=
  exchange.Registers id ∧ ∃ now,
    exchange.operation = .publish content.1 content.2.1 .atLeastOnce content.2.2 now

theorem RegistersMessage.content_inj {exchange : Exchange η σ} {id : UInt16}
    {content content' : String × Octets × Bool} (h : exchange.RegistersMessage id content)
    (h' : exchange.RegistersMessage id content') : content = content' := by
  obtain ⟨-, now, heq⟩ := h
  obtain ⟨-, now', heq'⟩ := h'
  rw [heq] at heq'
  obtain ⟨htopic, hpayload, -, hretain, -⟩ := Operation.publish.inj heq'
  exact Prod.ext htopic (Prod.ext hpayload hretain)

/-- The message of an identifier before and after an exchange. -/
inductive Keeps (exchange : Exchange η σ) (id : UInt16) : Prop where
  /-- A publication put it there. -/
  | registered {content : String × Octets × Bool}
      (hregisters : exchange.RegistersMessage id content)
      (hafter : exchange.after.client.kept id = some content)
  /-- An acknowledgement took it away. -/
  | acknowledged (hregisters : ¬ exchange.Registers id) (hacknowledges : exchange.Acknowledges id)
      (hafter : exchange.after.client.kept id = none)
  /-- It stayed as it was. -/
  | untouched (hregisters : ¬ exchange.Registers id)
      (hacknowledges : ¬ exchange.Acknowledges id)
      (hafter : exchange.after.client.kept id = exchange.before.client.kept id)

theorem map_done_ne {α : Type} (result : Except Fault α) (packetId : Option UInt16) :
    result.map (fun _ => Reply.done) ≠ .ok (.published packetId) := by
  cases result <;> exact nofun

/-- Whatever replies without an identifier and is no poll leaves the table alone. -/
theorem keeps_of_pending_eq {exchange : Exchange η σ} (id : UInt16)
    (hreply : exchange.reply ≠ .ok (.published (some id)))
    (hpoll : ∀ timeoutMs now, exchange.operation ≠ .poll timeoutMs now)
    (hafter : exchange.after.client.pending = exchange.before.client.pending) :
    exchange.Keeps id := by
  refine .untouched hreply ?_ ?_
  · intro hgiven
    obtain ⟨⟨timeoutMs, now, heq⟩, -⟩ := hgiven
    exact hpoll timeoutMs now heq
  · rw [Client.kept, hafter, Client.kept]

theorem keeps_publish {exchange : Exchange η σ} {topic : String} {payload : Octets} {qos : Qos}
    {retain : Bool} {now : Nat} (h : exchange.before.client.Sound)
    (hoperation : exchange.operation = .publish topic payload qos retain now) (id : UInt16) :
    exchange.Keeps id := by
  obtain ⟨outcome, hpublishing, hreply, hafter⟩ := publish_outcome h hoperation
  have hpoll : ∀ timeoutMs now', exchange.operation ≠ .poll timeoutMs now' := by
    rw [hoperation]
    exact nofun
  cases hpublishing with
  | refused =>
    refine keeps_of_pending_eq id ?_ hpoll (by rw [hafter])
    rw [hreply]
    exact nofun
  | @plain packet result session' hpacket hsending =>
    refine keeps_of_pending_eq id ?_ hpoll (by rw [hafter]; exact hsending.pending_eq)
    rw [hreply]
    cases result <;> exact nofun
  | @kept packet entry table line events htopic hentry hpacket htable hlog hsent =>
    have hkept := Client.kept_insert? exchange.before.client.allocate.2 htable id
    obtain ⟨rfl, rfl, rfl, -⟩ := Pending.copy?_eq_some_iff.mp hentry
    -- the fresh identifier holds the message now, and every other one what it held
    by_cases hid : id = exchange.before.client.allocate.1
    · have hregisters : exchange.RegistersMessage id entry.content := by
        refine ⟨?_, now, hoperation⟩
        rw [Registers, hreply, hid]
        rfl
      refine .registered hregisters ?_
      rw [hafter]
      show Client.kept _ id = some entry.content
      rw [hkept, if_pos hid]
    · refine .untouched ?_ ?_ ?_
      · rw [Registers, hreply]
        intro heq
        exact hid (Option.some.inj (Reply.published.inj (Except.ok.inj heq))).symm
      · intro hgiven
        obtain ⟨⟨timeoutMs, now', heq⟩, -⟩ := hgiven
        exact hpoll timeoutMs now' heq
      · rw [hafter]
        show Client.kept _ id = exchange.before.client.kept id
        rw [hkept, if_neg hid]
        rfl
  | lost hpacket hlog hsent =>
    refine keeps_of_pending_eq id ?_ hpoll (by rw [hafter]; rfl)
    rw [hreply]
    exact nofun

theorem keeps_poll {exchange : Exchange η σ} {timeoutMs : UInt32} {now : Nat}
    (h : exchange.before.client.Sound) (hoperation : exchange.operation = .poll timeoutMs now)
    (id : UInt16) : exchange.Keeps id := by
  obtain ⟨hreply, hafter⟩ := poll_outcome hoperation
  have hnot : ¬ exchange.Registers id := by
    rw [Registers, hreply]
    exact map_done_ne _ (some id)
  by_cases hready : exchange.before.client.isReady = true
  · obtain ⟨inbound, events, hlog, hfound, hkept⟩ := Session.poll_kept timeoutMs now h hready
    rw [← hafter] at hlog hkept
    have hacknowledges : exchange.Acknowledges id ↔ inbound.Names id := by
      rw [Acknowledges, Exchange.events_eq hlog, hfound.names_iff]
      exact ⟨fun h => h.2, fun h => ⟨⟨timeoutMs, now, hoperation⟩, h⟩⟩
    rcases hkept id with ⟨hnames, hforgotten⟩ | ⟨hnames, hsame⟩
    · exact .acknowledged hnot (hacknowledges.mpr hnames) hforgotten
    · exact .untouched hnot (fun h => hnames (hacknowledges.mp h)) hsame
  · rw [Session.poll_not_ready timeoutMs now hready] at hafter
    refine .untouched hnot ?_ (by rw [hafter])
    -- nothing came in, and an acknowledgement has at least two octets
    intro hgiven
    obtain ⟨-, packet, -, -, heq⟩ := hgiven
    rw [events_of_after_eq hafter] at heq
    have hlength := packet.two_le_length_octets
    rw [← heq] at hlength
    simp at hlength

/-- **What one exchange does to one identifier.** -/
theorem kept_step (exchange : Exchange η σ) (h : exchange.before.client.Sound) (id : UInt16) :
    exchange.Keeps id := by
  obtain ⟨session, operation⟩ := exchange
  cases operation with
  | publish topic payload qos retain now => exact keeps_publish h rfl id
  | poll timeoutMs now => exact keeps_poll h rfl id
  | connect remote useTls =>
    refine keeps_of_pending_eq id (map_done_ne _ _) nofun ?_
    show (session.connect remote useTls).2.client.pending = session.client.pending
    rcases Session.connect_cases remote useTls session with
      ⟨fault, heq⟩ | ⟨fault, line, heq⟩ | ⟨line, heq⟩
    · rw [heq]
    · rw [heq]; rfl
    · rw [heq]; rfl
  | disconnect =>
    refine keeps_of_pending_eq id (map_done_ne _ _) nofun ?_
    show session.disconnect.2.client.pending = session.client.pending
    rcases Session.disconnect_cases session with heq | ⟨line, heq⟩
    · rw [heq]
    · rw [heq]; rfl
  | subscribe topic handler =>
    refine keeps_of_pending_eq id (map_done_ne _ _) nofun ?_
    show (session.subscribe topic handler).2.client.pending = session.client.pending
    rcases Session.subscribe_cases topic handler session with
      ⟨fault, -, heq⟩ | ⟨key, table, packet, -, -, -, -, hsending⟩
    · rw [heq]
    · exact hsending.pending_eq
  | unsubscribe topic =>
    refine keeps_of_pending_eq id (map_done_ne _ _) nofun ?_
    show (session.unsubscribe topic).2.client.pending = session.client.pending
    rcases Session.unsubscribe_cases topic session with ⟨fault, -, heq⟩ | ⟨packet, -, hsending⟩
    · rw [heq]
    · exact hsending.pending_eq
  | adjust topic change => exact keeps_of_pending_eq id nofun nofun rfl
  | outside change => exact keeps_of_pending_eq id nofun nofun rfl

/-- A message that was written whole is kept from then on. -/
theorem registers_of_flushed {exchange : Exchange η σ} {topic : String} {payload : Octets}
    {retain : Bool} {now : Nat} (h : exchange.before.client.Sound)
    (hoperation : exchange.operation = .publish topic payload .atLeastOnce retain now)
    (hflushed : .flushed true ∈ exchange.events) :
    ∃ id entry, exchange.Registers id
      ∧ exchange.after.client.pending.get? id = some entry ∧ entry.topic.text = topic
      ∧ entry.payload.octets = payload ∧ entry.retain = retain ∧ entry.lastSentMs = now := by
  obtain ⟨outcome, hpublishing, hreply, hafter⟩ := publish_outcome h hoperation
  cases hpublishing with
  | refused =>
    -- nothing was written at all
    rw [events_of_after_eq hafter] at hflushed
    cases hflushed
  | kept htopic hentry hpacket htable hlog hsent =>
    refine ⟨_, _, hreply, ?_, Pending.copy?_eq_some_iff.mp hentry⟩
    rw [hafter]
    show Table.get? _ _ = _
    rw [Table.get?_insert? htable, if_pos rfl]
  | lost hpacket hlog hsent =>
    -- an interrupted packet is never followed by a flush that worked
    rw [Exchange.events_eq (by rw [hafter]; exact hlog)] at hflushed
    rcases List.mem_append.mp hflushed with hmem | hmem
    · exact absurd hmem hsent.flushed_notMem
    · simp at hmem

end Exchange

/-! ## §4. What a whole run does to an identifier. -/

/-- The exchange gave the identifier back, and nothing after it gave it back again or acknowledged
it. -/
def Outstanding {η σ : Type} [OctetStream σ] [Dialer σ] [MessageHandler η]
    (history : List (Exchange η σ)) (id : UInt16) (exchange : Exchange η σ) : Prop :=
  ∃ past later, history = past ++ exchange :: later ∧ exchange.Registers id
    ∧ ∀ other ∈ later, ¬ other.Registers id ∧ ¬ other.Acknowledges id

section History

variable {η σ : Type} [OctetStream σ] [Dialer σ] [MessageHandler η]

theorem not_outstanding_nil (id : UInt16) (exchange : Exchange η σ) :
    ¬ Outstanding [] id exchange := by
  intro hgiven
  obtain ⟨past, later, heq, -⟩ := hgiven
  simp at heq

theorem Outstanding.mem {history : List (Exchange η σ)} {id : UInt16} {exchange : Exchange η σ}
    (h : Outstanding history id exchange) : exchange ∈ history := by
  obtain ⟨past, later, rfl, -⟩ := h
  simp

theorem Outstanding.registers {history : List (Exchange η σ)} {id : UInt16}
    {exchange : Exchange η σ} (h : Outstanding history id exchange) : exchange.Registers id := by
  obtain ⟨past, later, -, hregisters, -⟩ := h
  exact hregisters

/-- **The last exchange decides** where it concerns the identifier; otherwise nothing changes. -/
theorem outstanding_concat (history : List (Exchange η σ)) (last : Exchange η σ) (id : UInt16)
    (exchange : Exchange η σ) :
    Outstanding (history ++ [last]) id exchange
      ↔ (exchange = last ∧ last.Registers id)
        ∨ (¬ last.Registers id ∧ ¬ last.Acknowledges id ∧ Outstanding history id exchange) := by
  constructor
  · intro hgiven
    obtain ⟨past, later, heq, hregisters, hlater⟩ := hgiven
    -- the exchange is the last one of all, or the last one is behind it
    rcases eq_last_or_split heq with ⟨rfl, -, -⟩ | ⟨before, rfl, rfl⟩
    · exact .inl ⟨rfl, hregisters⟩
    · obtain ⟨hnot, hnotack⟩ := hlater last (by simp)
      refine .inr ⟨hnot, hnotack, past, before, rfl, hregisters, ?_⟩
      intro other hother
      exact hlater other (List.mem_append_left _ hother)
  · intro hgiven
    rcases hgiven with ⟨rfl, hregisters⟩ | ⟨hnot, hnotack, past, later, rfl, hregisters, hlater⟩
    · exact ⟨history, [], rfl, hregisters, nofun⟩
    · refine ⟨past, later ++ [last], by simp, hregisters, ?_⟩
      intro other hother
      rcases List.mem_append.mp hother with hmem | hmem
      · exact hlater other hmem
      · rw [List.mem_singleton.mp hmem]
        exact ⟨hnot, hnotack⟩

/-- A table that holds what is outstanding before an exchange does so after it. -/
theorem kept_concat {history : List (Exchange η σ)} {last : Exchange η σ} {id : UInt16}
    (hstep : last.Keeps id) {content : String × Octets × Bool}
    (hbefore : last.before.client.kept id = some content
      ↔ ∃ exchange, Outstanding history id exchange ∧ exchange.RegistersMessage id content) :
    last.after.client.kept id = some content
      ↔ ∃ exchange, Outstanding (history ++ [last]) id exchange
        ∧ exchange.RegistersMessage id content := by
  simp only [outstanding_concat]
  cases hstep with
  | registered hregisters hafter =>
    -- the last exchange is the outstanding one
    rw [hafter]
    constructor
    · intro heq
      obtain rfl := Option.some.inj heq
      exact ⟨last, .inl ⟨rfl, hregisters.1⟩, hregisters⟩
    · intro hgiven
      obtain ⟨exchange, ⟨rfl, -⟩ | ⟨hnot, -, -⟩, hmessage⟩ := hgiven
      · rw [hregisters.content_inj hmessage]
      · exact absurd hregisters.1 hnot
  | acknowledged hnot hacknowledges hafter =>
    -- no exchange is outstanding any more
    rw [hafter]
    refine ⟨nofun, ?_⟩
    intro hgiven
    obtain ⟨exchange, ⟨-, hregisters⟩ | ⟨-, hnotack, -⟩, -⟩ := hgiven
    · exact absurd hregisters hnot
    · exact absurd hacknowledges hnotack
  | untouched hnot hnotack hafter =>
    -- the outstanding exchange is still the one that it was
    rw [hafter, hbefore]
    constructor
    · intro hgiven
      obtain ⟨exchange, houtstanding, hmessage⟩ := hgiven
      exact ⟨exchange, .inr ⟨hnot, hnotack, houtstanding⟩, hmessage⟩
    · intro hgiven
      obtain ⟨exchange, ⟨-, hregisters⟩ | ⟨-, -, houtstanding⟩, hmessage⟩ := hgiven
      · exact absurd hregisters hnot
      · exact ⟨exchange, houtstanding, hmessage⟩

/-- **The table holds what is outstanding**, under its identifier and with its message. -/
theorem kept_eq_some_iff {options : Options} {client : Client η}
    (h : Client.ofOptions options = .ok client) (line : Line σ)
    (operations : List (Operation η σ)) (id : UInt16) (content : String × Octets × Bool) :
    ((⟨client, line⟩ : Session η σ).run operations).client.kept id = some content
      ↔ ∃ exchange, Outstanding ((⟨client, line⟩ : Session η σ).history operations) id exchange
        ∧ exchange.RegistersMessage id content := by
  -- the invariant of the client goes along, since what is kept depends on it
  refine (Endpoint.history_induction (motive := fun history (session : Session η σ) =>
    session.client.Sound ∧ (session.client.kept id = some content
      ↔ ∃ exchange, Outstanding history id exchange ∧ exchange.RegistersMessage id content))
    ⟨.ofOptions h, ?_⟩ ?_ operations).2
  · have hnone : client.kept id = none := by
      rw [Client.kept, (Client.tables_ofOptions h).2]
      rfl
    show client.kept id = some content ↔ _
    rw [hnone]
    refine ⟨nofun, ?_⟩
    intro hgiven
    obtain ⟨exchange, houtstanding, -⟩ := hgiven
    exact absurd houtstanding (not_outstanding_nil id exchange)
  · rintro history last ⟨hsound, hkept⟩
    exact ⟨Session.apply_sound last.before last.operation hsound,
      kept_concat (Exchange.kept_step last hsound id) hkept⟩

/-- An identifier is only given back for a message. -/
theorem registersMessage_of_registers {exchange : Exchange η σ}
    (h : exchange.before.client.Sound) {id : UInt16} (hregisters : exchange.Registers id) :
    ∃ content, exchange.RegistersMessage id content := by
  cases exchange.kept_step h id with
  | registered hmessage hafter => exact ⟨_, hmessage⟩
  | acknowledged hnot hacknowledges hafter => exact absurd hregisters hnot
  | untouched hnot hnotack hafter => exact absurd hregisters hnot

/-- **The pending table against the history of the run**: what it holds, what it holds there, what
never changes it, and what is never missing from it. -/
theorem pending_is_outstanding {options : Options} {client : Client η}
    (h : Client.ofOptions options = .ok client) (line : Line σ)
    (operations : List (Operation η σ)) :
    let start : Session η σ := ⟨client, line⟩
    let history := start.history operations
    let pending := (start.run operations).client.pending
    (∀ id, pending.contains id = true ↔ ∃ exchange, Outstanding history id exchange)
      ∧ (∀ id exchange, Outstanding history id exchange →
        ∃ topic payload retain now entry,
          exchange.operation = .publish topic payload .atLeastOnce retain now
            ∧ pending.get? id = some entry ∧ entry.topic.text = topic
            ∧ entry.payload.octets = payload ∧ entry.retain = retain)
      ∧ (∀ exchange ∈ history, ∀ id, ¬ exchange.Registers id → ¬ exchange.Acknowledges id →
        exchange.after.client.kept id = exchange.before.client.kept id)
      ∧ (∀ exchange ∈ history, ∀ topic payload retain now,
        exchange.operation = .publish topic payload .atLeastOnce retain now →
        .flushed true ∈ exchange.events →
        ∃ id entry, exchange.Registers id
          ∧ exchange.after.client.pending.get? id = some entry ∧ entry.topic.text = topic
          ∧ entry.payload.octets = payload ∧ entry.retain = retain ∧ entry.lastSentMs = now) := by
  intro start history pending
  have hkept := kept_eq_some_iff h line operations
  have hsound : ∀ exchange ∈ history, exchange.before.client.Sound :=
    fun exchange => Session.history_sound h line operations
  have hmessage : ∀ {id exchange}, Outstanding history id exchange →
      ∃ content, exchange.RegistersMessage id content := fun houtstanding =>
    registersMessage_of_registers (hsound _ houtstanding.mem) houtstanding.registers
  refine ⟨?_, ?_, ?_, ?_⟩
  -- ===== which identifiers are there =====
  · intro id
    show pending.contains id = true ↔ _
    rw [Client.contains_iff_kept]
    constructor
    · intro hgiven
      obtain ⟨content, hcontent⟩ := hgiven
      obtain ⟨exchange, houtstanding, -⟩ := (hkept id content).mp hcontent
      exact ⟨exchange, houtstanding⟩
    · intro hgiven
      obtain ⟨exchange, houtstanding⟩ := hgiven
      obtain ⟨content, hcontent⟩ := hmessage houtstanding
      exact ⟨content, (hkept id content).mpr ⟨exchange, houtstanding, hcontent⟩⟩
  -- ===== what they hold =====
  · intro id exchange houtstanding
    obtain ⟨⟨topic, payload, retain⟩, hcontent⟩ := hmessage houtstanding
    have hheld := (hkept id _).mpr ⟨exchange, houtstanding, hcontent⟩
    obtain ⟨entry, hentry⟩ := (Client.kept_eq_some_iff_get? _ id topic payload retain).mp hheld
    obtain ⟨-, now, hoperation⟩ := hcontent
    exact ⟨topic, payload, retain, now, entry, hoperation, hentry⟩
  -- ===== what never changes them =====
  · intro exchange hmem id hnot hnotack
    cases exchange.kept_step (hsound exchange hmem) id with
    | registered hregisters hafter => exact absurd hregisters.1 hnot
    | acknowledged hregisters hacknowledges hafter => exact absurd hacknowledges hnotack
    | untouched hregisters hacknowledges hafter => exact hafter
  -- ===== what is never missing =====
  · intro exchange hmem topic payload retain now hoperation hflushed
    exact Exchange.registers_of_flushed (hsound exchange hmem) hoperation hflushed

namespace Specimen

/-- A session whose broker acknowledges the first message that it gets. -/
def acknowledged : Session Mailbox Wire := ⟨client, line [.chunk [0x40, 2, 0, 1]]⟩

def twoMessages : List (Operation Mailbox Wire) :=
  [.connect broker false, .publish "a" [1] .atLeastOnce false 0,
    .publish "b" [2] .atLeastOnce true 0, .poll 10 1]

end Specimen

/-- The first of two messages is acknowledged: the second one is still outstanding. -/
theorem pending_is_outstanding_specimen :
    Client.ofOptions Specimen.options = .ok Specimen.client
      ∧ (¬ ∃ exchange, Outstanding (Specimen.acknowledged.history Specimen.twoMessages) 1 exchange)
      ∧ (∃ exchange,
        Outstanding (Specimen.acknowledged.history Specimen.twoMessages) 2 exchange) := by
  have hfirst : (Specimen.acknowledged.run Specimen.twoMessages).client.pending.contains 1
      = false := by decide +kernel
  have hsecond : (Specimen.acknowledged.run Specimen.twoMessages).client.pending.contains 2
      = true := by decide +kernel
  obtain ⟨hcontains, -⟩ := pending_is_outstanding Specimen.ofOptions_eq
    Specimen.acknowledged.line Specimen.twoMessages
  refine ⟨Specimen.ofOptions_eq, ?_, (hcontains 2).mp hsecond⟩
  intro houtstanding
  exact absurd ((hcontains 1).mpr houtstanding) (Bool.eq_false_iff.mp hfirst)

end History

end FieldLink.Mqtt
