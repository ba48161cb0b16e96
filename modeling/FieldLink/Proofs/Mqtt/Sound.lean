/-
  FieldLink.Proofs.Mqtt.Sound
  ────────────────────────────────
  **WHAT EVERY REACHABLE CLIENT KEEPS.**

  `Client.Sound` is the invariant of a client: its phase tells whether a
  connection is held, the next identifier is not 0, and neither table holds
  the empty topic.  How long topics and messages may be is no part of it:
  what is stored brings that along.  Every change that a call makes to a
  client keeps the invariant, and so does every call:

      Sound.built          — every pending message can be made a packet
      apply_sound          — one operation keeps the invariant
      run_sound            — every run from a new client has it
      reachable_invariant  — the invariant in plain terms, with the
                             identifiers that went out on the way
-/
import FieldLink.Proofs.Mqtt.History
import FieldLink.Wire

namespace FieldLink.Mqtt

/-! ## §1. The invariant. -/

namespace Client

variable {η : Type}

/-- What holds of a client between two calls. -/
structure Sound (client : Client η) : Prop where
  /-- The phase tells whether a connection is held. -/
  phase_eq : client.phase = if client.holdsConnection then .connected else .disconnected
  /-- The search for an identifier begins at one. -/
  next_ne_zero : client.nextPacketId ≠ 0
  /-- A pending message has an identifier and a topic. -/
  pending_ok : ∀ {id : UInt16} {pending : Pending},
    client.pending.get? id = some pending → id ≠ 0 ∧ pending.topic.text ≠ ""
  /-- The empty text is not subscribed to. -/
  subscriptions_ok : ∀ {topic : String} {handler : η},
    client.subscriptions.get? topic = some handler → topic ≠ ""

/-- A new client has nothing in its tables. -/
theorem tables_ofOptions {options : Options} {client : Client η}
    (h : Client.ofOptions options = .ok client) :
    client.subscriptions = .empty ∧ client.pending = .empty := by
  unfold Client.ofOptions at h
  split at h
  · obtain rfl := Except.ok.inj h
    exact ⟨rfl, rfl⟩
  · cases h

namespace Sound

variable {client : Client η}

theorem ofOptions {options : Options} (h : Client.ofOptions options = .ok client) :
    client.Sound := by
  unfold Client.ofOptions at h
  split at h
  · obtain rfl := Except.ok.inj h
    refine ⟨rfl, show (1 : UInt16) ≠ 0 by decide, ?_, ?_⟩
    · intro id pending hget
      cases hget
    · intro topic handler hget
      cases (Subscriptions.get?_empty topic).symm.trans hget
  · cases h

/-- A client is ready as soon as it holds a connection. -/
theorem isReady_iff (h : client.Sound) :
    client.isReady = true ↔ client.holdsConnection = true := by
  rw [Client.isReady_iff, h.phase_eq]
  by_cases hholds : client.holdsConnection = true
  · simp [hholds]
  · simp [hholds]

/-- The broker has accepted the session as soon as a connection is held. -/
theorem isConnected_iff (h : client.Sound) :
    client.isConnected = true ↔ client.holdsConnection = true := by
  rw [isConnected, decide_eq_true_iff, h.phase_eq]
  by_cases hholds : client.holdsConnection = true
  · simp [hholds]
  · simp [hholds]

/-! ## §2. Changes that keep it. -/

-- Connections come and go with the phase, and nothing else depends on them.
theorem offline (h : client.Sound) : client.offline.Sound :=
  ⟨rfl, h.next_ne_zero, h.pending_ok, h.subscriptions_ok⟩

theorem online (h : client.Sound) : client.online.Sound :=
  ⟨rfl, h.next_ne_zero, h.pending_ok, h.subscriptions_ok⟩

theorem allocate (h : client.Sound) : client.allocate.2.Sound :=
  ⟨h.phase_eq, successor_ne_zero _, h.pending_ok, h.subscriptions_ok⟩

/-- Pending messages may be changed as long as they keep an identifier and a topic. -/
theorem withPending (h : client.Sound) {table : Table UInt16 Pending maxPending}
    (htable : ∀ {id pending}, table.get? id = some pending →
      id ≠ 0 ∧ pending.topic.text ≠ "") :
    { client with pending := table }.Sound :=
  ⟨h.phase_eq, h.next_ne_zero, htable, h.subscriptions_ok⟩

/-- Handlers may be changed as long as the empty text has none. -/
theorem withSubscriptions (h : client.Sound) {table : Subscriptions η}
    (htable : ∀ {topic handler}, table.get? topic = some handler → topic ≠ "") :
    { client with subscriptions := table }.Sound :=
  ⟨h.phase_eq, h.next_ne_zero, h.pending_ok, htable⟩

theorem keep (h : client.Sound) {id : UInt16} {pending : Pending}
    {table : Table UInt16 Pending maxPending} (hid : id ≠ 0)
    (htopic : pending.topic.text ≠ "")
    (htable : client.pending.insert? id pending = some table) :
    { client with pending := table }.Sound := by
  apply h.withPending
  intro other found hget
  rw [Table.get?_insert? htable] at hget
  by_cases hother : other = id
  · rw [if_pos hother] at hget
    obtain rfl := Option.some.inj hget
    exact ⟨hother ▸ hid, htopic⟩
  · rw [if_neg hother] at hget
    exact h.pending_ok hget

theorem forget (h : client.Sound) (id : UInt16) :
    { client with pending := client.pending.erase id }.Sound := by
  apply h.withPending
  intro other found hget
  rw [Table.get?_erase] at hget
  by_cases hother : other = id
  · rw [if_pos hother] at hget
    cases hget
  · rw [if_neg hother] at hget
    exact h.pending_ok hget

theorem stamped (h : client.Sound) (ids : List UInt16) (now : Nat) :
    (Session.stamped ids now client).Sound := by
  apply h.withPending
  intro id found hget
  rw [Table.get?_mapValues] at hget
  obtain ⟨pending, hold, rfl⟩ := Option.map_eq_some_iff.mp hget
  obtain ⟨hid, htopic⟩ := h.pending_ok hold
  -- the time of the last transmission is all that may be another one
  by_cases hsent : id ∈ ids
  · rw [if_pos hsent]
    exact ⟨hid, htopic⟩
  · rw [if_neg hsent]
    exact ⟨hid, htopic⟩

theorem subscribe (h : client.Sound) {topic : Topic} {handler : η} {table : Subscriptions η}
    (htopic : topic.text ≠ "")
    (htable : client.subscriptions.insert? topic handler = some table) :
    { client with subscriptions := table }.Sound := by
  apply h.withSubscriptions
  intro other found hget
  rw [Subscriptions.get?_insert? htable] at hget
  by_cases hother : other = topic.text
  · rw [hother]
    exact htopic
  · rw [if_neg hother] at hget
    exact h.subscriptions_ok hget

theorem unsubscribe (h : client.Sound) (topic : String) :
    { client with subscriptions := client.subscriptions.erase topic }.Sound := by
  apply h.withSubscriptions
  intro other found hget
  rw [Subscriptions.get?_erase] at hget
  by_cases hother : other = topic
  · rw [if_pos hother] at hget
    cases hget
  · rw [if_neg hother] at hget
    exact h.subscriptions_ok hget

theorem adjust (h : client.Sound) (topic : String) (change : η → η) :
    { client with subscriptions := client.subscriptions.modify topic change }.Sound := by
  apply h.withSubscriptions
  intro other found hget
  rw [Subscriptions.get?_modify] at hget
  by_cases hother : other = topic
  · rw [if_pos hother] at hget
    obtain ⟨handler, hold, -⟩ := Option.map_eq_some_iff.mp hget
    exact h.subscriptions_ok hold
  · rw [if_neg hother] at hget
    exact h.subscriptions_ok hget

/-- **Every pending message can be made a packet**, and this is the packet. -/
theorem packet_eq (h : client.Sound) {id : UInt16} {pending : Pending}
    (hget : client.pending.get? id = some pending) :
    pending.packet id = .ok (Packet.framed (Packet.publishHeaderOf .atLeastOnce pending.retain)
      (Packet.topicField pending.topic ++ Octets.big id ++ pending.payload.octets)) := by
  obtain ⟨hid, htopic⟩ := h.pending_ok hget
  exact Packet.publish_numbered ((Topic.isTopic_text_iff _).mpr htopic) pending.payload.octets_fit
    pending.retain hid

theorem built (h : client.Sound) : ∀ entry ∈ client.pending.entries,
    ∃ packet, entry.2.packet entry.1 = .ok packet := by
  intro entry hentry
  exact ⟨_, h.packet_eq ((Table.get?_eq_some_iff _ _ _).mpr hentry)⟩

end Sound

end Client

/-! ## §3. Calls that keep it. -/

namespace Session

variable {η σ : Type}

theorem Sending.sound {packet : Octets} {session : Session η σ}
    {outcome : Except Fault Unit × Session η σ} (hsending : Sending packet session outcome)
    (h : session.client.Sound) : outcome.2.client.Sound := by
  cases hsending with
  | delivered hlog hsent => exact h
  | lost hlog hsent =>
    show session.client.offline.Sound
    exact h.offline

theorem Publishing.sound {topic : String} {payload : Octets} {retain : Bool} {now : Nat}
    {session : Session η σ} {qos : Qos} {outcome : Except Fault (Option UInt16) × Session η σ}
    (hpublishing : Publishing topic payload retain now session qos outcome)
    (h : session.client.Sound) : outcome.2.client.Sound := by
  cases hpublishing with
  | refused qos fault => exact h
  | plain hpacket hsending => exact hsending.sound h
  | kept htopic hentry hpacket htable hlog hsent =>
    -- the search for an identifier never stops at 0
    have hid := (session.client.allocate_fresh h.next_ne_zero).1
    obtain ⟨rfl, -⟩ := Pending.copy?_eq_some_iff.mp hentry
    show { session.client.allocate.2 with pending := _ }.Sound
    exact h.allocate.keep hid ((Topic.isTopic_text_iff _).mp htopic) htable
  | lost hpacket hlog hsent =>
    show session.client.allocate.2.offline.Sound
    exact h.allocate.offline

theorem deliver_sound [MessageHandler η] (message : Message) {session : Session η σ}
    (h : session.client.Sound) : (session.deliver message).client.Sound := by
  rcases deliver_cases message session with heq | heq
  · rw [heq]
    exact h
  · rw [heq]
    exact h.adjust message.topic _

theorem Resending.sound {original : UInt16 → Octets → Prop} {now : Nat} {session : Session η σ}
    {outcome : Except Fault Unit × Session η σ}
    (hresending : Resending original now session outcome) (h : session.client.Sound) :
    outcome.2.client.Sound := by
  cases hresending with
  | complete hlog hrepeats =>
    show (stamped _ now session.client).Sound
    exact h.stamped _ now
  | lost hlog hrepeats =>
    show (stamped _ now session.client).offline.Sound
    exact (h.stamped _ now).offline

variable [OctetStream σ]

theorem connect_sound [Dialer σ] (remote : Remote) (useTls : Bool) {session : Session η σ}
    (h : session.client.Sound) : (session.connect remote useTls).2.client.Sound := by
  rcases connect_cases remote useTls session with ⟨fault, heq⟩ | ⟨fault, line, heq⟩ | ⟨line, heq⟩
  · rw [heq]
    exact h
  · rw [heq]
    exact h.offline
  · rw [heq]
    exact h.online

theorem disconnect_sound {session : Session η σ} (h : session.client.Sound) :
    session.disconnect.2.client.Sound := by
  rcases disconnect_cases session with heq | ⟨line, heq⟩
  · rw [heq]
    exact h
  · rw [heq]
    exact h.offline

theorem subscribe_sound (topic : String) (handler : η) {session : Session η σ}
    (h : session.client.Sound) : (session.subscribe topic handler).2.client.Sound := by
  rcases subscribe_cases topic handler session with
    ⟨fault, -, heq⟩ | ⟨key, table, packet, rfl, htopic, htable, -, hsending⟩
  · rw [heq]
    exact h
  · exact hsending.sound (h.allocate.subscribe ((Topic.isTopic_text_iff key).mp htopic) htable)

theorem unsubscribe_sound (topic : String) {session : Session η σ} (h : session.client.Sound) :
    (session.unsubscribe topic).2.client.Sound := by
  rcases unsubscribe_cases topic session with ⟨fault, -, heq⟩ | ⟨packet, -, hsending⟩
  · rw [heq]
    exact h
  · exact hsending.sound (h.allocate.unsubscribe topic)

theorem Handling.sound [MessageHandler η] {session : Session η σ} {inbound : Inbound}
    {outcome : Except Fault Unit × Session η σ} (hhandling : Handling session inbound outcome)
    (h : session.client.Sound) : outcome.2.client.Sound := by
  cases hhandling with
  | silence => exact h
  | oversized header length => exact h
  | broken fault =>
    show session.hangUp.client.Sound
    exact h.offline
  | ignored body hmessage hack => exact h
  | malformedMessage hkind hparse => exact h
  | delivered hkind hparse hqos => exact deliver_sound _ h
  | acknowledged hkind hparse hqos hid hsend hsending => exact deliver_sound _ (hsending.sound h)
  | unacknowledged hkind hparse hqos hid hsend hsending => exact hsending.sound h
  | released hkind =>
    show { session.client with pending := session.client.pending.erase _ }.Sound
    exact h.forget _
  | malformedAcknowledgement hkind hbody => exact h

section Polling

variable [MessageHandler η] {session : Session η σ}

theorem takeIn_sound (timeoutMs : UInt32) (h : session.client.Sound)
    (hready : session.client.isReady = true) :
    (session.takeIn timeoutMs).2.client.Sound := by
  obtain ⟨inbound, line, bounded, reads, -, -, -, hhandling⟩ :=
    takeIn_spec timeoutMs session (h.isReady_iff.mp hready)
  exact hhandling.sound h

/-- **A poll ends with its first half, or with a round of repetitions** that can always be
built. -/
theorem poll_cases (timeoutMs : UInt32) (now : Nat) (h : session.client.Sound)
    (hready : session.client.isReady = true) :
    ((session.takeIn timeoutMs).2.client.holdsConnection = false
        ∧ session.poll timeoutMs now = session.takeIn timeoutMs)
      ∨ ((session.takeIn timeoutMs).2.client.holdsConnection = true
        ∧ ∃ outcome, outcome = (session.takeIn timeoutMs).2.resendOverdue now
          ∧ Resending (Builds (session.takeIn timeoutMs).2.client) now (session.takeIn timeoutMs).2
            outcome
          ∧ session.poll timeoutMs now
            = (outcome.1.bind fun _ => (session.takeIn timeoutMs).1, outcome.2)) := by
  have hsound := takeIn_sound timeoutMs h hready
  rw [poll_eq timeoutMs now hready]
  by_cases hholds : (session.takeIn timeoutMs).2.client.holdsConnection = true
  · have hresending := resendOverdue_resending now _ hholds hsound.built
    refine .inr ⟨hholds, _, rfl, hresending, ?_⟩
    rw [if_pos (hsound.isConnected_iff.mpr hholds)]
  · refine .inl ⟨Bool.not_eq_true _ ▸ hholds, ?_⟩
    rw [if_neg (fun hconnected => hholds (hsound.isConnected_iff.mp hconnected))]

theorem poll_sound (timeoutMs : UInt32) (now : Nat) (h : session.client.Sound) :
    (session.poll timeoutMs now).2.client.Sound := by
  by_cases hready : session.client.isReady = true
  · have hsound := takeIn_sound timeoutMs h hready
    rcases poll_cases timeoutMs now h hready with ⟨-, heq⟩ | ⟨-, outcome, -, hresending, heq⟩
    · rw [heq]
      exact hsound
    · rw [heq]
      exact hresending.sound hsound
  · rw [poll_not_ready timeoutMs now hready]
    exact h

end Polling

variable [Dialer σ] [MessageHandler η]

/-- **One operation keeps the invariant.** -/
theorem apply_sound (session : Session η σ) (operation : Operation η σ)
    (h : session.client.Sound) : (session.apply operation).2.client.Sound := by
  cases operation with
  | connect remote useTls =>
    show (session.connect remote useTls).2.client.Sound
    exact connect_sound remote useTls h
  | disconnect =>
    show session.disconnect.2.client.Sound
    exact disconnect_sound h
  | publish topic payload qos retain now =>
    show (session.publish topic payload qos retain now).2.client.Sound
    exact (publish_publishing topic payload qos retain now h.next_ne_zero).sound h
  | subscribe topic handler =>
    show (session.subscribe topic handler).2.client.Sound
    exact subscribe_sound topic handler h
  | unsubscribe topic =>
    show (session.unsubscribe topic).2.client.Sound
    exact unsubscribe_sound topic h
  | adjust topic change =>
    show (session.adjust topic change).client.Sound
    exact h.adjust topic change
  | poll timeoutMs now =>
    show (session.poll timeoutMs now).2.client.Sound
    exact poll_sound timeoutMs now h
  | outside change =>
    -- the platform changes, and the client does not
    show session.client.Sound
    exact h

/-- **Every run from a new client has the invariant.** -/
theorem run_sound {options : Options} {client : Client η}
    (h : Client.ofOptions options = .ok client) (line : Line σ)
    (operations : List (Operation η σ)) :
    ((⟨client, line⟩ : Session η σ).run operations).client.Sound :=
  Endpoint.run_induction (motive := fun session : Session η σ => session.client.Sound) apply_sound
    (Client.Sound.ofOptions h) operations

theorem history_sound {options : Options} {client : Client η}
    (h : Client.ofOptions options = .ok client) (line : Line σ)
    (operations : List (Operation η σ)) {exchange : Exchange η σ}
    (hexchange : exchange ∈ (⟨client, line⟩ : Session η σ).history operations) :
    exchange.before.client.Sound := by
  obtain ⟨earlier, heq⟩ := Endpoint.exists_run_of_mem_history hexchange
  rw [heq]
  exact run_sound h line earlier

end Session

/-! ## §4. The identifiers that go out. -/

/-- The packet of an operation that takes a fresh identifier, as a function of the identifier. -/
def Operation.numbered? {η σ : Type} : Operation η σ → Option (UInt16 → Except Fault Octets)
  | .publish topic payload .atLeastOnce retain _ =>
    some fun id => Packet.publish topic payload .atLeastOnce retain (some id)
  | .subscribe topic _ => some fun id => Packet.subscribe id topic
  | .unsubscribe topic => some fun id => Packet.unsubscribe id topic
  | _ => none

namespace Exchange

variable {η σ : Type} [OctetStream σ] [Dialer σ] [MessageHandler η]

/-- What the operation sent is the front of this packet, and all of it if it succeeded. -/
def Sends (exchange : Exchange η σ) (packet : Octets) : Prop :=
  Traffic.sent exchange.events <+: packet
    ∧ ∀ reply, exchange.reply = .ok reply → Delivered packet exchange.events

theorem events_of_after_eq {exchange : Exchange η σ} (h : exchange.after = exchange.before) :
    exchange.events = [] :=
  Exchange.events_eq (by rw [h, List.append_nil])

theorem sends_of_delivered {exchange : Exchange η σ} {packet : Octets} {events : List Event}
    (hlog : exchange.after.line.events = exchange.before.line.events ++ events)
    (hsent : Delivered packet events) : exchange.Sends packet := by
  rw [Sends, Exchange.events_eq hlog, hsent.sent_eq]
  exact ⟨List.prefix_rfl, fun _ _ => hsent⟩

theorem sends_of_interrupted {exchange : Exchange η σ} {packet : Octets} {events : List Event}
    {closed : Bool} {fault : Fault} (hreply : exchange.reply = .error fault)
    (hlog : exchange.after.line.events
      = exchange.before.line.events ++ (events ++ [.closed closed]))
    (hsent : Interrupted packet events) : exchange.Sends packet := by
  rw [Sends, Exchange.events_eq hlog]
  refine ⟨?_, ?_⟩
  · rw [Traffic.sent_append]
    simpa [Event.outbound] using hsent.sent_prefix
  · intro reply hok
    rw [hreply] at hok
    cases hok

/-- What an operation sends once its packet is ready. -/
theorem sends_of_sending {exchange : Exchange η σ} {packet : Octets} {client : Client η}
    {outcome : Except Fault Unit × Session η σ}
    (hsending : Session.Sending packet ⟨client, exchange.before.line⟩ outcome)
    (hreply : exchange.reply = outcome.1.map fun _ => .done)
    (hafter : exchange.after = outcome.2) : exchange.Sends packet := by
  cases hsending with
  | delivered hlog hsent => exact sends_of_delivered (by rw [hafter]; exact hlog) hsent
  | lost hlog hsent => exact sends_of_interrupted hreply (by rw [hafter]; exact hlog) hsent

/-- A publication as an exchange: the way it ended says what it replied and left. -/
theorem publish_outcome {exchange : Exchange η σ} {topic : String} {payload : Octets} {qos : Qos}
    {retain : Bool} {now : Nat} (h : exchange.before.client.Sound)
    (hoperation : exchange.operation = .publish topic payload qos retain now) :
    ∃ outcome, Session.Publishing topic payload retain now exchange.before qos outcome
      ∧ exchange.reply = outcome.1.map .published ∧ exchange.after = outcome.2 := by
  refine ⟨_, Session.publish_publishing topic payload qos retain now h.next_ne_zero, ?_, ?_⟩
  · rw [Exchange.reply, hoperation]
    rfl
  · rw [Exchange.after, hoperation]
    rfl

/-- **An identifier that goes out is fresh**: not 0, and no pending message's. -/
theorem sends_numbered {exchange : Exchange η σ} {build : UInt16 → Except Fault Octets}
    (h : exchange.before.client.Sound) (hbuild : exchange.operation.numbered? = some build) :
    exchange.events = [] ∨ ∃ id packet, id ≠ 0
      ∧ exchange.before.client.pending.contains id = false
      ∧ build id = .ok packet ∧ exchange.Sends packet := by
  obtain ⟨hid, hfree⟩ := Client.allocate_fresh exchange.before.client h.next_ne_zero
  obtain ⟨session, operation⟩ := exchange
  cases operation with
  | publish topic payload qos retain now =>
    cases qos with
    | atLeastOnce =>
      obtain rfl := Option.some.inj hbuild
      obtain ⟨outcome, hpublishing, hreply, hafter⟩ :=
        publish_outcome h rfl
      cases hpublishing with
      | refused => exact .inl (events_of_after_eq hafter)
      | kept htopic hentry hpacket htable hlog hsent =>
        exact .inr ⟨_, _, hid, hfree, hpacket,
          sends_of_delivered (by rw [hafter]; exact hlog) hsent⟩
      | lost hpacket hlog hsent =>
        exact .inr ⟨_, _, hid, hfree, hpacket,
          sends_of_interrupted hreply (by rw [hafter]; exact hlog) hsent⟩
    | atMostOnce => cases hbuild
    | exactlyOnce => cases hbuild
  | subscribe topic handler =>
    obtain rfl := Option.some.inj hbuild
    rcases Session.subscribe_cases topic handler session with
      ⟨fault, -, heq⟩ | ⟨key, table, packet, hkey, htopic, htable, hpacket, hsending⟩
    · exact .inl (events_of_after_eq (congrArg Prod.snd heq))
    · exact .inr ⟨_, packet, hid, hfree, hpacket, sends_of_sending hsending rfl rfl⟩
  | unsubscribe topic =>
    obtain rfl := Option.some.inj hbuild
    rcases Session.unsubscribe_cases topic session with ⟨fault, -, heq⟩ | ⟨packet, hpacket, hsending⟩
    · exact .inl (events_of_after_eq (congrArg Prod.snd heq))
    · exact .inr ⟨_, packet, hid, hfree, hpacket, sends_of_sending hsending rfl rfl⟩
  | connect remote useTls => cases hbuild
  | disconnect => cases hbuild
  | adjust topic change => cases hbuild
  | poll timeoutMs now => cases hbuild
  | outside change => cases hbuild

end Exchange

/-! ## §5. Reachable clients. -/

/-- A handler that keeps the messages of its topic. -/
structure Mailbox where
  messages : List Octets := []

instance : MessageHandler Mailbox where
  onMessage mailbox _ payload := ⟨mailbox.messages ++ [payload]⟩

namespace Specimen

def options : Options := { clientId := "meter" }

def client : Client Mailbox where
  clientId := "meter"
  clientId_fits := by decide
  keepAliveSeconds := 60
  cleanSession := true
  subscriptions := .empty
  pending := .empty

def broker : Remote := ⟨"broker", 1883⟩

/-- A broker that accepts the session and then sends this. -/
def line (inbound : List Wire.Item) : Line Wire where
  platform := { inbound := .chunk [0x20, 2, 0, 0] :: inbound }

theorem ofOptions_eq : Client.ofOptions options = .ok client := rfl

end Specimen

namespace Session

variable {η σ : Type} [OctetStream σ] [Dialer σ] [MessageHandler η]

/-- **What holds after every run from a new client**, whatever the operations return and whatever
the platform does.  The last part is about the run itself: an identifier that goes out is no
pending message's at that moment. -/
theorem reachable_invariant {options : Options} {client : Client η}
    (h : Client.ofOptions options = .ok client) (line : Line σ)
    (operations : List (Operation η σ)) :
    let start : Session η σ := ⟨client, line⟩
    let reached : Client η := (start.run operations).client
    reached.phase = (if reached.holdsConnection then .connected else .disconnected)
      ∧ reached.nextPacketId ≠ 0
      ∧ (reached.pending.size ≤ 8 ∧ reached.pending.keys.Nodup
        ∧ ∀ id pending, (id, pending) ∈ reached.pending.entries →
          id ≠ 0 ∧ 1 ≤ pending.topic.text.utf8ByteSize ∧ pending.topic.text.utf8ByteSize ≤ 128
            ∧ pending.payload.octets.length ≤ 1024)
      ∧ (reached.subscriptions.size ≤ 8 ∧ reached.subscriptions.keys.Nodup
        ∧ ∀ topic ∈ reached.subscriptions.keys,
          1 ≤ topic.utf8ByteSize ∧ topic.utf8ByteSize ≤ 128)
      ∧ ∀ exchange ∈ start.history operations, ∀ build, exchange.operation.numbered? = some build →
          exchange.events = [] ∨ ∃ id packet, id ≠ 0
            ∧ exchange.before.client.pending.contains id = false
            ∧ build id = .ok packet ∧ exchange.Sends packet := by
  intro start reached
  have hsound : reached.Sound := run_sound h line operations
  refine ⟨hsound.phase_eq, hsound.next_ne_zero, ⟨reached.pending.size_le,
    reached.pending.keys_nodup, ?_⟩, ⟨reached.subscriptions.size_le,
    reached.subscriptions.keys_nodup, ?_⟩, ?_⟩
  · intro id pending hentry
    obtain ⟨hid, htopic⟩ := hsound.pending_ok ((Table.get?_eq_some_iff _ _ _).mpr hentry)
    obtain ⟨hnonempty, hshort⟩ :=
      (isTopic_iff _).mp ((Topic.isTopic_text_iff pending.topic).mpr htopic)
    exact ⟨hid, hnonempty, hshort, pending.payload.octets_fit⟩
  · intro topic htopic
    obtain ⟨handler, hget⟩ := (Subscriptions.mem_keys_iff _ _).mp htopic
    obtain ⟨key, rfl⟩ := Subscriptions.exists_key_of_get? hget
    exact (isTopic_iff _).mp ((Topic.isTopic_text_iff key).mpr (hsound.subscriptions_ok hget))
  · intro exchange hexchange build hbuild
    exact Exchange.sends_numbered (history_sound h line operations hexchange) hbuild

theorem reachable_invariant_specimen :
    let start : Session Mailbox Wire := ⟨Specimen.client, Specimen.line []⟩
    let operations : List (Operation Mailbox Wire) := [.connect Specimen.broker false,
      .publish "a" [1] .atLeastOnce false 0, .subscribe "b" {}]
    Client.ofOptions Specimen.options = .ok Specimen.client
      ∧ (start.run operations).client.pending.keys = [1]
      ∧ (start.run operations).client.phase = .connected
      ∧ (start.run operations).client.nextPacketId ≠ 0 := by
  intro start operations
  have hinvariant := reachable_invariant Specimen.ofOptions_eq (Specimen.line []) operations
  have hkeys : (start.run operations).client.pending.keys = [1] := by decide +kernel
  have hholds : (start.run operations).client.holdsConnection = true := by decide +kernel
  refine ⟨Specimen.ofOptions_eq, hkeys, ?_, hinvariant.2.1⟩
  show (start.run operations).client.phase = .connected
  rw [hinvariant.1, if_pos hholds]

end Session

end FieldLink.Mqtt
