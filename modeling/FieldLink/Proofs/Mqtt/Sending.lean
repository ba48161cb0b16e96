/-
  FieldLink.Proofs.Mqtt.Sending
  ────────────────────────────────
  **WHAT THE CALLS THAT SEND CAN COME TO.**

  Each call of a session that sends ends in one of a few ways, and each way
  is a constructor here: with the result, the client that it leaves, and
  the events that it adds to the log.  Whoever wants to know what a call
  keeps looks at these ways and never at the call:

      send_sending             — delivered, or interrupted and hung up
      publish_plain_checked,
      publish_numbered_checked — what publishing is once the checks have passed
      publish_publishing       — refused, sent once, kept, or lost
      subscribe_checked        — what the table says once the checks have passed
      subscribe_cases,
      unsubscribe_cases        — refused, or sent with a fresh identifier
      connect_cases,
      disconnect_cases         — what becomes of the client

  A packet that cannot be built and a table without room for a fresh
  identifier are not among the ways: the checks before them rule them out.
-/
import FieldLink.Proofs.Line.Traffic
import FieldLink.Proofs.Mqtt.Identifier
import FieldLink.Proofs.Mqtt.Draft
import FieldLink.Proofs.Mqtt.Storage
import FieldLink.Mqtt.Session

namespace FieldLink.Mqtt

/-! ## §1. Clients with and without a connection. -/

namespace Client

variable {η : Type}

/-- The client once its connection is gone. -/
def offline (client : Client η) : Client η :=
  { client with phase := .disconnected, holdsConnection := false }

/-- The client once the broker has accepted it. -/
def online (client : Client η) : Client η :=
  { client with phase := .connected, holdsConnection := true }

theorem isReady_iff (client : Client η) :
    client.isReady = true ↔ client.phase = .connected ∧ client.holdsConnection = true := by
  simp [isReady, isConnected]

end Client

namespace Session

variable {η σ : Type} [OctetStream σ]

/-- Hanging up an open connection closes it, and that is all. -/
theorem hangUp_events (session : Session η σ) (h : session.client.holdsConnection = true) :
    ∃ closed, session.hangUp.line.events = session.line.events ++ [.closed closed] := by
  refine ⟨(OctetStream.close session.line.platform).1, ?_⟩
  rw [hangUp, if_pos h]
  exact Line.events_close session.line

theorem connect_cases [Dialer σ] (remote : Remote) (useTls : Bool) (session : Session η σ) :
    (∃ fault, session.connect remote useTls = (.error fault, session))
      ∨ (∃ fault line, session.connect remote useTls
          = (.error fault, ⟨session.client.offline, line⟩))
      ∨ ∃ line, session.connect remote useTls = (.ok (), ⟨session.client.online, line⟩) := by
  unfold connect
  split
  · exact .inl ⟨_, rfl⟩
  · dsimp only
    split
    · exact .inr (.inl ⟨_, _, rfl⟩)
    · split
      · exact .inr (.inl ⟨_, _, rfl⟩)
      · exact .inr (.inr ⟨_, rfl⟩)

theorem disconnect_cases (session : Session η σ) :
    session.disconnect = (.error .notOpen, session)
      ∨ ∃ line, session.disconnect = (.ok (), ⟨session.client.offline, line⟩) := by
  unfold disconnect
  split
  · exact .inr ⟨_, rfl⟩
  · exact .inl rfl

/-! ## §2. Sending a packet. -/

/-- What sending a packet over an open connection comes to. -/
inductive Sending (packet : Octets) (session : Session η σ) :
    Except Fault Unit × Session η σ → Prop where
  /-- All of it went out. -/
  | delivered {line : Line σ} {events : List Event}
      (hlog : line.events = session.line.events ++ events) (hsent : Delivered packet events) :
      Sending packet session (.ok (), { session with line := line })
  /-- It did not, and the connection was closed. -/
  | lost {line : Line σ} {events : List Event} {closed : Bool}
      (hlog : line.events = session.line.events ++ (events ++ [.closed closed]))
      (hsent : Interrupted packet events) :
      Sending packet session (.error .writeFailed, ⟨session.client.offline, line⟩)

theorem send_sending (packet : Octets) (session : Session η σ)
    (h : session.client.holdsConnection = true) :
    Sending packet session (session.send packet) := by
  rw [send, if_pos h]
  split
  · next line hwrite =>
    obtain ⟨events, hlog, hsent⟩ := Line.writeAll_ok hwrite
    exact .delivered hlog hsent
  · next fault line hwrite =>
    obtain ⟨rfl, events, hlog, hsent⟩ := Line.writeAll_error hwrite
    obtain ⟨closed, hclosed⟩ := hangUp_events { session with line := line } h
    rw [hlog, List.append_assoc] at hclosed
    exact .lost hclosed hsent

/-! ## §3. Publishing. -/

/-- What publishing a message comes to. -/
inductive Publishing (topic : String) (payload : Octets) (retain : Bool) (now : Nat)
    (session : Session η σ) : Qos → Except Fault (Option UInt16) × Session η σ → Prop where
  /-- Nothing was done. -/
  | refused (qos : Qos) (fault : Fault) :
      Publishing topic payload retain now session qos (.error fault, session)
  /-- It was sent, or not, and forgotten. -/
  | plain {packet : Octets} {result : Except Fault Unit} {session' : Session η σ}
      (hpacket : Packet.publish topic payload .atMostOnce retain none = .ok packet)
      (hsending : Sending packet session (result, session')) :
      Publishing topic payload retain now session .atMostOnce
        (result.map fun _ => none, session')
  /-- It was sent with a fresh identifier and is kept. -/
  | kept {packet : Octets} {entry : Pending} {table : Table UInt16 Pending maxPending}
      {line : Line σ} {events : List Event} (htopic : isTopic topic = true)
      (hentry : Pending.copy? topic payload retain now = some entry)
      (hpacket : Packet.publish topic payload .atLeastOnce retain (some session.client.allocate.1)
        = .ok packet)
      (htable : session.client.pending.insert? session.client.allocate.1 entry = some table)
      (hlog : line.events = session.line.events ++ events) (hsent : Delivered packet events) :
      Publishing topic payload retain now session .atLeastOnce
        (.ok (some session.client.allocate.1),
          ⟨{ session.client.allocate.2 with pending := table }, line⟩)
  /-- It could not be sent; the identifier is used up all the same. -/
  | lost {packet : Octets} {line : Line σ} {events : List Event} {closed : Bool}
      (hpacket : Packet.publish topic payload .atLeastOnce retain (some session.client.allocate.1)
        = .ok packet)
      (hlog : line.events = session.line.events ++ (events ++ [.closed closed]))
      (hsent : Interrupted packet events) :
      Publishing topic payload retain now session .atLeastOnce
        (.error .writeFailed, ⟨session.client.allocate.2.offline, line⟩)

section Checked

variable {topic : String} {payload : Octets} {session : Session η σ}

/-- With a connection and within the limits, a message that nobody acknowledges is just sent. -/
theorem publish_plain_checked (hready : session.client.isReady = true)
    (htopic : isTopic topic = true) (hpayload : payload.length ≤ maxPayloadLength) (retain : Bool)
    (now : Nat) :
    ∃ packet, Packet.publish topic payload .atMostOnce retain none = .ok packet
      ∧ session.publish topic payload .atMostOnce retain now
        = ((session.send packet).1.map fun _ => none, (session.send packet).2) := by
  have hpacket := Packet.publish_plain htopic hpayload retain
  refine ⟨_, hpacket, ?_⟩
  unfold publish
  rw [if_neg (not_not_intro hready),
    if_neg (not_or.mpr ⟨not_not_intro htopic, Nat.not_lt.mpr hpayload⟩)]
  simp only [hpacket]
  generalize session.send _ = outcome
  obtain ⟨result, after⟩ := outcome
  cases result with
  | error fault => rfl
  | ok done => rfl

/-- With room for it as well, one that is acknowledged is sent with a fresh identifier, and its
copy is kept if all of it went out. -/
theorem publish_numbered_checked (hready : session.client.isReady = true)
    (hnext : session.client.nextPacketId ≠ 0) (htopic : isTopic topic = true)
    (hpayload : payload.length ≤ maxPayloadLength) (hfree : ¬ session.client.pending.isFull = true)
    (retain : Bool) (now : Nat) :
    ∃ packet entry table, Pending.copy? topic payload retain now = some entry
      ∧ Packet.publish topic payload .atLeastOnce retain (some session.client.allocate.1)
        = .ok packet
      ∧ session.client.pending.insert? session.client.allocate.1 entry = some table
      ∧ (∀ {fault after},
        send packet ⟨session.client.allocate.2, session.line⟩ = (.error fault, after) →
        session.publish topic payload .atLeastOnce retain now = (.error fault, after))
      ∧ ∀ {after}, send packet ⟨session.client.allocate.2, session.line⟩ = (.ok (), after) →
        session.publish topic payload .atLeastOnce retain now
          = (.ok (some session.client.allocate.1),
            { after with client := { after.client with pending := table } }) := by
  have hid := (Client.allocate_fresh session.client hnext).1
  obtain ⟨packet, hpacket⟩ : ∃ packet, Packet.publish topic payload .atLeastOnce retain
      (some session.client.allocate.1) = .ok packet :=
    ⟨_, Packet.publish_numbered htopic hpayload retain hid⟩
  obtain ⟨entry, hentry⟩ := Pending.exists_copy? htopic hpayload retain now
  -- the table was found to have room before the identifier was taken
  obtain ⟨table, htable⟩ := Table.exists_insert? session.client.pending hfree
    session.client.allocate.1 entry
  refine ⟨packet, entry, table, hentry, hpacket, htable, ?_⟩
  unfold publish
  rw [if_neg (not_not_intro hready),
    if_neg (not_or.mpr ⟨not_not_intro htopic, Nat.not_lt.mpr hpayload⟩)]
  simp only [if_neg hfree, allocate, hpacket, hentry]
  refine ⟨?_, ?_⟩
  · intro fault after hsend
    rw [hsend]
  · intro after hsend
    have hsending := send_sending packet
      (⟨session.client.allocate.2, session.line⟩ : Session η σ) ((Client.isReady_iff _).mp hready).2
    rw [hsend] at hsending ⊢
    cases hsending with
    | delivered =>
      have hpending : session.client.allocate.2.pending = session.client.pending := rfl
      simp only [hpending, htable]

end Checked

/-- **Every way in which a publication can end.** -/
theorem publish_publishing (topic : String) (payload : Octets) (qos : Qos) (retain : Bool)
    (now : Nat) {session : Session η σ} (hnext : session.client.nextPacketId ≠ 0) :
    Publishing topic payload retain now session qos
      (session.publish topic payload qos retain now) := by
  by_cases hready : ¬ session.client.isReady = true
  · unfold publish
    rw [if_pos hready]
    exact .refused qos _
  by_cases hargs : ¬ isTopic topic = true ∨ maxPayloadLength < payload.length
  · unfold publish
    rw [if_neg hready, if_pos hargs]
    exact .refused qos _
  obtain ⟨htopic, hpayload⟩ := not_or.mp hargs
  have hready := not_not.mp hready
  have htopic := not_not.mp htopic
  have hpayload := Nat.not_lt.mp hpayload
  have hholds := ((Client.isReady_iff _).mp hready).2
  cases qos with
  | atMostOnce =>
    obtain ⟨packet, hpacket, heq⟩ := publish_plain_checked hready htopic hpayload retain now
    rw [heq]
    exact .plain hpacket (send_sending packet session hholds)
  | atLeastOnce =>
    by_cases hfull : session.client.pending.isFull = true
    · unfold publish
      rw [if_neg (not_not_intro hready), if_neg hargs]
      dsimp only
      rw [if_pos hfull]
      exact .refused .atLeastOnce _
    · obtain ⟨packet, entry, table, hentry, hpacket, htable, hlost, hkept⟩ :=
        publish_numbered_checked hready hnext htopic hpayload hfull retain now
      have hsending := send_sending packet
        (⟨session.client.allocate.2, session.line⟩ : Session η σ) hholds
      generalize hsend : send packet (⟨session.client.allocate.2, session.line⟩ : Session η σ)
        = outcome at hsending
      cases hsending with
      | delivered hlog hsent =>
        rw [hkept hsend]
        exact .kept htopic hentry hpacket htable hlog hsent
      | lost hlog hsent =>
        rw [hlost hsend]
        exact .lost hpacket hlog hsent
  | exactlyOnce =>
    unfold publish
    rw [if_neg (not_not_intro hready), if_neg hargs]
    exact .refused .exactlyOnce _

/-! ## §4. Requests for topics. -/

/-- A packet that can be built is sent with a fresh identifier. -/
theorem sendNumbered_sending {build : UInt16 → Except Fault Octets} {packet : Octets}
    (session : Session η σ) (h : session.client.holdsConnection = true)
    (hpacket : build session.client.allocate.1 = .ok packet) :
    Sending packet ⟨session.client.allocate.2, session.line⟩ (session.sendNumbered build) := by
  simp only [sendNumbered, allocate, hpacket]
  exact send_sending packet _ h

/-- With a connection and a topic that passes the check, only the table can refuse a handler. -/
theorem subscribe_checked {session : Session η σ} (hready : session.client.isReady = true)
    {key : Topic} (htopic : isTopic key.text = true) (handler : η) :
    (session.client.subscriptions.insert? key handler = none
        ∧ session.subscribe key.text handler = (.error .capacityExceeded, session))
      ∨ ∃ table, session.client.subscriptions.insert? key handler = some table
        ∧ session.subscribe key.text handler
          = sendNumbered (Packet.subscribe · key.text)
            { session with client := { session.client with subscriptions := table } } := by
  unfold subscribe
  rw [if_neg (not_not_intro hready), if_neg (not_not_intro htopic)]
  simp only [Topic.ofText?_text]
  cases session.client.subscriptions.insert? key handler with
  | none => exact .inl ⟨rfl, rfl⟩
  | some table => exact .inr ⟨table, rfl, rfl⟩

/-- **Every way in which a subscription can end.**  What is refused is not reported as a failed
write. -/
theorem subscribe_cases (topic : String) (handler : η) (session : Session η σ) :
    (∃ fault, fault ≠ .writeFailed ∧ session.subscribe topic handler = (.error fault, session))
      ∨ ∃ (key : Topic) (table : Subscriptions η) (packet : Octets),
        key.text = topic ∧ isTopic topic = true
        ∧ session.client.subscriptions.insert? key handler = some table
        ∧ Packet.subscribe session.client.allocate.1 topic = .ok packet
        ∧ Sending packet ⟨{ session.client.allocate.2 with subscriptions := table }, session.line⟩
          (session.subscribe topic handler) := by
  by_cases hready : session.client.isReady = true
  · by_cases htopic : isTopic topic = true
    · obtain ⟨key, rfl⟩ := Topic.exists_of_isTopic htopic
      rcases subscribe_checked hready htopic handler with ⟨-, heq⟩ | ⟨table, htable, heq⟩
      · exact .inl ⟨.capacityExceeded, nofun, heq⟩
      · have hholds := ((Client.isReady_iff _).mp hready).2
        have hpacket := Packet.subscribe_eq htopic session.client.allocate.1
        rw [heq]
        exact .inr ⟨key, table, _, rfl, htopic, htable, hpacket, sendNumbered_sending
          { session with client := { session.client with subscriptions := table } } hholds hpacket⟩
    · refine .inl ⟨.invalidArgument, nofun, ?_⟩
      rw [subscribe, if_neg (not_not_intro hready), if_pos htopic]
  · refine .inl ⟨.notOpen, nofun, ?_⟩
    rw [subscribe, if_pos hready]

/-- **Every way in which a subscription can be given up**, told apart in the same way. -/
theorem unsubscribe_cases (topic : String) (session : Session η σ) :
    (∃ fault, fault ≠ .writeFailed ∧ session.unsubscribe topic = (.error fault, session))
      ∨ ∃ packet, Packet.unsubscribe session.client.allocate.1 topic = .ok packet
        ∧ Sending packet
          ⟨{ session.client.allocate.2 with
            subscriptions := session.client.subscriptions.erase topic }, session.line⟩
          (session.unsubscribe topic) := by
  unfold unsubscribe
  split
  · exact .inl ⟨.notOpen, nofun, rfl⟩
  · next hready =>
    have hholds := ((Client.isReady_iff _).mp (not_not.mp hready)).2
    split
    · exact .inl ⟨.invalidArgument, nofun, rfl⟩
    · next hargs =>
      have hpacket := Packet.unsubscribe_eq (not_not.mp hargs) session.client.allocate.1
      exact .inr ⟨_, hpacket, sendNumbered_sending
        { session with client :=
          { session.client with subscriptions := session.client.subscriptions.erase topic } }
        hholds hpacket⟩

end Session

end FieldLink.Mqtt
