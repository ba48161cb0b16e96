/-
  FieldLink.Proofs.Mqtt.Refusal
  ────────────────────────────────
  **ALL CHECKS OF A REQUEST COME BEFORE ALL ITS EFFECTS.**

  Publishing, subscribing and unsubscribing check their arguments, build a
  packet, take an identifier, send, and change a table, one step among the
  others.  `Client.objection` takes the checks out of this: it looks at the
  client and the arguments alone.  What it objects to is refused and
  changes nothing, and what it does not object to can fail only at the
  line, since the packet always fits and the table always has room:

      objection_eq_none_iff  — the limits of a request, in numbers
      apply_objected         — an objection is all that happens
      apply_unobjected       — without one only the line can fail
      refusals_are_atomic    — both, after every run from a new client
-/
import FieldLink.Proofs.Mqtt.Breakdown
import FieldLink.Proofs.Mqtt.Registry

namespace FieldLink.Mqtt

/-! ## §1. What the checks look at. -/

namespace Operation

variable {η σ : Type}

/-- The operation publishes, subscribes or unsubscribes. -/
def IsRequest : Operation η σ → Prop
  | .publish .. | .subscribe .. | .unsubscribe _ => True
  | _ => False

/-- The arguments are within the limits, and there is room for what is to be kept. -/
def IsWithinLimits (client : Client η) : Operation η σ → Prop
  | .publish topic payload qos _ _ =>
    (1 ≤ topic.utf8ByteSize ∧ topic.utf8ByteSize ≤ 128) ∧ payload.length ≤ 1024
      ∧ (qos = .atMostOnce ∨ qos = .atLeastOnce ∧ client.pending.size < 8)
  | .subscribe topic _ =>
    (1 ≤ topic.utf8ByteSize ∧ topic.utf8ByteSize ≤ 128)
      ∧ (client.subscriptions.size < 8 ∨ topic ∈ client.subscriptions.keys)
  | .unsubscribe topic => 1 ≤ topic.utf8ByteSize ∧ topic.utf8ByteSize ≤ 128
  | _ => False

end Operation

namespace Client

variable {η σ : Type}

/-- What is objected to in a topic that a client is asked to use. -/
def topicObjection (client : Client η) (topic : String) : Option Fault :=
  if ¬ client.isReady then some .notOpen
  else if ¬ isTopic topic then some .invalidArgument
  else none

/-- What is objected to in a request, by the first check that fails. -/
def objection (client : Client η) : Operation η σ → Option Fault
  | .publish topic payload qos _ _ =>
    (client.topicObjection topic).or <|
      if maxPayloadLength < payload.length then some .invalidArgument
      else match qos with
        | .atMostOnce => none
        | .atLeastOnce => if client.pending.isFull then some .capacityExceeded else none
        | .exactlyOnce => some .unsupported
  | .subscribe topic _ =>
    (client.topicObjection topic).or <|
      if client.subscriptions.contains topic = false ∧ client.subscriptions.isFull = true then
        some .capacityExceeded
      else none
  | .unsubscribe topic => client.topicObjection topic
  | _ => none

variable {client : Client η} {topic : String}

theorem topicObjection_eq_none_iff :
    client.topicObjection topic = none ↔ client.isReady = true ∧ isTopic topic = true := by
  unfold topicObjection
  split
  · next hready => exact ⟨nofun, fun h => absurd h.1 hready⟩
  · next hready =>
    split
    · next htopic => exact ⟨nofun, fun h => absurd h.2 htopic⟩
    · next htopic => exact ⟨fun _ => ⟨not_not.mp hready, not_not.mp htopic⟩, fun _ => rfl⟩

theorem topicObjection_eq_some {fault : Fault} (h : client.topicObjection topic = some fault) :
    ¬ client.isReady = true ∧ fault = .notOpen
      ∨ client.isReady = true ∧ ¬ isTopic topic = true ∧ fault = .invalidArgument := by
  unfold topicObjection at h
  split at h
  · next hready => exact .inl ⟨hready, (Option.some.inj h).symm⟩
  · next hready =>
    split at h
    · next htopic => exact .inr ⟨not_not.mp hready, htopic, (Option.some.inj h).symm⟩
    · cases h

/-- An objection is one of four faults. -/
theorem objection_cases {operation : Operation η σ} {fault : Fault}
    (h : client.objection operation = some fault) :
    fault = .notOpen ∨ fault = .invalidArgument ∨ fault = .unsupported
      ∨ fault = .capacityExceeded := by
  have htopics : ∀ topic, client.topicObjection topic = some fault →
      fault = .notOpen ∨ fault = .invalidArgument := by
    intro topic htopic
    exact (topicObjection_eq_some htopic).imp And.right fun h => h.2.2
  cases operation with
  | publish topic payload qos retain now =>
    rcases Option.or_eq_some_iff.mp h with hfirst | ⟨-, hrest⟩
    · exact (htopics topic hfirst).imp_right .inl
    · split at hrest
      · exact .inr (.inl (Option.some.inj hrest).symm)
      · cases qos with
        | atMostOnce => cases hrest
        | atLeastOnce =>
          dsimp only at hrest
          split at hrest
          · exact .inr (.inr (.inr (Option.some.inj hrest).symm))
          · cases hrest
        | exactlyOnce => exact .inr (.inr (.inl (Option.some.inj hrest).symm))
  | subscribe topic handler =>
    rcases Option.or_eq_some_iff.mp h with hfirst | ⟨-, hrest⟩
    · exact (htopics topic hfirst).imp_right .inl
    · split at hrest
      · exact .inr (.inr (.inr (Option.some.inj hrest).symm))
      · cases hrest
  | unsubscribe topic => exact (htopics topic h).imp_right .inl
  | connect | disconnect | adjust | poll | outside => cases h

/-- **Nothing is objected to within the limits**, and something is beyond them. -/
theorem objection_eq_none_iff (operation : Operation η σ) (hrequest : operation.IsRequest) :
    client.objection operation = none
      ↔ client.isReady = true ∧ operation.IsWithinLimits client := by
  cases operation with
  | publish topic payload qos retain now =>
    constructor
    · intro h
      obtain ⟨hfirst, hrest⟩ := Option.or_eq_none_iff.mp h
      obtain ⟨hready, htopic⟩ := topicObjection_eq_none_iff.mp hfirst
      split at hrest
      · cases hrest
      · next hpayload =>
        refine ⟨hready, (isTopic_iff topic).mp htopic, Nat.not_lt.mp hpayload, ?_⟩
        cases qos with
        | atMostOnce => exact .inl rfl
        | atLeastOnce =>
          dsimp only at hrest
          split at hrest
          · cases hrest
          · next hroom => exact .inr ⟨rfl, client.pending.not_isFull_iff.mp hroom⟩
        | exactlyOnce => cases hrest
    · rintro ⟨hready, htopic, hpayload, hroom⟩
      refine Option.or_eq_none_iff.mpr
        ⟨topicObjection_eq_none_iff.mpr ⟨hready, (isTopic_iff topic).mpr htopic⟩, ?_⟩
      rw [if_neg (show ¬ maxPayloadLength < payload.length from Nat.not_lt.mpr hpayload)]
      rcases hroom with rfl | ⟨rfl, hroom⟩
      · rfl
      · exact if_neg (client.pending.not_isFull_iff.mpr hroom)
  | subscribe topic handler =>
    show (client.topicObjection topic).or _ = none ↔ _
    rw [Option.or_eq_none_iff, topicObjection_eq_none_iff, isTopic_iff, and_assoc]
    refine and_congr_right fun _ => and_congr_right fun _ => ?_
    show _ ↔ client.subscriptions.size < maxSubscriptions ∨ topic ∈ client.subscriptions.keys
    rw [← client.subscriptions.not_isFull_iff, ← Subscriptions.contains_iff_mem]
    by_cases hkey : client.subscriptions.contains topic = true
    · simp [hkey]
    · simp [hkey]
  | unsubscribe topic =>
    show client.topicObjection topic = none ↔ _
    rw [topicObjection_eq_none_iff, isTopic_iff]
    rfl
  | connect | disconnect | adjust | poll | outside => exact hrequest.elim

end Client

namespace Session

variable {η σ : Type} [OctetStream σ] {session : Session η σ}

/-! ## §2. Objections. -/

theorem publish_objected {topic : String} {payload : Octets} {qos : Qos} {retain : Bool}
    {now : Nat} {fault : Fault}
    (h : session.client.objection (.publish topic payload qos retain now : Operation η σ)
      = some fault) :
    session.publish topic payload qos retain now = (.error fault, session) := by
  unfold publish
  rcases Option.or_eq_some_iff.mp h with hfirst | ⟨hfirst, hrest⟩
  · rcases Client.topicObjection_eq_some hfirst with ⟨hready, rfl⟩ | ⟨hready, htopic, rfl⟩
    · rw [if_pos hready]
    · rw [if_neg (not_not_intro hready), if_pos (.inl htopic)]
  · obtain ⟨hready, htopic⟩ := Client.topicObjection_eq_none_iff.mp hfirst
    rw [if_neg (not_not_intro hready)]
    split at hrest
    · next hlong =>
      obtain rfl := Option.some.inj hrest
      rw [if_pos (.inr hlong)]
    · next hlong =>
      rw [if_neg (not_or.mpr ⟨not_not_intro htopic, hlong⟩)]
      cases qos with
      | atMostOnce => cases hrest
      | atLeastOnce =>
        dsimp only at hrest ⊢
        split at hrest
        · next hfull =>
          obtain rfl := Option.some.inj hrest
          rw [if_pos hfull]
        · cases hrest
      | exactlyOnce =>
        obtain rfl := Option.some.inj hrest
        rfl

theorem subscribe_objected {topic : String} {handler : η} {fault : Fault}
    (h : session.client.objection (.subscribe topic handler : Operation η σ) = some fault) :
    session.subscribe topic handler = (.error fault, session) := by
  rcases Option.or_eq_some_iff.mp h with hfirst | ⟨hfirst, hrest⟩
  · rcases Client.topicObjection_eq_some hfirst with ⟨hready, rfl⟩ | ⟨hready, htopic, rfl⟩
    · rw [subscribe, if_pos hready]
    · rw [subscribe, if_neg (not_not_intro hready), if_pos htopic]
  · obtain ⟨hready, htopic⟩ := Client.topicObjection_eq_none_iff.mp hfirst
    obtain ⟨key, rfl⟩ := Topic.exists_of_isTopic htopic
    have hnone := Subscriptions.insert?_eq_none_iff key handler session.client.subscriptions
    split at hrest
    · next hroom =>
      obtain rfl := Option.some.inj hrest
      rcases subscribe_checked hready htopic handler with ⟨-, heq⟩ | ⟨table, htable, -⟩
      · exact heq
      · cases htable.symm.trans (hnone.mpr hroom)
    · cases hrest

theorem unsubscribe_objected {topic : String} {fault : Fault}
    (h : session.client.topicObjection topic = some fault) :
    session.unsubscribe topic = (.error fault, session) := by
  unfold unsubscribe
  rcases Client.topicObjection_eq_some h with ⟨hready, rfl⟩ | ⟨hready, htopic, rfl⟩
  · rw [if_pos hready]
  · rw [if_neg (not_not_intro hready), if_pos htopic]

/-! ## §3. What is not objected to. -/

/-- **A publication that is not objected to can fail only at the line.** -/
theorem publish_unobjected {topic : String} {payload : Octets} {qos : Qos} {retain : Bool}
    {now : Nat} (hnext : session.client.nextPacketId ≠ 0)
    (h : session.client.objection (.publish topic payload qos retain now : Operation η σ) = none) :
    (∃ packetId, (session.publish topic payload qos retain now).1 = .ok packetId)
      ∨ (session.publish topic payload qos retain now).1 = .error .writeFailed := by
  obtain ⟨hready, htopic, hpayload, hroom⟩ :=
    (Client.objection_eq_none_iff (.publish topic payload qos retain now : Operation η σ)
      trivial).mp h
  have htopic : isTopic topic = true := (isTopic_iff topic).mpr htopic
  have hpayload : payload.length ≤ maxPayloadLength := hpayload
  have hholds := ((Client.isReady_iff _).mp hready).2
  rcases hroom with rfl | ⟨rfl, hroom⟩
  · obtain ⟨packet, -, heq⟩ := publish_plain_checked hready htopic hpayload retain now
    rw [heq]
    have hsending := send_sending packet session hholds
    generalize session.send packet = outcome at hsending
    cases hsending with
    | delivered => exact .inl ⟨none, rfl⟩
    | lost => exact .inr rfl
  · have hfree := session.client.pending.not_isFull_iff.mpr hroom
    obtain ⟨packet, entry, table, -, -, -, hlost, hkept⟩ :=
      publish_numbered_checked hready hnext htopic hpayload hfree retain now
    have hsending := send_sending packet
      (⟨session.client.allocate.2, session.line⟩ : Session η σ) hholds
    generalize hsend : send packet (⟨session.client.allocate.2, session.line⟩ : Session η σ)
      = outcome at hsending
    cases hsending with
    | delivered =>
      rw [hkept hsend]
      exact .inl ⟨_, rfl⟩
    | lost =>
      rw [hlost hsend]
      exact .inr rfl

theorem subscribe_unobjected {topic : String} {handler : η}
    (h : session.client.objection (.subscribe topic handler : Operation η σ) = none) :
    (session.subscribe topic handler).1 = .ok ()
      ∨ (session.subscribe topic handler).1 = .error .writeFailed := by
  obtain ⟨hfirst, hrest⟩ := Option.or_eq_none_iff.mp h
  obtain ⟨hready, htopic⟩ := Client.topicObjection_eq_none_iff.mp hfirst
  obtain ⟨key, rfl⟩ := Topic.exists_of_isTopic htopic
  split at hrest
  · cases hrest
  · next hroom =>
    rcases subscribe_capacity hready htopic handler with ⟨hnone, -⟩ | ⟨-, hsent⟩
    · exact absurd ((Subscriptions.insert?_eq_none_iff key handler _).mp hnone) hroom
    · exact hsent

theorem unsubscribe_unobjected {topic : String} (h : session.client.topicObjection topic = none) :
    (session.unsubscribe topic).1 = .ok ()
      ∨ (session.unsubscribe topic).1 = .error .writeFailed := by
  obtain ⟨hready, htopic⟩ := Client.topicObjection_eq_none_iff.mp h
  have hholds := ((Client.isReady_iff _).mp hready).2
  have hpacket := Packet.unsubscribe_eq htopic session.client.allocate.1
  unfold unsubscribe
  rw [if_neg (not_not_intro hready), if_neg (not_not_intro htopic)]
  exact (sendNumbered_sending
    { session with client :=
      { session.client with subscriptions := session.client.subscriptions.erase topic } }
    hholds hpacket).result_cases

/-! ## §4. Requests. -/

variable [Dialer σ] [MessageHandler η]

/-- **An objection is all that happens.** -/
theorem apply_objected {operation : Operation η σ} {fault : Fault}
    (h : session.client.objection operation = some fault) :
    session.apply operation = (.error fault, session) := by
  cases operation with
  | publish topic payload qos retain now =>
    show replying _ (session.publish topic payload qos retain now) = _
    rw [publish_objected h]
    rfl
  | subscribe topic handler =>
    show replying _ (session.subscribe topic handler) = _
    rw [subscribe_objected h]
    rfl
  | unsubscribe topic =>
    show replying _ (session.unsubscribe topic) = _
    rw [unsubscribe_objected h]
    rfl
  | connect | disconnect | adjust | poll | outside => cases h

/-- **Without one only the line can fail.** -/
theorem apply_unobjected {operation : Operation η σ} (hrequest : operation.IsRequest)
    (hnext : session.client.nextPacketId ≠ 0) (h : session.client.objection operation = none) :
    (∃ reply, (session.apply operation).1 = .ok reply)
      ∨ (session.apply operation).1 = .error .writeFailed := by
  -- the reply of an operation is its result under another name
  have hreplying : ∀ {α : Type} (reply : α → Reply) (outcome : Except Fault α × Session η σ),
      (∃ value, outcome.1 = .ok value) ∨ outcome.1 = .error .writeFailed →
      (∃ value, (replying reply outcome).1 = .ok value)
        ∨ (replying reply outcome).1 = .error .writeFailed := by
    rintro α reply ⟨result, after⟩ (⟨value, hok⟩ | herror)
    · exact .inl ⟨reply value, congrArg (Except.map reply) hok⟩
    · exact .inr (congrArg (Except.map reply) herror)
  cases operation with
  | publish topic payload qos retain now => exact hreplying _ _ (publish_unobjected hnext h)
  | subscribe topic handler =>
    exact hreplying _ _ ((subscribe_unobjected h).imp_left fun hok => ⟨(), hok⟩)
  | unsubscribe topic =>
    exact hreplying _ _ ((unsubscribe_unobjected h).imp_left fun hok => ⟨(), hok⟩)
  | connect | disconnect | adjust | poll | outside => exact hrequest.elim

/-- **Refusals are atomic, and nothing within the limits is refused**, after every run from a new
client and on every platform.  A request that is reported as not open, invalid, not supported or
beyond a capacity leaves the client and the line as they were.  On an open connection a request
within the limits can fail only because it could not be written; every other request is refused. -/
theorem refusals_are_atomic {options : Options} {client : Client η}
    (h : Client.ofOptions options = .ok client) (line : Line σ)
    (operations : List (Operation η σ)) :
    let reached := (⟨client, line⟩ : Session η σ).run operations
    ∀ operation : Operation η σ, operation.IsRequest →
      let outcome := reached.apply operation
      (∀ fault, outcome.1 = .error fault →
        fault = .notOpen ∨ fault = .invalidArgument ∨ fault = .unsupported
          ∨ fault = .capacityExceeded → outcome.2 = reached)
      ∧ (reached.client.phase = .connected → operation.IsWithinLimits reached.client →
        ∀ fault, outcome.1 = .error fault → fault = .writeFailed)
      ∧ (¬ (reached.client.phase = .connected ∧ operation.IsWithinLimits reached.client) →
        ∃ fault, (fault = .notOpen ∨ fault = .invalidArgument ∨ fault = .unsupported
          ∨ fault = .capacityExceeded) ∧ outcome = (.error fault, reached)) := by
  intro reached operation hrequest outcome
  have hsound : reached.client.Sound := run_sound h line operations
  have hready : reached.client.isReady = true ↔ reached.client.phase = .connected := by
    rw [hsound.isReady_iff, ← hsound.isConnected_iff, Client.isConnected, decide_eq_true_iff]
  have hlimits := reached.client.objection_eq_none_iff operation hrequest
  rw [hready] at hlimits
  cases hobjection : reached.client.objection operation with
  | some fault =>
    -- ===== something is objected to =====
    have hrefused : outcome = (.error fault, reached) := apply_objected hobjection
    have hbeyond : ¬ (reached.client.phase = .connected
        ∧ operation.IsWithinLimits reached.client) := by
      rw [← hlimits, hobjection]
      exact Option.some_ne_none fault
    refine ⟨fun _ _ _ => congrArg Prod.snd hrefused, ?_, fun _ => ⟨fault, ?_, hrefused⟩⟩
    · intro hphase hwithin
      exact absurd ⟨hphase, hwithin⟩ hbeyond
    · exact Client.objection_cases hobjection
  | none =>
    -- ===== nothing is =====
    have hresult := apply_unobjected hrequest hsound.next_ne_zero hobjection
    have hwrite : ∀ fault, outcome.1 = .error fault → fault = .writeFailed := by
      intro fault hfault
      rcases hresult with ⟨reply, hok⟩ | herror
      · cases hfault.symm.trans hok
      · exact Except.error.inj (hfault.symm.trans herror)
    refine ⟨?_, fun _ _ => hwrite, fun hbeyond => absurd (hlimits.mp hobjection) hbeyond⟩
    intro fault hfault hkind
    obtain rfl := hwrite fault hfault
    simp at hkind

end Session

namespace Specimen

/-- A platform that takes the request for a session and nothing more. -/
def frugal : Line Wire where
  platform := { inbound := [.chunk [0x20, 2, 0, 0]], writeBudget := some 19 }

end Specimen

namespace Session

/-- An empty topic and a ninth message are refused and change nothing; a message within the limits
is lost at the line. -/
theorem refusals_are_atomic_specimen :
    let start : Session Mailbox Wire := ⟨Specimen.client, Specimen.frugal⟩
    let reached := start.run [.connect Specimen.broker false]
    let message : Operation Mailbox Wire := .publish "a" [1] .atLeastOnce false 0
    let nameless : Operation Mailbox Wire := .publish "" [1] .atLeastOnce false 0
    let crowded := (⟨Specimen.client, Specimen.line []⟩ : Session Mailbox Wire).run
      (.connect Specimen.broker false :: List.replicate 8 message)
    Client.ofOptions Specimen.options = .ok Specimen.client
      ∧ reached.client.phase = .connected
      ∧ (reached.apply nameless).1 = .error .invalidArgument
      ∧ (reached.apply nameless).2 = reached
      ∧ (reached.apply message).1 = .error .writeFailed
      ∧ crowded.client.pending.size = 8
      ∧ (crowded.apply message).1 = .error .capacityExceeded
      ∧ (crowded.apply message).2 = crowded := by
  intro start reached message nameless crowded
  have hphase : reached.client.phase = .connected := by decide +kernel
  have hcrowded : crowded.client.pending.size = 8 := by decide +kernel
  obtain ⟨hatomic, -⟩ := refusals_are_atomic Specimen.ofOptions_eq start.line
    [.connect Specimen.broker false] nameless trivial
  obtain ⟨-, hwrite, -⟩ := refusals_are_atomic Specimen.ofOptions_eq start.line
    [.connect Specimen.broker false] message trivial
  obtain ⟨hfull, -⟩ := refusals_are_atomic Specimen.ofOptions_eq (Specimen.line [])
    (.connect Specimen.broker false :: List.replicate 8 message) message trivial
  have hnameless : (reached.apply nameless).1 = .error .invalidArgument := by decide +kernel
  have hninth : (crowded.apply message).1 = .error .capacityExceeded := by decide +kernel
  have hroom : reached.client.pending.size < 8 := by decide +kernel
  have hwithin : message.IsWithinLimits reached.client :=
    ⟨by decide, by decide, .inr ⟨rfl, hroom⟩⟩
  have hlost : (reached.apply message).1.toOption = none := by decide +kernel
  have hstill : (reached.apply nameless).2 = reached := hatomic _ hnameless (.inr (.inl rfl))
  have hkept : (crowded.apply message).2 = crowded := hfull _ hninth (.inr (.inr (.inr rfl)))
  have hunsent : (reached.apply message).1 = .error .writeFailed := by
    cases hresult : (reached.apply message).1 with
    | error fault => rw [hwrite hphase hwithin fault hresult]
    | ok reply =>
      rw [hresult] at hlost
      cases hlost
  exact ⟨Specimen.ofOptions_eq, hphase, hnameless, hstill, hunsent, hcrowded, hninth, hkept⟩

end Session

end FieldLink.Mqtt
