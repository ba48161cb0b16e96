/-
  FieldLink.Proofs.Mqtt.Draft
  ────────────────────────────────
  **EVERY BUILDER ANNOUNCES THE TRUE LENGTH, AND FAILS ONLY WHEN IT MUST.**

  A `Draft` is what a builder is asked to put into a packet.  It says which
  header octet and which body the packet has to have, octet by octet; the
  complete packet has the length of this body between them.  A builder
  gives back the complete packet of its draft, whenever the draft is
  admissible and the packet fits, and nothing else.  A topic has at most
  128 octets and a message at most 1024, so that a client can build every
  packet within its limits:

      build_inadmissible               — what cannot be put into a packet at all
      exists_fields                    — a draft as the fields of its packet
      length_body                      — the number of octets, reckoned beforehand
      packets_built_exactly            — what is built, and when
      publish_numbered, publish_plain  — messages with and without identifier
      subscribe_eq, unsubscribe_eq     — requests for a topic
-/
import Mathlib.Data.List.Basic
import FieldLink.Mqtt.Storage
import FieldLink.Proofs.Mqtt.Assembly

namespace FieldLink.Mqtt

namespace Packet

/-! ## §1. What is to be put into a packet. -/

/-- What a builder is given. -/
inductive Draft where
  /-- A request for a session. -/
  | connect (clientId : String) (keepAliveSeconds : UInt16) (cleanSession : Bool)
  /-- A message. -/
  | publish (topic : String) (payload : Octets) (qos : Qos) (retain : Bool)
    (packetId : Option UInt16)
  /-- A request for the messages of a topic. -/
  | subscribe (packetId : UInt16) (topic : String)
  /-- A request for them no longer. -/
  | unsubscribe (packetId : UInt16) (topic : String)

namespace Draft

/-- Puts the packet together. -/
def build : Draft → Except Fault Octets
  | .connect clientId keepAliveSeconds cleanSession =>
    Packet.connect clientId keepAliveSeconds cleanSession
  | .publish topic payload qos retain packetId => Packet.publish topic payload qos retain packetId
  | .subscribe packetId topic => Packet.subscribe packetId topic
  | .unsubscribe packetId topic => Packet.unsubscribe packetId topic

/-- A message is sent once, or it is acknowledged and has an identifier that is not 0. -/
def IsAdmissible : Draft → Prop
  | .publish _ _ qos _ packetId =>
    qos = .atMostOnce ∨ qos = .atLeastOnce ∧ ∃ id, packetId = some id ∧ id ≠ 0
  | _ => True

/-- The header octet of the packet. -/
def header : Draft → UInt8
  | .connect .. => 0x10
  | .publish _ _ qos retain _ => UInt8.ofNat (0x30 + 2 * qos.level + retain.toNat)
  | .subscribe .. => 0x82
  | .unsubscribe .. => 0xA2

/-- The text in the packet, behind its length. -/
def text : Draft → String
  | .connect clientId .. => clientId
  | .publish topic .. | .subscribe _ topic | .unsubscribe _ topic => topic

/-- What the packet says behind its length field. -/
def body : Draft → Octets
  | .connect clientId keepAliveSeconds cleanSession =>
    [0, 4, 0x4D, 0x51, 0x54, 0x54, 4, if cleanSession then 2 else 0]
      ++ Octets.big keepAliveSeconds ++ topicField clientId
  | .publish topic payload .atLeastOnce _ (some id) => topicField topic ++ Octets.big id ++ payload
  | .publish topic payload .. => topicField topic ++ payload
  | .subscribe packetId topic => Octets.big packetId ++ topicField topic ++ [0]
  | .unsubscribe packetId topic => Octets.big packetId ++ topicField topic

/-- How many octets these are, reckoned from what is given: each text takes two more than it has,
and every other field its own number. -/
def size : Draft → Nat
  | .connect clientId .. => 2 + 4 + 1 + 1 + 2 + 2 + clientId.utf8ByteSize
  | .publish topic payload .atLeastOnce _ (some _) => 2 + topic.utf8ByteSize + 2 + payload.length
  | .publish topic payload .. => 2 + topic.utf8ByteSize + payload.length
  | .subscribe _ topic => 2 + 2 + topic.utf8ByteSize + 1
  | .unsubscribe _ topic => 2 + 2 + topic.utf8ByteSize

/-- The complete packet of a draft, however long it is. -/
structure IsComplete (draft : Draft) (packet : Octets) : Prop where
  /-- The two octets in front of the text are the number of its octets. -/
  text_counted : draft.text.utf8ByteSize < 65536
  /-- The length field is the one for the number of octets behind it. -/
  exists_field : ∃ field, RemainingLength.encode draft.body.length = .ok field
    ∧ packet = draft.header :: (field ++ draft.body)

/-! ## §2. What is built. -/

theorem build_inadmissible {draft : Draft} (h : ¬ draft.IsAdmissible) :
    ∃ fault, draft.build = .error fault := by
  cases draft with
  | connect | subscribe | unsubscribe => exact absurd trivial h
  | publish topic payload qos retain packetId =>
    cases qos with
    | atMostOnce => exact absurd (.inl rfl) h
    | exactlyOnce => exact ⟨_, rfl⟩
    | atLeastOnce =>
      cases packetId with
      | none => exact ⟨_, rfl⟩
      | some id =>
        have hid : id = 0 := by
          by_contra hne
          exact h (.inr ⟨rfl, id, rfl, hne⟩)
        exact ⟨_, if_pos hid⟩

/-- The header octet of a message is put together from flags. -/
theorem header_publish (topic : String) (payload : Octets) (qos : Qos) (retain : Bool)
    (packetId : Option UInt16) :
    (Draft.publish topic payload qos retain packetId).header = publishHeaderOf qos retain := by
  cases qos <;> cases retain <;> rfl

/-- **The fields of an admissible draft**, of which only the text may be too long to be counted, and
the number that is announced in front of them. -/
theorem exists_fields {draft : Draft} (h : draft.IsAdmissible) :
    ∃ fields, draft.build = assemble draft.header draft.size fields
      ∧ fields.flatMap Field.encode = draft.body
      ∧ (fields.all Field.isCountable = true ↔ draft.text.utf8ByteSize < 65536) := by
  cases draft with
  | connect clientId keepAliveSeconds cleanSession =>
    refine ⟨_, rfl, ?_, ?_⟩
    · have hprotocol : topicField protocolName = [0, 4, 0x4D, 0x51, 0x54, 0x54] := by decide
      simp [body, hprotocol, cleanSessionFlag]
    · have hprotocol : (Field.text protocolName).isCountable = true := by decide
      simp [hprotocol, isCountable_text_iff, text]
  | publish topic payload qos retain packetId =>
    rw [header_publish]
    rcases h with rfl | ⟨rfl, id, rfl, hid⟩
    · exact ⟨[.text topic, .plain payload], rfl, by simp [body],
        by simp [isCountable_text_iff, text]⟩
    · exact ⟨[.text topic, .word id, .plain payload], if_neg hid, by simp [body],
        by simp [isCountable_text_iff, text]⟩
  | subscribe packetId topic =>
    exact ⟨_, rfl, by simp [body, Qos.level], by simp [isCountable_text_iff, text]⟩
  | unsubscribe packetId topic =>
    exact ⟨_, rfl, by simp [body], by simp [isCountable_text_iff, text]⟩

/-- **The reckoned number of octets is the true one.** -/
theorem length_body (draft : Draft) : draft.body.length = draft.size := by
  cases draft with
  | connect | subscribe | unsubscribe =>
    simp only [body, size, List.length_append, length_topicField, Octets.length_big,
      List.length_cons, List.length_nil]
    omega
  | publish topic payload qos retain packetId =>
    -- whether there is an identifier hangs on the guarantee and on what is given
    cases qos <;> cases packetId <;>
      simp only [body, size, List.length_append, length_topicField, Octets.length_big] <;> omega

theorem utf8ByteSize_text_le (draft : Draft) : draft.text.utf8ByteSize ≤ draft.size := by
  cases draft with
  | connect | subscribe | unsubscribe =>
    simp only [text, size]
    omega
  | publish topic payload qos retain packetId =>
    cases qos <;> cases packetId <;> simp only [text, size] <;> omega

/-- What is complete is what is framed, if the length can be announced. -/
theorem isComplete_iff {draft : Draft} {packet : Octets} :
    draft.IsComplete packet
      ↔ draft.text.utf8ByteSize < 65536 ∧ draft.body.length ≤ RemainingLength.maximum
        ∧ packet = framed draft.header draft.body := by
  constructor
  · rintro ⟨hcounted, field, hfield, rfl⟩
    obtain ⟨hannounced, rfl⟩ := RemainingLength.encode_ok_iff.mp hfield
    exact ⟨hcounted, hannounced, rfl⟩
  · rintro ⟨hcounted, hannounced, rfl⟩
    exact ⟨hcounted, _, RemainingLength.encode_ok_iff.mpr ⟨hannounced, rfl⟩, rfl⟩

/-- An admissible draft becomes the packet that frames its body, if that is short enough. -/
theorem build_ok_iff {draft : Draft} {packet : Octets} :
    draft.build = .ok packet
      ↔ draft.IsAdmissible ∧ packet = framed draft.header draft.body ∧ draft.size ≤ 1277 := by
  by_cases hadmissible : draft.IsAdmissible
  · obtain ⟨fields, hbuild, hbody, hcountable⟩ := exists_fields hadmissible
    have htrue : (fields.flatMap Field.encode).length = draft.size := by
      rw [hbody, length_body]
    rw [hbuild, assemble_ok_iff htrue, hbody, hcountable, and_iff_right hadmissible]
    -- the text is part of the body, so that a short body has a text that can be counted
    refine and_iff_right_of_imp fun ⟨_, hshort⟩ => ?_
    have htext := draft.utf8ByteSize_text_le
    omega
  · obtain ⟨fault, hfault⟩ := build_inadmissible hadmissible
    rw [hfault]
    exact iff_of_false nofun fun h => hadmissible h.1

/-- **What is admissible and short is built.** -/
theorem build_eq (draft : Draft) (hadmissible : draft.IsAdmissible) (hshort : draft.size ≤ 1277) :
    draft.build = .ok (framed draft.header draft.body) :=
  build_ok_iff.mpr ⟨hadmissible, rfl, hshort⟩

end Draft

/-- **Every builder announces the true length, and fails only when it must.**  Whatever a builder is
given, in texts and payloads of any length, it gives back a packet just if that is admissible and
the packet is the complete one: the header octet, the length field for the number of octets that
follow, and these octets, with the text behind its exact length; and this packet has at most 1280
octets in all.  The number that is announced can be reckoned from what is given, without building
anything, and is at most 1277 just if the packet is not too long. -/
theorem packets_built_exactly (draft : Draft) :
    (∀ packet, draft.build = .ok packet
        ↔ draft.IsAdmissible ∧ draft.IsComplete packet ∧ packet.length ≤ 1280)
      ∧ ((∃ packet, draft.build = .ok packet) ↔ draft.IsAdmissible ∧ draft.size ≤ 1277)
      ∧ draft.body.length = draft.size := by
  have hmaximum : RemainingLength.maximum = 268435455 := rfl
  have htext := draft.utf8ByteSize_text_le
  have hlength := draft.length_body
  refine ⟨fun packet => ?_, ?_, hlength⟩
  · -- ===== which packet is built =====
    rw [Draft.build_ok_iff, Draft.isComplete_iff]
    constructor
    · rintro ⟨hadmissible, rfl, hshort⟩
      have hfits : (framed draft.header draft.body).length ≤ 1280 :=
        length_framed_le_iff.mpr (by omega)
      exact ⟨hadmissible, ⟨by omega, by omega, rfl⟩, hfits⟩
    · rintro ⟨hadmissible, ⟨-, -, rfl⟩, hfits⟩
      have hshort : draft.body.length ≤ 1277 := length_framed_le_iff.mp hfits
      exact ⟨hadmissible, rfl, by omega⟩
  · -- ===== whether one is built =====
    constructor
    · rintro ⟨packet, hbuild⟩
      obtain ⟨hadmissible, -, hshort⟩ := Draft.build_ok_iff.mp hbuild
      exact ⟨hadmissible, hshort⟩
    · rintro ⟨hadmissible, hshort⟩
      exact ⟨_, Draft.build_ok_iff.mpr ⟨hadmissible, rfl, hshort⟩⟩

/-- The request for the messages of topic x. -/
example : (Draft.subscribe 7 "x").build = .ok [0x82, 6, 0, 7, 0, 1, 0x78, 0] := by decide +kernel

end Packet

/-! ## §3. Within the limits of a client. -/

/-- A topic has 1 to 128 octets. -/
theorem isTopic_iff (topic : String) :
    isTopic topic = true ↔ 1 ≤ topic.utf8ByteSize ∧ topic.utf8ByteSize ≤ 128 := by
  have hempty : topic.utf8ByteSize = 0 ↔ topic = "" := String.utf8ByteSize_eq_zero_iff
  have hmax : maxTopicLength = 128 := rfl
  rw [isTopic, Bool.and_eq_true, decide_eq_true_iff, decide_eq_true_iff, hmax, Ne, ← hempty]
  omega

namespace Packet

variable {topic : String} {payload : Octets}

/-- **A message that is to be acknowledged.** -/
theorem publish_numbered (htopic : isTopic topic = true)
    (hpayload : payload.length ≤ maxPayloadLength) (retain : Bool) {id : UInt16} (hid : id ≠ 0) :
    publish topic payload .atLeastOnce retain (some id)
      = .ok (framed (publishHeaderOf .atLeastOnce retain)
          (topicField topic ++ Octets.big id ++ payload)) := by
  have hle : topic.utf8ByteSize ≤ 128 := ((isTopic_iff topic).mp htopic).2
  have hpayload' : payload.length ≤ 1024 := hpayload
  rw [← Draft.header_publish topic payload .atLeastOnce retain (some id)]
  apply Draft.build_eq (.publish topic payload .atLeastOnce retain (some id))
  · exact .inr ⟨rfl, id, rfl, hid⟩
  · show 2 + topic.utf8ByteSize + 2 + payload.length ≤ 1277
    omega

/-- **A message that is sent once.** -/
theorem publish_plain (htopic : isTopic topic = true)
    (hpayload : payload.length ≤ maxPayloadLength) (retain : Bool) :
    publish topic payload .atMostOnce retain none
      = .ok (framed (publishHeaderOf .atMostOnce retain) (topicField topic ++ payload)) := by
  have hle : topic.utf8ByteSize ≤ 128 := ((isTopic_iff topic).mp htopic).2
  have hpayload' : payload.length ≤ 1024 := hpayload
  rw [← Draft.header_publish topic payload .atMostOnce retain none]
  apply Draft.build_eq (.publish topic payload .atMostOnce retain none)
  · exact .inl rfl
  · show 2 + topic.utf8ByteSize + payload.length ≤ 1277
    omega

theorem subscribe_eq (htopic : isTopic topic = true) (id : UInt16) :
    subscribe id topic
      = .ok (framed subscribeHeader (Octets.big id ++ topicField topic ++ [0])) := by
  have hle : topic.utf8ByteSize ≤ 128 := ((isTopic_iff topic).mp htopic).2
  apply Draft.build_eq (.subscribe id topic) trivial
  show 2 + 2 + topic.utf8ByteSize + 1 ≤ 1277
  omega

theorem unsubscribe_eq (htopic : isTopic topic = true) (id : UInt16) :
    unsubscribe id topic = .ok (framed unsubscribeHeader (Octets.big id ++ topicField topic)) := by
  have hle : topic.utf8ByteSize ≤ 128 := ((isTopic_iff topic).mp htopic).2
  apply Draft.build_eq (.unsubscribe id topic) trivial
  show 2 + 2 + topic.utf8ByteSize ≤ 1277
  omega

/-- The header octet of a message tells that it is one. -/
theorem kind_publishHeaderOf (qos : Qos) (retain : Bool) :
    kind (publishHeaderOf qos retain) = kind publishHeader := by
  cases qos <;> cases retain <;> rfl

end Packet

end FieldLink.Mqtt
