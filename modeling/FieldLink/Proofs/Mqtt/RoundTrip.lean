/-
  FieldLink.Proofs.Mqtt.RoundTrip
  ────────────────────────────────
  **WHAT ONE CLIENT BUILDS, ANOTHER ONE READS.**

  The builders of a client and its readers are written apart from each
  other.  Here they meet: what is built is one packet on the stream, and
  the message that was put into it is the one that is read from it.

      ControlPacket.of           — what `framed` builds, as it stands on the stream
      Message.parse_publication  — the parts of a message
      publish_readable           — the message
      puback_readable            — the acknowledgement
      messages_read_exactly      — which bodies are messages, and what was published
-/
import FieldLink.Proofs.Mqtt.LengthField
import FieldLink.Proofs.Mqtt.Message
import FieldLink.Proofs.Mqtt.Outbound

namespace FieldLink.Mqtt

/-! ## §1. Packets. -/

namespace ControlPacket

/-- The packet of a header and a body, with the shortest length field. -/
def of (header : UInt8) (body : Octets) (h : body.length ≤ RemainingLength.maximum) :
    ControlPacket where
  header := header
  field := RemainingLength.digits body.length
  body := body
  isField := RemainingLength.isField_digits h
  value_field := RemainingLength.value_digits body.length

/-- The packet carries this message, and a client can take it in. -/
structure Carries (packet : ControlPacket) (message : Message) : Prop where
  /-- It says so in its header octet. -/
  kind_eq : Packet.kind packet.header = Packet.kind Packet.publishHeader
  /-- The message is read from it. -/
  parse_eq : Message.parse (packet.header &&& 0x0F) packet.body = .ok message
  /-- It is not too long. -/
  short : packet.body.length ≤ maxPacketLength

end ControlPacket

/-! ## §2. Messages. -/

namespace Packet

/-- The header octet of a message tells its guarantee and its retain flag. -/
theorem levelOf_publishHeaderOf (qos : Qos) (retain : Bool) :
    Message.levelOf (publishHeaderOf qos retain &&& 0x0F) = qos.level := by
  cases qos <;> cases retain <;> rfl

theorem testBit_publishHeaderOf (qos : Qos) (retain : Bool) :
    (publishHeaderOf qos retain &&& 0x0F).toNat.testBit 0 = retain := by
  cases qos <;> cases retain <;> rfl

end Packet

@[simp] theorem Message.identifierOf_big (id : UInt16) :
    Message.identifierOf (Octets.big id) = some id := by
  show some (Octets.word _ _) = _
  rw [Octets.word_big]

/-- **The parts that a packet was made of are the parts of its body.** -/
theorem Message.parse_publication {topic : String} (h : topic.utf8ByteSize < 65536) (qos : Qos)
    (retain : Bool) {identifier : Octets}
    (hidentifier : identifier.length = if qos.level = 1 then 2 else 0) (payload : Octets) :
    Message.parse (Packet.publishHeaderOf qos retain &&& 0x0F)
        (Packet.topicField topic ++ (identifier ++ payload))
      = .ok ⟨topic, qos, Message.identifierOf identifier, retain, payload⟩ := by
  have hlevel := Packet.levelOf_publishHeaderOf qos retain
  let layout : Message.Layout (Message.levelOf (Packet.publishHeaderOf qos retain &&& 0x0F))
      (Packet.topicField topic ++ (identifier ++ payload)) :=
    { topic := Octets.ofText topic
      identifier := identifier
      payload := payload
      topic_countable := by rw [Octets.length_ofText]; exact h
      length_identifier := by rw [hlevel]; exact hidentifier
      body_eq := by simp [Packet.topicField] }
  exact Message.parse_ok_iff.mpr
    ⟨layout, rfl, hlevel.symm, rfl, (Packet.testBit_publishHeaderOf qos retain).symm, rfl⟩

/-- What a client reads of a message that was published with an identifier, or without one. -/
def Message.ofPublication (topic : String) (payload : Octets) (qos : Qos) (retain : Bool)
    (packetId : Option UInt16) : Message :=
  ⟨topic, qos, if qos = .atLeastOnce then packetId else none, retain, payload⟩

/-- **The message that was put into a packet is read from it**, by every client. -/
theorem publish_readable {topic : String} {payload : Octets} {qos : Qos} {retain : Bool}
    {packetId : Option UInt16} {octets : Octets}
    (h : Packet.publish topic payload qos retain packetId = .ok octets) :
    ∃ packet : ControlPacket, packet.octets = octets
      ∧ packet.Carries (.ofPublication topic payload qos retain packetId) := by
  let draft : Packet.Draft := .publish topic payload qos retain packetId
  have hbuild : draft.build = .ok octets := h
  obtain ⟨hadmissible, rfl, hshort⟩ := Packet.Draft.build_ok_iff.mp hbuild
  have hmax : maxPacketLength = 1280 := rfl
  have hmaximum : RemainingLength.maximum = 268435455 := rfl
  have hlength : draft.body.length = draft.size := draft.length_body
  have htext : topic.utf8ByteSize ≤ draft.size := draft.utf8ByteSize_text_le
  have hheader : draft.header = Packet.publishHeaderOf qos retain :=
    Packet.Draft.header_publish topic payload qos retain packetId
  have htopic : topic.utf8ByteSize < 65536 := by omega
  refine ⟨.of draft.header draft.body (by omega), rfl, ?_, ?_, ?_⟩
  · show Packet.kind draft.header = _
    rw [hheader]
    exact Packet.kind_publishHeaderOf qos retain
  · show Message.parse (draft.header &&& 0x0F) draft.body = _
    rw [hheader]
    rcases hadmissible with rfl | ⟨rfl, id, rfl, -⟩
    · -- without an identifier
      exact Message.parse_publication htopic .atMostOnce retain (List.length_nil : _ = 0) payload
    · -- with an identifier
      have hparse :=
        Message.parse_publication htopic .atLeastOnce retain (Octets.length_big id) payload
      rw [← List.append_assoc, Message.identifierOf_big] at hparse
      exact hparse
  · show draft.body.length ≤ maxPacketLength
    omega

/-- **An acknowledgement names the identifier that it was built for.** -/
theorem puback_readable (id : UInt16) :
    ∃ packet : ControlPacket, packet.octets = Packet.puback id
      ∧ Packet.kind packet.header = Packet.kind Packet.pubackHeader
      ∧ packet.body = Octets.big id := by
  have hbody : (Octets.big id).length ≤ RemainingLength.maximum := by
    rw [Octets.length_big]
    decide
  exact ⟨.of Packet.pubackHeader (Octets.big id) hbody, (Packet.puback_eq id).symm, rfl, rfl⟩

/-! ## §3. Both directions. -/

/-- **Messages are read exactly.**  A body is read as a message just if the flags do not ask for the
guarantee with number 3 and the body falls into a topic behind its length, an identifier of two
octets for the guarantee with number 1, and a payload, where the topic is a text; it is read as what
these parts tell, there is no other way to take them, and all else is a violation of the protocol.
In the other direction, behind the header octet and the length field of every message that can be
published stands a body from which all that was published is read. -/
theorem messages_read_exactly :
    (∀ flags body,
        (∀ message, Message.parse flags body = .ok message
            ↔ Message.levelOf flags ≠ 3
              ∧ ∃ layout : Message.Layout (Message.levelOf flags) body,
                layout.Tells flags message)
          ∧ ((∃ message, Message.parse flags body = .ok message)
            ↔ Message.levelOf flags ≠ 3
              ∧ ∃ (layout : Message.Layout (Message.levelOf flags) body) (text : String),
                Octets.ofText text = layout.topic)
          ∧ (∀ layout layout' : Message.Layout (Message.levelOf flags) body, layout = layout')
          ∧ ∀ fault, Message.parse flags body = .error fault → fault = .protocolViolation)
      ∧ ∀ topic payload qos retain packetId packet,
        Packet.publish topic payload qos retain packetId = .ok packet →
          ∃ header field body, packet = header :: (field ++ body)
            ∧ RemainingLength.decode packet.tail = .ok (some (body.length, field.length))
            ∧ Message.parse (header &&& 0x0F) body
              = .ok (.ofPublication topic payload qos retain packetId) := by
  refine ⟨fun flags body => ⟨fun message => ?_, ?_, Message.Layout.unique,
    fun fault => Message.parse_error⟩, ?_⟩
  · -- ===== what is read =====
    rw [Message.parse_ok_iff]
    refine ⟨fun ⟨layout, htells⟩ => ⟨?_, layout, htells⟩, And.right⟩
    exact Message.levelOf_ne_three_iff.mpr ⟨message.qos, htells.level_eq⟩
  · -- ===== what can be read =====
    constructor
    · rintro ⟨message, hparse⟩
      obtain ⟨layout, htells⟩ := Message.parse_ok_iff.mp hparse
      exact ⟨Message.levelOf_ne_three_iff.mpr ⟨message.qos, htells.level_eq⟩, layout,
        message.topic, htells.topic_eq⟩
    · rintro ⟨hlevel, layout, text, htext⟩
      obtain ⟨qos, hqos⟩ := Message.levelOf_ne_three_iff.mp hlevel
      obtain ⟨message, htells⟩ := layout.exists_message flags hqos htext
      exact ⟨message, Message.parse_ok_iff.mpr ⟨layout, htells⟩⟩
  · -- ===== what was published =====
    intro topic payload qos retain packetId packet hpacket
    obtain ⟨built, rfl, hcarries⟩ := publish_readable hpacket
    refine ⟨built.header, built.field, built.body, rfl, ?_, hcarries.parse_eq⟩
    show RemainingLength.decode (built.field ++ built.body) = _
    rw [RemainingLength.decode_append built.isField, built.value_field]

/-- The guarantee with number 3 is refused; a message to topic a/b that is kept and acknowledged is
read as it was published. -/
theorem messages_read_exactly_specimen :
    (∃ fault, Message.parse 6 [0, 1, 0x61] = .error fault ∧ fault = .protocolViolation)
      ∧ Packet.publish "a/b" [0x68, 0x69] .atLeastOnce true (some 258)
        = .ok [0x33, 9, 0, 3, 0x61, 0x2F, 0x62, 1, 2, 0x68, 0x69]
      ∧ ∃ header field body,
        ([0x33, 9, 0, 3, 0x61, 0x2F, 0x62, 1, 2, 0x68, 0x69] : Octets) = header :: (field ++ body)
          ∧ RemainingLength.decode [9, 0, 3, 0x61, 0x2F, 0x62, 1, 2, 0x68, 0x69]
            = .ok (some (body.length, field.length))
          ∧ Message.parse (header &&& 0x0F) body
            = .ok ⟨"a/b", .atLeastOnce, some 258, true, [0x68, 0x69]⟩ := by
  have hrefused : Message.parse 6 [0, 1, 0x61] = .error .protocolViolation := rfl
  have hpublished : Packet.publish "a/b" [0x68, 0x69] .atLeastOnce true (some 258)
      = .ok [0x33, 9, 0, 3, 0x61, 0x2F, 0x62, 1, 2, 0x68, 0x69] := by decide +kernel
  obtain ⟨-, -, -, hviolation⟩ := messages_read_exactly.1 6 [0, 1, 0x61]
  exact ⟨⟨_, hrefused, hviolation _ hrefused⟩, hpublished,
    messages_read_exactly.2 _ _ _ _ _ _ hpublished⟩

end FieldLink.Mqtt
