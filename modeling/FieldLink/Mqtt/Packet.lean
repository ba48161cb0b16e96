/-
  FieldLink.Mqtt.Packet
  ────────────────────────────────
  **CONTROL PACKETS.**

  A packet is a header octet, the length of what follows, and a body made
  of fields.  A text field stands behind its length in two octets.  Every
  packet with fields is put together by `assemble`: a builder reckons the
  number of octets that follow and announces it, and then its fields are put
  into the packet buffer, one behind another.  What cannot be announced or
  counted is refused, and so is what does not fit the buffer.
-/
import FieldLink.Mqtt.Qos
import FieldLink.Mqtt.RemainingLength

namespace FieldLink.Mqtt

/-- Most octets in a packet that is built or accepted. -/
def maxPacketLength : Nat := 1280

namespace Packet

/-! ## §1. Header octets. -/

/-- Asks for a session. -/
def connectHeader : UInt8 := 0x10

/-- Answers the request for a session. -/
def connackHeader : UInt8 := 0x20

/-- Carries a message; its low bits hold the guarantee and the retain flag. -/
def publishHeader : UInt8 := 0x30

/-- Acknowledges a message. -/
def pubackHeader : UInt8 := 0x40

/-- Asks for the messages of a topic. -/
def subscribeHeader : UInt8 := 0x82

/-- Asks for them no longer. -/
def unsubscribeHeader : UInt8 := 0xA2

/-- Ends the session. -/
def disconnectHeader : UInt8 := 0xE0

/-- The kind of packet that a header octet announces. -/
def kind (header : UInt8) : UInt8 := header >>> 4

/-! ## §2. Fields. -/

/-- One field of a packet's body. -/
inductive Field where
  /-- Octets as they are. -/
  | plain (octets : Octets)
  /-- Octets behind their length. -/
  | counted (octets : Octets)
deriving DecidableEq

namespace Field

/-- A word, high octet first. -/
def word (w : UInt16) : Field := .plain (Octets.big w)

/-- A text behind the length of its encoding. -/
def text (text : String) : Field := .counted (Octets.ofText text)

/-- The octets of a field. -/
def encode : Field → Octets
  | .plain octets => octets
  | .counted octets => Octets.big (UInt16.ofNat octets.length) ++ octets

/-- A counted field has a length that two octets can hold. -/
def isCountable : Field → Bool
  | .plain _ => true
  | .counted octets => octets.length < 65536

end Field

/-- Puts a field behind what there is of a packet. -/
def put (packet : Octets) (field : Field) : Except Fault Octets :=
  if ¬ field.isCountable then .error .invalidArgument
  else if maxPacketLength < packet.length + field.encode.length then .error .capacityExceeded
  else .ok (packet ++ field.encode)

/-- Starts a packet with its header octet and the number of octets that are to follow, and puts its
fields in. -/
def assemble (header : UInt8) (announced : Nat) (fields : List Field) : Except Fault Octets :=
  match RemainingLength.encode announced with
  | .error fault => .error fault
  | .ok field => fields.foldlM put (header :: field)

/-! ## §3. Packets that a client sends. -/

/-- Flag of a session that starts afresh. -/
def cleanSessionFlag : UInt8 := 0x02

/-- Flag of a message that the broker keeps for later subscribers. -/
def retainFlag : UInt8 := 0x01

/-- The name of the protocol. -/
def protocolName : String := "MQTT"

/-- Asks for a session, without name, password or last message: the protocol and its level 4,
the flags, the keep-alive interval, and the client's identifier. -/
def connect (clientId : String) (keepAliveSeconds : UInt16) (cleanSession : Bool) :
    Except Fault Octets :=
  assemble connectHeader (2 + protocolName.utf8ByteSize + 1 + 1 + 2 + 2 + clientId.utf8ByteSize)
    [.text protocolName, .plain [4, if cleanSession then cleanSessionFlag else 0],
      .word keepAliveSeconds, .text clientId]

/-- The header octet of a message; it never says that the message is a repetition. -/
def publishHeaderOf (qos : Qos) (retain : Bool) : UInt8 :=
  publishHeader ||| UInt8.ofNat (qos.level * 2) ||| (if retain then retainFlag else 0)

/-- A message.  With acknowledgement it must have an identifier that is not 0, without one it
carries none. -/
def publish (topic : String) (payload : Octets) (qos : Qos) (retain : Bool)
    (packetId : Option UInt16) : Except Fault Octets :=
  match qos, packetId with
  | .atMostOnce, _ =>
    assemble (publishHeaderOf qos retain) (2 + topic.utf8ByteSize + payload.length)
      [.text topic, .plain payload]
  | .atLeastOnce, some id =>
    if id = 0 then .error .invalidArgument
    else
      assemble (publishHeaderOf qos retain) (2 + topic.utf8ByteSize + 2 + payload.length)
        [.text topic, .word id, .plain payload]
  | .atLeastOnce, none => .error .invalidArgument
  | .exactlyOnce, _ => .error .unsupported

/-- Asks for the messages of one topic, without acknowledgement. -/
def subscribe (packetId : UInt16) (topic : String) : Except Fault Octets :=
  assemble subscribeHeader (2 + 2 + topic.utf8ByteSize + 1)
    [.word packetId, .text topic, .plain [UInt8.ofNat Qos.atMostOnce.level]]

/-- Asks for the messages of one topic no longer. -/
def unsubscribe (packetId : UInt16) (topic : String) : Except Fault Octets :=
  assemble unsubscribeHeader (2 + 2 + topic.utf8ByteSize) [.word packetId, .text topic]

/-- Acknowledges a message. -/
def puback (packetId : UInt16) : Octets := pubackHeader :: 2 :: Octets.big packetId

/-- Ends the session. -/
def disconnect : Octets := [disconnectHeader, 0]

/-! ## §4. Packets that a client receives. -/

/-- Checks the answer to the request for a session; the codes 1 to 5 are refusals. -/
def checkConnack : Octets → Except Fault Unit
  | [header, length, _, code] =>
    if header ≠ connackHeader ∨ length ≠ 2 then .error .protocolViolation
    else if code = 0 then .ok ()
    else if code ≤ 5 then .error .connectionRefused
    else .error .protocolViolation
  | _ => .error .protocolViolation

end Packet

/-- A message received from the broker. -/
structure Message where
  /-- Topic that it was published to. -/
  topic : String
  /-- Guarantee that the sender asked for. -/
  qos : Qos
  /-- Identifier to acknowledge, if the guarantee has one. -/
  packetId : Option UInt16
  /-- The broker had kept it for later subscribers. -/
  retain : Bool
  /-- Octets of the message. -/
  payload : Octets
deriving DecidableEq

namespace Message

/-- Splits a counted field from the front of a body. -/
def splitCounted : Octets → Option (Octets × Octets)
  | high :: low :: octets =>
    let length := (Octets.word high low).toNat
    if octets.length < length then none else some (octets.take length, octets.drop length)
  | _ => none

/-- Reads the flags and the body of a message. -/
def parse (flags : UInt8) (body : Octets) : Except Fault Message :=
  match Qos.ofLevel ((flags >>> 1) &&& 3).toNat with
  | .error fault => .error fault
  | .ok qos =>
    match splitCounted body with
    | none => .error .protocolViolation
    | some (topic, rest) =>
      match Octets.toText? topic with
      | none => .error .protocolViolation
      | some topic =>
        let retain := flags &&& Packet.retainFlag ≠ 0
        match qos, rest with
        | .atLeastOnce, high :: low :: payload =>
          .ok ⟨topic, qos, some (Octets.word high low), retain, payload⟩
        | .atLeastOnce, _ => .error .protocolViolation
        | _, payload => .ok ⟨topic, qos, none, retain, payload⟩

end Message

end FieldLink.Mqtt
