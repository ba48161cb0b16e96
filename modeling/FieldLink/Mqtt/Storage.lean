/-
  FieldLink.Mqtt.Storage
  ────────────────────────────────
  **WHAT A CLIENT STORES.**

  A client allocates nothing: what it has to remember it copies into places
  of fixed size.  A topic and the octets of a message come with the proof
  that they fit their place, so nothing longer is ever stored:

      Topic          — at most 128 octets of text
      Payload        — at most 1024 octets
      Pending        — a message with its topic, and when it was last sent
      Subscriptions  — the handlers of at most 8 topics

  Callers speak of topics as plain text.  A text that is too long to be
  stored is no topic of the table: it is not found, and nothing is changed
  or removed for it.
-/
import FieldLink.Table
import FieldLink.Mqtt.Packet

namespace FieldLink.Mqtt

/-! ## §1. Limits. -/

/-- Longest topic that is published or subscribed to, in octets. -/
def maxTopicLength : Nat := 128

/-- Longest message that is published, in octets. -/
def maxPayloadLength : Nat := 1024

/-- Most topics that are subscribed at once. -/
def maxSubscriptions : Nat := 8

/-- Most messages that await acknowledgement at once. -/
def maxPending : Nat := 8

/-- Least time between two transmissions of a message, in milliseconds. -/
def retryIntervalMs : Nat := 5000

/-! ## §2. Copies that fit. -/

/-- A text that can be published or subscribed to. -/
def isTopic (topic : String) : Bool := topic ≠ "" && topic.utf8ByteSize ≤ maxTopicLength

/-- The stored copy of a topic. -/
structure Topic where
  /-- The topic itself. -/
  text : String
  /-- It fits its place. -/
  text_fits : text.utf8ByteSize ≤ maxTopicLength
deriving DecidableEq

instance : Coe Topic String := ⟨Topic.text⟩

/-- Copies a topic, if it fits. -/
def Topic.ofText? (text : String) : Option Topic :=
  if h : text.utf8ByteSize ≤ maxTopicLength then some ⟨text, h⟩ else none

/-- The stored copy of the octets of a message. -/
structure Payload where
  /-- The octets themselves. -/
  octets : Octets
  /-- They fit their place. -/
  octets_fit : octets.length ≤ maxPayloadLength
deriving DecidableEq

instance : Coe Payload Octets := ⟨Payload.octets⟩

/-- Copies the octets of a message, if they fit. -/
def Payload.ofOctets? (octets : Octets) : Option Payload :=
  if h : octets.length ≤ maxPayloadLength then some ⟨octets, h⟩ else none

/-! ## §3. Messages in flight. -/

/-- A message that the broker has not acknowledged. -/
structure Pending where
  /-- Its topic. -/
  topic : Topic
  /-- Its octets. -/
  payload : Payload
  /-- The broker is to keep it for later subscribers. -/
  retain : Bool
  /-- When it was last sent, in milliseconds. -/
  lastSentMs : Nat
deriving DecidableEq

namespace Pending

/-- Copies a message that is sent now, if its topic and its octets fit. -/
def copy? (topic : String) (payload : Octets) (retain : Bool) (now : Nat) : Option Pending := do
  let topic ← Topic.ofText? topic
  let payload ← Payload.ofOctets? payload
  return ⟨topic, payload, retain, now⟩

/-- The message was last sent a whole interval ago; a clock that went back makes nothing due. -/
def isOverdue (now : Nat) (pending : Pending) : Bool := retryIntervalMs ≤ now - pending.lastSentMs

/-- The packet that carries the message. -/
def packet (id : UInt16) (pending : Pending) : Except Fault Octets :=
  Packet.publish pending.topic pending.payload .atLeastOnce pending.retain (some id)

end Pending

/-! ## §4. Handlers of topics. -/

/-- What a program keeps for a topic to receive its messages. -/
class MessageHandler (η : Type) where
  /-- Takes a message of the topic. -/
  onMessage : η → String → Octets → η

/-- The handler of each subscribed topic. -/
structure Subscriptions (η : Type) where
  /-- The handlers by the stored topic. -/
  table : Table Topic η maxSubscriptions := {}

namespace Subscriptions

variable {η : Type}

/-- No topic is subscribed. -/
def empty : Subscriptions η := {}

/-- Number of subscribed topics. -/
def size (subscriptions : Subscriptions η) : Nat := subscriptions.table.size

/-- The subscribed topics in their order. -/
def keys (subscriptions : Subscriptions η) : List String := subscriptions.table.keys.map Topic.text

/-- No further topic has room. -/
def isFull (subscriptions : Subscriptions η) : Bool := subscriptions.table.isFull

/-- The handler of a topic. -/
def get? (subscriptions : Subscriptions η) (topic : String) : Option η :=
  (Topic.ofText? topic).bind subscriptions.table.get?

/-- Whether a topic is subscribed. -/
def contains (subscriptions : Subscriptions η) (topic : String) : Bool :=
  (Topic.ofText? topic).any subscriptions.table.contains

/-- Puts a handler at a topic; nothing comes of it if the topic is new and the table full. -/
def insert? (topic : Topic) (handler : η) (subscriptions : Subscriptions η) :
    Option (Subscriptions η) :=
  (subscriptions.table.insert? topic handler).map Subscriptions.mk

/-- Changes the table at the stored copy of a topic; a text that is too long has none. -/
def update (topic : String)
    (change : Topic → Table Topic η maxSubscriptions → Table Topic η maxSubscriptions)
    (subscriptions : Subscriptions η) : Subscriptions η :=
  match Topic.ofText? topic with
  | none => subscriptions
  | some key => ⟨change key subscriptions.table⟩

/-- Changes the handler of a topic, if there is one. -/
def modify (topic : String) (change : η → η) (subscriptions : Subscriptions η) : Subscriptions η :=
  subscriptions.update topic fun key table => table.modify key change

/-- Removes the handler of a topic, if there is one. -/
def erase (topic : String) (subscriptions : Subscriptions η) : Subscriptions η :=
  subscriptions.update topic Table.erase

end Subscriptions

end FieldLink.Mqtt
