/-
  FieldLink.Mqtt.Client
  ────────────────────────────────
  **THE STATE OF A CLIENT.**

  A client keeps two tables of fixed capacity across connections: the
  handler of each subscribed topic, and the messages that the broker has
  not acknowledged.  Packet identifiers count from 1, wrap around 0 and pass
  over those that still await acknowledgement.
-/
import FieldLink.Mqtt.Options
import FieldLink.Mqtt.Storage
import FieldLink.Text.Quoted

namespace FieldLink.Mqtt

/-! ## §1. The client. -/

/-- Longest identifier of a client, in octets. -/
def maxClientIdLength : Nat := 64

/-- How far the session with the broker has come. -/
inductive Phase where
  /-- There is none. -/
  | disconnected
  /-- It has been asked for. -/
  | connecting
  /-- The broker has accepted it. -/
  | connected
deriving DecidableEq

/-- The phase in one word. -/
def Phase.name : Phase → String
  | disconnected => "Disconnected"
  | connecting => "Connecting"
  | connected => "Connected"

/-- A client with handlers of type `η`. -/
structure Client (η : Type) where
  /-- The identifier at the broker. -/
  clientId : String
  /-- The identifier fits its buffer. -/
  clientId_fits : clientId.utf8ByteSize ≤ maxClientIdLength
  /-- The keep-alive interval that the broker is told. -/
  keepAliveSeconds : UInt16
  /-- The broker is to forget what it kept. -/
  cleanSession : Bool
  /-- How far the session has come. -/
  phase : Phase := .disconnected
  /-- A connection is held. -/
  holdsConnection : Bool := false
  /-- The handler of each subscribed topic. -/
  subscriptions : Subscriptions η := .empty
  /-- The messages that await acknowledgement, by identifier. -/
  pending : Table UInt16 Pending maxPending := {}
  /-- Where the search for the next identifier begins. -/
  nextPacketId : UInt16 := 1

namespace Client

variable {η : Type}

/-- A client that is not connected, if its identifier fits. -/
def ofOptions (options : Options) : Except Fault (Client η) :=
  if h : options.clientId.utf8ByteSize ≤ maxClientIdLength then
    .ok {
      clientId := options.clientId
      clientId_fits := h
      keepAliveSeconds := options.keepAliveSeconds
      cleanSession := options.cleanSession }
  else .error .invalidArgument

/-- Whether the broker has accepted the session. -/
def isConnected (client : Client η) : Bool := client.phase = .connected

/-- Whether packets can be sent. -/
def isReady (client : Client η) : Bool := client.isConnected && client.holdsConnection

/-- The client as one line of text. -/
def description (client : Client η) : String :=
  "Client \x7b client_id: " ++ Text.quoted client.clientId ++ ", state: " ++ client.phase.name
    ++ ", subscriptions: " ++ toString client.subscriptions.size
    ++ ", pending: " ++ toString client.pending.size
    ++ ", next_packet_id: " ++ toString client.nextPacketId.toNat ++ " \x7d"

/-! ## §2. Packet identifiers. -/

/-- The identifier after another one; 0 is passed over. -/
def successor (id : UInt16) : UInt16 := if id + 1 = 0 then 1 else id + 1

/-- The first identifier that is not taken, looking at `tries` of them at most. -/
def firstFree (taken : UInt16 → Bool) : Nat → UInt16 → UInt16
  | 0, id => id
  | tries + 1, id => if taken id then firstFree taken tries (successor id) else id

/-- Takes the next identifier that no pending message has.  There are fewer pending messages than
identifiers, so one look more than there are pending messages always finds one. -/
def allocate (client : Client η) : UInt16 × Client η :=
  let id := firstFree client.pending.contains client.pending.size client.nextPacketId
  (id, { client with nextPacketId := successor id })

end Client

end FieldLink.Mqtt
