/-
  FieldLink.Mqtt.Session
  ────────────────────────────────
  **AN MQTT CLIENT AT WORK.**

  A `Session` is a client with the line it talks over; each operation takes
  a session and gives a result together with the session it leaves.  The
  client does nothing on its own: what comes in is handled, and what is
  overdue is sent again, only inside `poll`.  Time is an argument.

  When the octet stream fails the connection is closed.  Subscriptions and
  unacknowledged messages stay, and the messages are sent again after the
  next connection.
-/
import FieldLink.Remote
import FieldLink.Mqtt.Client
import FieldLink.Mqtt.Inbound

namespace FieldLink.Mqtt

/-- A client with the line it talks over. -/
structure Session (η σ : Type) where
  /-- The client. -/
  client : Client η
  /-- The line. -/
  line : Line σ

namespace Session

variable {η σ : Type} [OctetStream σ]

/-! ## §1. Opening and closing. -/

/-- Moves the client to a phase. -/
def enter (phase : Phase) (session : Session η σ) : Session η σ :=
  { session with client := { session.client with phase := phase } }

/-- Closes the connection if one is held; there is no session with the broker afterwards. -/
def hangUp (session : Session η σ) : Session η σ :=
  { client := { session.client with phase := .disconnected, holdsConnection := false }
    line := if session.client.holdsConnection then session.line.close else session.line }

/-- Reports a fault after which the connection cannot be used. -/
def lose {α : Type} (fault : Fault) (session : Session η σ) : Except Fault α × Session η σ :=
  (.error fault, session.hangUp)

/-- Encrypts the connection if that is wanted, asks for a session and waits for the answer. -/
def handshake [Dialer σ] (client : Client η) (useTls : Bool) (line : Line σ) :
    Except Fault Unit × Line σ :=
  match if useTls then line.startTls else (.ok (), line) with
  | (.error fault, line) => (.error fault, line)
  | (.ok (), line) =>
    match Packet.connect client.clientId client.keepAliveSeconds client.cleanSession with
    | .error fault => (.error fault, line)
    | .ok packet =>
      match line.writeAll packet with
      | (.error fault, line) => (.error fault, line)
      | (.ok (), line) =>
        match line.readExact 4 with
        | (.error fault, line) => (.error fault, line)
        | (.ok octets, line) => (Packet.checkConnack octets, line)

/-- Connects to a broker.  The old connection is closed once the address is known to be good. -/
def connect [Dialer σ] (remote : Remote) (useTls : Bool) (session : Session η σ) :
    Except Fault Unit × Session η σ :=
  match remote.address with
  | .error fault => (.error fault, session)
  | .ok address =>
    let session := session.hangUp.enter .connecting
    match session.line.dial address with
    | (false, line) =>
      (.error .connectionRefused, { session with line := line }.enter .disconnected)
    | (true, line) =>
      match handshake session.client useTls line with
      | (.error fault, line) =>
        (.error fault, { session with line := line.close }.enter .disconnected)
      | (.ok (), line) =>
        (.ok (), {
          client := { session.client with phase := .connected, holdsConnection := true }
          line := line })

/-- Says good-bye and closes the connection, also if the good-bye cannot be written. -/
def disconnect (session : Session η σ) : Except Fault Unit × Session η σ :=
  if session.client.holdsConnection then
    (.ok (), { session with line := (session.line.writeAll Packet.disconnect).2 }.hangUp)
  else (.error .notOpen, session)

/-! ## §2. Sending. -/

/-- Writes a packet. -/
def send (packet : Octets) (session : Session η σ) : Except Fault Unit × Session η σ :=
  if session.client.holdsConnection then
    match session.line.writeAll packet with
    | (.ok (), line) => (.ok (), { session with line := line })
    | (.error fault, line) => lose fault { session with line := line }
  else (.error .notOpen, session)

/-- Takes the next packet identifier. -/
def allocate (session : Session η σ) : UInt16 × Session η σ :=
  let (id, client) := session.client.allocate
  (id, { session with client := client })

/-- Publishes a message.  One that is to be acknowledged is kept once it has been sent; the
result is its identifier. -/
def publish (topic : String) (payload : Octets) (qos : Qos) (retain : Bool) (now : Nat)
    (session : Session η σ) : Except Fault (Option UInt16) × Session η σ :=
  if ¬ session.client.isReady then (.error .notOpen, session)
  else if ¬ isTopic topic ∨ maxPayloadLength < payload.length then
    (.error .invalidArgument, session)
  else
    match qos with
    | .atMostOnce =>
      match Packet.publish topic payload qos retain none with
      | .error fault => (.error fault, session)
      | .ok packet =>
        match session.send packet with
        | (.error fault, session) => (.error fault, session)
        | (.ok (), session) => (.ok none, session)
    | .atLeastOnce =>
      if session.client.pending.isFull then (.error .capacityExceeded, session)
      else
        let (id, session) := session.allocate
        match Packet.publish topic payload qos retain (some id) with
        | .error fault => (.error fault, session)
        | .ok packet =>
          match Pending.copy? topic payload retain now with
          | none => (.error .invalidArgument, session)
          | some entry =>
            match session.send packet with
            | (.error fault, session) => (.error fault, session)
            | (.ok (), session) =>
              match session.client.pending.insert? id entry with
              | none => (.error .capacityExceeded, session)
              | some pending =>
                (.ok (some id),
                  { session with client := { session.client with pending := pending } })
    | .exactlyOnce => (.error .unsupported, session)

/-- Sends a packet that carries a fresh identifier. -/
def sendNumbered (build : UInt16 → Except Fault Octets) (session : Session η σ) :
    Except Fault Unit × Session η σ :=
  let (id, session) := session.allocate
  match build id with
  | .error fault => (.error fault, session)
  | .ok packet => session.send packet

/-- Subscribes to a topic, or gives a subscribed topic another handler.  The handler is kept even
if the broker cannot be told. -/
def subscribe (topic : String) (handler : η) (session : Session η σ) :
    Except Fault Unit × Session η σ :=
  if ¬ session.client.isReady then (.error .notOpen, session)
  else if ¬ isTopic topic then (.error .invalidArgument, session)
  else
    match Topic.ofText? topic with
    | none => (.error .invalidArgument, session)
    | some key =>
      match session.client.subscriptions.insert? key handler with
      | none => (.error .capacityExceeded, session)
      | some subscriptions =>
        { session with client := { session.client with subscriptions := subscriptions } }
          |>.sendNumbered (Packet.subscribe · topic)

/-- Forgets the handler of a topic; the broker is told in any case. -/
def unsubscribe (topic : String) (session : Session η σ) : Except Fault Unit × Session η σ :=
  if ¬ session.client.isReady then (.error .notOpen, session)
  else if ¬ isTopic topic then (.error .invalidArgument, session)
  else
    { session with client :=
      { session.client with subscriptions := session.client.subscriptions.erase topic } }
      |>.sendNumbered (Packet.unsubscribe · topic)

/-- Changes the handler of a topic in place. -/
def adjust (topic : String) (change : η → η) (session : Session η σ) : Session η σ :=
  { session with client :=
    { session.client with subscriptions := session.client.subscriptions.modify topic change } }

/-! ## §3. What comes in. -/

/-- Hands a message to the handler of its topic, if there is one. -/
def deliver [MessageHandler η] (message : Message) (session : Session η σ) : Session η σ :=
  if session.client.subscriptions.contains message.topic then
    { session with line := session.line.record (.delivered message.topic message.payload) }
      |>.adjust message.topic (MessageHandler.onMessage · message.topic message.payload)
  else session

/-- Acknowledges a message if it asks for that, and delivers it. -/
def handleMessage [MessageHandler η] (message : Message) (session : Session η σ) :
    Except Fault Unit × Session η σ :=
  match message.qos, message.packetId with
  | .atLeastOnce, none => (.error .protocolViolation, session)
  | .atLeastOnce, some id =>
    match session.send (Packet.puback id) with
    | (.error fault, session) => (.error fault, session)
    | (.ok (), session) => (.ok (), session.deliver message)
  | _, _ => (.ok (), session.deliver message)

/-- Forgets the message that an acknowledgement names. -/
def handleAcknowledgement (body : Octets) (session : Session η σ) :
    Except Fault Unit × Session η σ :=
  match body with
  | [high, low] =>
    (.ok (), { session with client :=
      { session.client with pending := session.client.pending.erase (Octets.word high low) } })
  | _ => (.error .protocolViolation, session)

/-- Acts on what was found on the stream. -/
def handle [MessageHandler η] (inbound : Inbound) (session : Session η σ) :
    Except Fault Unit × Session η σ :=
  match inbound with
  | .silence => (.ok (), session)
  | .oversized .. => (.error .capacityExceeded, session)
  | .broken fault => lose fault session
  | .packet header body =>
    if Packet.kind header = Packet.kind Packet.publishHeader then
      match Message.parse (header &&& 0x0F) body with
      | .error fault => (.error fault, session)
      | .ok message => session.handleMessage message
    else if Packet.kind header = Packet.kind Packet.pubackHeader then
      session.handleAcknowledgement body
    else (.ok (), session)

/-! ## §4. What is overdue. -/

/-- How a round of repetitions ended. -/
inductive Round where
  /-- All that was overdue has been sent. -/
  | complete
  /-- A packet could not be built. -/
  | unbuilt (fault : Fault)
  /-- A packet could not be written. -/
  | unsent (fault : Fault)
deriving DecidableEq

/-- Sends what is overdue, in the order of the entries, up to the first failure; gives the
identifiers of what was sent. -/
def resend (now : Nat) : List (UInt16 × Pending) → Line σ → List UInt16 × Round × Line σ
  | [], line => ([], .complete, line)
  | (id, pending) :: entries, line =>
    if pending.isOverdue now then
      match pending.packet id with
      | .error fault => ([], .unbuilt fault, line)
      | .ok packet =>
        match line.writeAll packet with
        | (.error fault, line) => ([], .unsent fault, line)
        | (.ok (), line) =>
          let (ids, round, line) := resend now entries line
          (id :: ids, round, line)
    else resend now entries line

/-- Sends every overdue message again and notes the time. -/
def resendOverdue (now : Nat) (session : Session η σ) : Except Fault Unit × Session η σ :=
  let (ids, round, line) := resend now session.client.pending.entries session.line
  let pending := session.client.pending.mapValues fun id pending =>
    if id ∈ ids then { pending with lastSentMs := now } else pending
  let session : Session η σ := { client := { session.client with pending := pending }, line := line }
  match round with
  | .complete => (.ok (), session)
  | .unbuilt fault => (.error fault, session)
  | .unsent fault => lose fault session

/-- Runs one cycle: handles at most one packet, then sends again what is overdue if the
connection is still there.  A failure to send hides the result of the first half. -/
def poll [MessageHandler η] (timeoutMs : UInt32) (now : Nat) (session : Session η σ) :
    Except Fault Unit × Session η σ :=
  if ¬ session.client.isReady then (.error .notOpen, session)
  else
    let (inbound, line) := Inbound.receive timeoutMs session.line
    let (result, session) := handle inbound { session with line := line }
    if session.client.isConnected then
      match session.resendOverdue now with
      | (.error fault, session) => (.error fault, session)
      | (.ok (), session) => (result, session)
    else (result, session)

end Session

end FieldLink.Mqtt
