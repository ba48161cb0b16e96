/-
  FieldLink.Mqtt.Operation
  ────────────────────────────────
  **OPERATIONS AS DATA, AND RUNS OF THEM.**

  An `Operation` is one call on a session with its arguments, the clock
  reading among them, or a change that the world makes to the platform
  between two calls.  `Session.apply` performs one; `Session.run` performs
  a list of them, so that a statement about every history of a client is a
  statement about every list.
-/
import FieldLink.Run
import FieldLink.Mqtt.Session

namespace FieldLink.Mqtt

/-- A call on a session, or a change of the world around it. -/
inductive Operation (η σ : Type) where
  /-- Connects to a broker. -/
  | connect (remote : Remote) (useTls : Bool)
  /-- Ends the session with the broker. -/
  | disconnect
  /-- Publishes a message. -/
  | publish (topic : String) (payload : Octets) (qos : Qos) (retain : Bool) (now : Nat)
  /-- Subscribes to a topic. -/
  | subscribe (topic : String) (handler : η)
  /-- Forgets the handler of a topic. -/
  | unsubscribe (topic : String)
  /-- Changes the handler of a topic in place. -/
  | adjust (topic : String) (change : η → η)
  /-- Runs one cycle. -/
  | poll (timeoutMs : UInt32) (now : Nat)
  /-- The platform changes without the client. -/
  | outside (change : σ → σ)

/-- What a successful operation gives back. -/
inductive Reply where
  /-- Nothing but the news that it is done. -/
  | done
  /-- The identifier of a published message, if it has one. -/
  | published (packetId : Option UInt16)
deriving DecidableEq

namespace Session

variable {η σ : Type} [OctetStream σ] [Dialer σ] [MessageHandler η]

/-- The first part of an outcome as a reply. -/
def replying {α : Type} (reply : α → Reply) (outcome : Except Fault α × Session η σ) :
    Except Fault Reply × Session η σ :=
  (outcome.1.map reply, outcome.2)

/-- Performs one operation. -/
def apply (session : Session η σ) : Operation η σ → Except Fault Reply × Session η σ
  | .connect remote useTls => replying (fun _ => .done) (session.connect remote useTls)
  | .disconnect => replying (fun _ => .done) session.disconnect
  | .publish topic payload qos retain now =>
    replying .published (session.publish topic payload qos retain now)
  | .subscribe topic handler => replying (fun _ => .done) (session.subscribe topic handler)
  | .unsubscribe topic => replying (fun _ => .done) (session.unsubscribe topic)
  | .adjust topic change => (.ok .done, session.adjust topic change)
  | .poll timeoutMs now => replying (fun _ => .done) (session.poll timeoutMs now)
  | .outside change =>
    (.ok .done, { session with line := { session.line with platform := change session.line.platform } })

instance : Endpoint (Session η σ) (Operation η σ) Reply (Client η) σ where
  device := client
  line := line
  apply := apply

/-- The session after a list of operations. -/
abbrev run (session : Session η σ) (operations : List (Operation η σ)) : Session η σ :=
  Endpoint.run session operations

end Session

end FieldLink.Mqtt
