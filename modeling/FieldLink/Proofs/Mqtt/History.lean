/-
  FieldLink.Proofs.Mqtt.History
  ────────────────────────────────
  **EXCHANGES THAT MATTER TO THE MESSAGES IN FLIGHT.**

  Two kinds of exchange of a run settle what becomes of an identifier:

      Registers      — a publication gave this identifier back
      Acknowledges   — a poll took an acknowledgement of it off the stream

  Both are told from outside: by the reply, and by the octets that came in.
-/
import FieldLink.Proofs.History
import FieldLink.Proofs.Mqtt.Polling
import FieldLink.Mqtt.Operation

namespace FieldLink.Mqtt

/-- One operation of a run, with the session that it found. -/
abbrev Exchange (η σ : Type) : Type := FieldLink.Exchange (Session η σ) (Operation η σ)

section Exchanges

variable {η σ : Type} [OctetStream σ] [Dialer σ] [MessageHandler η]

/-- The exchanges of a run, first one first. -/
abbrev Session.history (session : Session η σ) (operations : List (Operation η σ)) :
    List (Exchange η σ) :=
  Endpoint.history session operations

namespace Exchange

/-- A poll as an exchange. -/
theorem poll_outcome {exchange : Exchange η σ} {timeoutMs : UInt32} {now : Nat}
    (hoperation : exchange.operation = .poll timeoutMs now) :
    exchange.reply = ((exchange.before.poll timeoutMs now).1.map fun _ => .done)
      ∧ exchange.after = (exchange.before.poll timeoutMs now).2 := by
  refine ⟨?_, ?_⟩
  · rw [Exchange.reply, hoperation]
    rfl
  · rw [Exchange.after, hoperation]
    rfl

/-- The operation was a publication, and it gave this identifier back. -/
def Registers (exchange : Exchange η σ) (id : UInt16) : Prop :=
  exchange.reply = .ok (.published (some id))

/-- The operation was a poll, and the octets that it took off the stream are one acknowledgement
of this identifier. -/
def Acknowledges (exchange : Exchange η σ) (id : UInt16) : Prop :=
  (∃ timeoutMs now, exchange.operation = .poll timeoutMs now)
    ∧ ∃ packet : ControlPacket, Packet.kind packet.header = Packet.kind Packet.pubackHeader
      ∧ packet.body = Octets.big id ∧ Traffic.received exchange.events = packet.octets

end Exchange

end Exchanges

end FieldLink.Mqtt
