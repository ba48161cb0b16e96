/-
  FieldLink.Mqtt.Qos
  ────────────────────────────────
  **GUARANTEES OF DELIVERY.**

  The three levels of the protocol and the number that stands for each.
-/
import FieldLink.Fault

namespace FieldLink.Mqtt

/-- How hard the two ends try to deliver a message. -/
inductive Qos where
  /-- Sent once and forgotten. -/
  | atMostOnce
  /-- Kept until it is acknowledged, and repeated. -/
  | atLeastOnce
  /-- Delivered exactly once; known here, but never sent. -/
  | exactlyOnce
deriving DecidableEq

namespace Qos

/-- The number of a level. -/
def level : Qos → Nat
  | atMostOnce => 0
  | atLeastOnce => 1
  | exactlyOnce => 2

/-- The level of a number. -/
def ofLevel : Nat → Except Fault Qos
  | 0 => .ok atMostOnce
  | 1 => .ok atLeastOnce
  | 2 => .ok exactlyOnce
  | _ => .error .protocolViolation

@[simp] theorem ofLevel_level (qos : Qos) : ofLevel qos.level = .ok qos := by
  cases qos <;> rfl

end Qos

end FieldLink.Mqtt
