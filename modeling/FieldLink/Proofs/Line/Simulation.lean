/-
  FieldLink.Proofs.Line.Simulation
  ────────────────────────────────
  **LINES THAT A CLIENT CANNOT TELL APART.**

  A client learns about its line only from the results of its transfers.
  Where two lines are related in such a way that every transfer gives the
  same result on both and leaves lines that are related again, whatever is
  done with whole transfers alone comes out the same on both:

      Agree       — the same result, and what is left is related
      Simulation  — every transfer agrees on related lines
-/
import FieldLink.Line.Transfer

namespace FieldLink

/-- Two outcomes with the same result, which leave what is related. -/
def Agree {α β : Type} (ρ : β → β → Prop) (outcome outcome' : α × β) : Prop :=
  ∃ result rest rest', outcome = (result, rest) ∧ outcome' = (result, rest') ∧ ρ rest rest'

theorem Agree.intro {α β : Type} {ρ : β → β → Prop} {rest rest' : β} (result : α)
    (h : ρ rest rest') : Agree ρ (result, rest) (result, rest') :=
  ⟨result, rest, rest', rfl, rfl, h⟩

/-- Every whole transfer agrees on related lines; platforms may change on the way, as long as the
changes keep `same` what has to be the same about two platforms. -/
structure Simulation {σ : Type} [OctetStream σ] [Dialer σ] (same : σ → σ → Prop)
    (ρ : Line σ → Line σ → Prop) : Prop where
  /-- An event of the program itself. -/
  record : ∀ {line line' : Line σ} (event : Event), ρ line line' →
    ρ (line.record event) (line'.record event)
  /-- A change of the platforms. -/
  change : ∀ {line line' : Line σ} {change change' : σ → σ},
    (∀ {state state'}, same state state' → same (change state) (change' state')) →
    ρ line line' →
    ρ { line with platform := change line.platform }
      { line' with platform := change' line'.platform }
  /-- The wait of the next reads is bounded. -/
  setTimeout : ∀ {line line' : Line σ} (timeoutMs : UInt32), ρ line line' →
    Agree ρ (line.setTimeout timeoutMs) (line'.setTimeout timeoutMs)
  /-- A whole read. -/
  readExact : ∀ {line line' : Line σ} (need : Nat), ρ line line' →
    Agree ρ (line.readExact need) (line'.readExact need)
  /-- A whole write. -/
  writeAll : ∀ {line line' : Line σ} (octets : Octets), ρ line line' →
    Agree ρ (line.writeAll octets) (line'.writeAll octets)
  /-- The connection is closed. -/
  close : ∀ {line line' : Line σ}, ρ line line' → ρ line.close line'.close
  /-- A connection is asked for. -/
  dial : ∀ {line line' : Line σ} (address : String), ρ line line' →
    Agree ρ (line.dial address) (line'.dial address)
  /-- Encryption is asked for. -/
  startTls : ∀ {line line' : Line σ}, ρ line line' → Agree ρ line.startTls line'.startTls

end FieldLink
