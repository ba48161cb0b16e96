/-
  FieldLink.Proofs.Serial.Text
  ────────────────────────────────
  **SERIAL SETTINGS IN AN OBJECT.**

  Serial settings are written in an object if each of the six stands there
  once, numbers in decimal digits and the other two by their names.  What
  else stands there, and in what order, does not matter:

      Field.Spells             — which texts spell a value of which field
      Config.WrittenIn         — all six settings are there, each once
      Config.gathered_iff      — what is gathered is what is written
      Config.ofText_eq_ok_iff  — read are settings that are written and that a
                                 driver can run
-/
import FieldLink.Proofs.Settings.Fields
import FieldLink.Serial.Text

namespace FieldLink.Serial

open Settings

/-! ## §1. Spellings. -/

/-- The name of a parity. -/
def Parity.name : Parity → List Char
  | .none => "none".toList
  | .even => "even".toList
  | .odd => "odd".toList

theorem Parity.name_inj (p q : Parity) (h : p.name = q.name) : p = q := by
  revert h
  cases p <;> cases q <;> decide

/-- The name of a way to pause. -/
def FlowControl.name : FlowControl → List Char
  | .none => "none".toList
  | .software => "software".toList
  | .hardware => "hardware".toList

theorem FlowControl.name_inj (f g : FlowControl) (h : f.name = g.name) : f = g := by
  revert h
  cases f <;> cases g <;> decide

namespace Field

/-- The text spells this value of the field. -/
def Spells : (field : Field) → List Char → field.Value → Prop
  | baudRate, text, n => text = Nat.toDigits 10 n.toNat
  | parity, text, p => IsNamed p.name text
  | stopBits, text, n => text = Nat.toDigits 10 n.toNat
  | dataBits, text, n => text = Nat.toDigits 10 n.toNat
  | flowControl, text, f => IsNamed f.name text
  | timeoutMs, text, n => text = Nat.toDigits 10 n.toNat

theorem understands_readParity :
    Understands (readName parityNames) fun value p => IsNamed p.name value := by
  have hall : ∀ p : Parity, p ∈ [.none, .even, .odd] := by
    intro p
    cases p <;> simp
  exact understands_readName_named Parity.name_inj hall

theorem understands_readFlowControl :
    Understands (readName flowControlNames) fun value f => IsNamed f.name value := by
  have hall : ∀ f : FlowControl, f ∈ [.none, .software, .hardware] := by
    intro f
    cases f <;> simp
  exact understands_readName_named FlowControl.name_inj hall

/-- The reader of a field understands its spellings. -/
theorem understands : (field : Field) → Understands field.read field.Spells
  | baudRate => understands_readWord32
  | parity => understands_readParity
  | stopBits => understands_readOctet
  | dataBits => understands_readOctet
  | flowControl => understands_readFlowControl
  | timeoutMs => understands_readWord32

instance : Spelling Field where
  Spells := Spells
  mem_all := by
    intro field
    cases field <;> decide
  key_inj := by
    intro field field'
    cases field <;> cases field' <;> decide
  understands := understands

end Field

/-! ## §2. Configurations. -/

namespace Config

/-- The value of a field. -/
def value (config : Config) : (field : Field) → field.Value
  | .baudRate => config.baudRate
  | .parity => config.parity
  | .stopBits => config.stopBits
  | .dataBits => config.dataBits
  | .flowControl => config.flowControl
  | .timeoutMs => config.timeoutMs

/-- Each setting stands once among the members of an object, in one of its spellings. -/
def WrittenIn (config : Config) (entries : List Entry) : Prop :=
  ∀ field : Field, WrittenOnce entries field (config.value field)

variable {config : Config} {entries : List Entry} {text : String}

theorem validate_eq_error_iff (config : Config) :
    config.validate = .error .invalidArgument ↔ config.validate ≠ .ok () := by
  unfold validate
  split <;> simp

theorem gather_eq_some_iff {members : List (Member Field)}
    (hvalues : ∀ entry ∈ entries, IsValue entry.value)
    (hspelled : List.Forall₂ (fun (entry : Entry) member => Spelled entry.key entry.value member)
      entries members) :
    gather members = some config ↔ config.WrittenIn entries := by
  have hfield := only_valuesOf_iff hspelled hvalues
  unfold gather
  simp only [Option.bind_eq_bind, Option.bind_eq_some_iff]
  constructor
  · rintro ⟨baudRate, hbaud, parity, hparity, stopBits, hstop, dataBits, hdata, flowControl, hflow,
      timeoutMs, htimeout, heq⟩
    cases heq
    intro field
    cases field with
    | baudRate => exact (hfield _ _).mp hbaud
    | parity => exact (hfield _ _).mp hparity
    | stopBits => exact (hfield _ _).mp hstop
    | dataBits => exact (hfield _ _).mp hdata
    | flowControl => exact (hfield _ _).mp hflow
    | timeoutMs => exact (hfield _ _).mp htimeout
  · intro hwritten
    have hgiven := fun field => (hfield field (config.value field)).mpr (hwritten field)
    exact ⟨_, hgiven .baudRate, _, hgiven .parity, _, hgiven .stopBits, _, hgiven .dataBits, _,
      hgiven .flowControl, _, hgiven .timeoutMs, rfl⟩

/-- **What is gathered from an object is what is written in it.** -/
theorem gathered_iff (h : IsDocument entries text.toList) :
    (readDocument readMember text).bind gather = some config ↔ config.WrittenIn entries :=
  readDocument_bind_iff h (fun _ => gather_eq_some_iff h.values) fun hwritten =>
    exists_spelled fun field => ⟨config.value field, fun _ => (hwritten field).spells_of_mem⟩

/-- A configuration that is written is read, and then validated. -/
theorem ofText_of_written (h : IsDocument entries text.toList)
    (hwritten : config.WrittenIn entries) :
    ofText text = config.validate.map fun () => config := by
  rw [ofText, (gathered_iff h).mpr hwritten]

/-- Where no configuration is written, the text is an invalid argument. -/
theorem ofText_of_unwritten (h : IsDocument entries text.toList)
    (hnone : ∀ config : Config, ¬ config.WrittenIn entries) :
    ofText text = .error .invalidArgument := by
  have hgathered : (readDocument readMember text).bind gather = none :=
    Option.eq_none_iff_forall_ne_some.mpr fun config hsome =>
      hnone config ((gathered_iff h).mp hsome)
  rw [ofText, hgathered]

/-- **A configuration is read from an object just if it is written there and a driver can run
it.** -/
theorem ofText_eq_ok_iff (h : IsDocument entries text.toList) :
    ofText text = .ok config ↔ config.WrittenIn entries ∧ config.validate = .ok () := by
  constructor
  · intro hok
    by_cases hwritten : ∃ written : Config, written.WrittenIn entries
    · obtain ⟨written, hwritten⟩ := hwritten
      rw [ofText_of_written h hwritten] at hok
      cases hvalid : written.validate with
      | ok =>
        rw [hvalid] at hok
        cases hok
        exact ⟨hwritten, hvalid⟩
      | error fault =>
        rw [hvalid] at hok
        cases hok
    · rw [ofText_of_unwritten h (not_exists.mp hwritten)] at hok
      cases hok
  · rintro ⟨hwritten, hvalid⟩
    rw [ofText_of_written h hwritten, hvalid]
    rfl

end Config

end FieldLink.Serial
