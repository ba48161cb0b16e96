/-
  FieldLink.Proofs.Mqtt.Options
  ────────────────────────────────
  **CLIENT OPTIONS IN AN OBJECT.**

  Options are written in an object if the identifier stands there once, as
  a string, and each of the other two once, or not at all and is then the
  default.  The identifier is what stands between the quotes, as it is:

      Field.Spells              — which texts spell a value of which field
      Options.WrittenIn         — the identifier is there, the others may be
      Options.gathered_iff      — what is gathered is what is written
      Options.ofText_eq_ok_iff  — read are the options that are written
-/
import FieldLink.Mqtt.Options
import FieldLink.Proofs.Settings.Fields

namespace FieldLink.Mqtt.Options

open Settings

/-! ## §1. Spellings. -/

namespace Field

/-- The text spells this value of the field. -/
def Spells : (field : Field) → List Char → field.Value → Prop
  | clientId, text, content => text = '"' :: (content ++ ['"'])
  | keepAliveSeconds, text, n => text = Nat.toDigits 10 n.toNat
  | cleanSession, text, truth => text = truthText truth

/-- The reader of a field understands its spellings. -/
theorem understands : (field : Field) → Understands field.read field.Spells
  | clientId => understands_readString
  | keepAliveSeconds => understands_readWord16
  | cleanSession => understands_readTruth

instance : Spelling Field where
  Spells := Spells
  mem_all := by
    intro field
    cases field <;> decide
  key_inj := by
    intro field field'
    cases field <;> cases field' <;> decide
  understands := understands

end Field

/-! ## §2. Options. -/

/-- The identifier stands once among the members of an object, and each of the other members once,
unless it is left out and is the default. -/
structure WrittenIn (options : Options) (entries : List Entry) : Prop where
  clientId : WrittenOnce entries Field.clientId options.clientId.toList
  keepAliveSeconds : WrittenOrDefault entries Field.keepAliveSeconds defaultKeepAliveSeconds
    options.keepAliveSeconds
  cleanSession : WrittenOrDefault entries Field.cleanSession true options.cleanSession

variable {options : Options} {entries : List Entry} {text : String}

theorem WrittenIn.length_valuesAt (h : options.WrittenIn entries) (field : Field) :
    (valuesAt field.key entries).length ≤ 1 := by
  cases field with
  | clientId => exact Nat.le_of_eq h.clientId.length_valuesAt
  | keepAliveSeconds => exact h.keepAliveSeconds.length_valuesAt
  | cleanSession => exact h.cleanSession.length_valuesAt

/-- The value of a field. -/
def value (options : Options) : (field : Field) → field.Value
  | .clientId => options.clientId.toList
  | .keepAliveSeconds => options.keepAliveSeconds
  | .cleanSession => options.cleanSession

theorem WrittenIn.spells_of_mem (h : options.WrittenIn entries) (field : Field) :
    ∀ entry ∈ entries, field.key = entry.key → field.Spells entry.value (options.value field) := by
  intro entry hentry hkey
  cases field with
  | clientId => exact h.clientId.spells_of_mem hentry hkey
  | keepAliveSeconds => exact h.keepAliveSeconds.spells_of_mem hentry hkey
  | cleanSession => exact h.cleanSession.spells_of_mem hentry hkey

theorem gather_eq_some_iff {members : List (Member Field)}
    (hvalues : ∀ entry ∈ entries, IsValue entry.value)
    (hspelled : List.Forall₂ (fun (entry : Entry) member => Spelled entry.key entry.value member)
      entries members) :
    gather members = some options ↔ options.WrittenIn entries := by
  have hclient := only_valuesOf_iff hspelled hvalues Field.clientId
  have halive := onlyOr_valuesOf_iff hspelled hvalues Field.keepAliveSeconds defaultKeepAliveSeconds
  have hclean := onlyOr_valuesOf_iff hspelled hvalues Field.cleanSession true
  unfold gather
  simp only [Option.bind_eq_bind, Option.bind_eq_some_iff]
  constructor
  · rintro ⟨content, hcontent, n, hn, truth, htruth, heq⟩
    cases heq
    refine ⟨(hclient _).mp (hcontent.trans ?_), (halive n).mp hn, (hclean truth).mp htruth⟩
    rw [String.toList_ofList]
  · rintro ⟨hcontent, hn, htruth⟩
    refine ⟨_, (hclient _).mpr hcontent, _, (halive _).mpr hn, _, (hclean _).mpr htruth, ?_⟩
    rw [String.ofList_toList]
    rfl

/-- **What is gathered from an object is what is written in it.** -/
theorem gathered_iff (h : IsDocument entries text.toList) :
    (readDocument readMember text).bind gather = some options ↔ options.WrittenIn entries :=
  readDocument_bind_iff h (fun _ => gather_eq_some_iff h.values) fun hwritten =>
    exists_spelled fun field => ⟨options.value field, hwritten.spells_of_mem field⟩

/-- Where no options are written, the text is an invalid argument. -/
theorem ofText_of_unwritten (h : IsDocument entries text.toList)
    (hnone : ∀ options : Options, ¬ options.WrittenIn entries) :
    ofText text = .error .invalidArgument := by
  have hgathered : (readDocument readMember text).bind gather = none :=
    Option.eq_none_iff_forall_ne_some.mpr fun options hsome =>
      hnone options ((gathered_iff h).mp hsome)
  rw [ofText, hgathered]

/-- **Options are read from an object just if they are written there.** -/
theorem ofText_eq_ok_iff (h : IsDocument entries text.toList) :
    ofText text = .ok options ↔ options.WrittenIn entries := by
  rw [← gathered_iff h, ofText]
  cases (readDocument readMember text).bind gather with
  | none => simp
  | some gathered => simp

end FieldLink.Mqtt.Options
