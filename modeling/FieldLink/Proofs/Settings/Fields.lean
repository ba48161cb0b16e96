/-
  FieldLink.Proofs.Settings.Fields
  ────────────────────────────────
  **THE FIELDS OF A SETTINGS RECORD.**

  A record is gathered field by field: what was read for a field has to be
  one value, or one at most if the field has a default.  What is read for a
  field is what stands at its key, so all that a record adds to this is how
  the values of its fields are spelled:

      Spelling             — which texts spell a value, and that the readers
                             of the fields understand them
      forall₂_valuesOf     — what was read for a field answers to the values
                             at its key, in order
      only_valuesOf_iff    — a required field is written once
      onlyOr_valuesOf_iff  — one with a default may also be left out
      readDocument_bind_iff — so what is gathered is what is written
-/
import FieldLink.Proofs.Settings.Object
import FieldLink.Settings.Record

namespace FieldLink.Settings

/-- How the values of a record's fields are spelled.  Every field is listed and has a key of its
own, and its reader understands its spellings. -/
class Spelling (Φ : Type) [Fields Φ] where
  /-- The text spells this value of the field. -/
  Spells : (field : Φ) → List Char → Fields.Value field → Prop
  mem_all : ∀ field : Φ, field ∈ Fields.all
  key_inj : ∀ field field' : Φ, Fields.key field = Fields.key field' → field = field'
  understands : ∀ field : Φ, Understands (Fields.read field) (Spells field)

section Spellings

variable {Φ : Type} [Fields Φ]

theorem readMember_of_ne {key : List Char} (h : ∀ field : Φ, Fields.key field ≠ key)
    (text : List Char) :
    readMember key text = (skipValue text).map fun found => ((none : Member Φ), found.2) := by
  have hnone : (Fields.all.find? fun other : Φ => Fields.key other = key) = none :=
    List.find?_eq_none.mpr fun other _ htrue => h other (of_decide_eq_true htrue)
  rw [readMember, hnone]

variable [Spelling Φ] {entries : List Entry} {members : List (Member Φ)}

/-- The value at the key spells the member.  At a key that no field has, every value is to be
ignored. -/
def Spelled (key value : List Char) : Member Φ → Prop
  | some given => Fields.key given.1 = key ∧ Spelling.Spells given.1 value given.2
  | none => ∀ field : Φ, Fields.key field ≠ key

theorem readMember_of_key (field : Φ) (text : List Char) :
    readMember (Fields.key field) text
      = (Fields.read field text).map fun found => (some ⟨field, found.1⟩, found.2) := by
  have hsome : (Fields.all.find? fun other : Φ => Fields.key other = Fields.key field).isSome :=
    List.find?_isSome.mpr ⟨field, Spelling.mem_all field, decide_eq_true_iff.mpr rfl⟩
  obtain ⟨found, hfound⟩ := Option.isSome_iff_exists.mp hsome
  have hkey : Fields.key found = Fields.key field := by
    simpa using List.find?_some hfound
  obtain rfl := Spelling.key_inj found field hkey
  rw [readMember, hfound]

/-- **The reader of members understands the spellings of every key.** -/
theorem understands_readMember (key : List Char) :
    Understands (readMember key) (Spelled key : List Char → Member Φ → Prop) := by
  by_cases hfield : ∃ field : Φ, Fields.key field = key
  · obtain ⟨field, rfl⟩ := hfield
    refine Understands.of_eq
      ((Spelling.understands field).map (f := fun x => some ⟨field, x⟩) ?_)
      (readMember_of_key field)
    rintro value (_ | ⟨other, x⟩)
    · exact ⟨fun hnone => absurd rfl (hnone field), nofun⟩
    · constructor
      · rintro ⟨hkey, hspells⟩
        obtain rfl := Spelling.key_inj other field hkey
        exact ⟨x, hspells, rfl⟩
      · rintro ⟨x, hspells, heq⟩
        cases heq
        exact ⟨rfl, hspells⟩
  · have hnone := not_exists.mp hfield
    refine Understands.of_eq (understands_skipValue.map (f := fun _ => none) ?_)
      (readMember_of_ne hnone)
    rintro value (_ | ⟨other, x⟩)
    · exact ⟨fun _ => ⟨(), trivial, rfl⟩, fun _ => hnone⟩
    · exact ⟨fun hspelled => absurd hspelled.1 (hnone other), nofun⟩

/-! ## §1. What is written. -/

/-- One value stands at the key of a field, and it spells this value of the field. -/
def WrittenOnce (entries : List Entry) (field : Φ) (x : Fields.Value field) : Prop :=
  ∃ value, valuesAt (Fields.key field) entries = [value] ∧ Spelling.Spells field value x

/-- A value that stands where only one does is that one. -/
theorem WrittenOnce.spells_of_mem {field : Φ} {x : Fields.Value field}
    (h : WrittenOnce entries field x) {entry : Entry} (hentry : entry ∈ entries)
    (hkey : Fields.key field = entry.key) : Spelling.Spells field entry.value x := by
  obtain ⟨value, hvalues, hspells⟩ := h
  have hmem := mem_valuesAt.mpr ⟨entry, hentry, hkey.symm, rfl⟩
  rw [hvalues, List.mem_singleton] at hmem
  rwa [hmem]

theorem WrittenOnce.length_valuesAt {field : Φ} {x : Fields.Value field}
    (h : WrittenOnce entries field x) : (valuesAt (Fields.key field) entries).length = 1 := by
  obtain ⟨value, hvalues, -⟩ := h
  rw [hvalues, List.length_singleton]

/-- Nothing stands at the key of a field and the default is meant, or one value that spells what is
meant. -/
def WrittenOrDefault (entries : List Entry) (field : Φ) (default x : Fields.Value field) : Prop :=
  (valuesAt (Fields.key field) entries = [] ∧ x = default) ∨ WrittenOnce entries field x

theorem WrittenOrDefault.spells_of_mem {field : Φ} {default x : Fields.Value field}
    (h : WrittenOrDefault entries field default x) {entry : Entry} (hentry : entry ∈ entries)
    (hkey : Fields.key field = entry.key) : Spelling.Spells field entry.value x := by
  rcases h with ⟨hnil, -⟩ | hwritten
  · have hmem := mem_valuesAt.mpr ⟨entry, hentry, hkey.symm, rfl⟩
    rw [hnil] at hmem
    cases hmem
  · exact hwritten.spells_of_mem hentry hkey

theorem WrittenOrDefault.length_valuesAt {field : Φ} {default x : Fields.Value field}
    (h : WrittenOrDefault entries field default x) :
    (valuesAt (Fields.key field) entries).length ≤ 1 := by
  rcases h with ⟨hnil, -⟩ | hwritten
  · rw [hnil]
    exact Nat.zero_le 1
  · exact Nat.le_of_eq hwritten.length_valuesAt

/-- If a value at the key of a field always spells one of the field, every member spells something:
a value of its field, or what is to be ignored. -/
theorem exists_spelled
    (h : ∀ field : Φ, ∃ x, ∀ entry ∈ entries, Fields.key field = entry.key →
      Spelling.Spells field entry.value x) :
    ∀ entry ∈ entries, ∃ member : Member Φ, Spelled entry.key entry.value member := by
  intro entry hentry
  by_cases hfield : ∃ field : Φ, Fields.key field = entry.key
  · obtain ⟨field, hkey⟩ := hfield
    obtain ⟨x, hspells⟩ := h field
    exact ⟨some ⟨field, x⟩, hkey, hspells entry hentry hkey⟩
  · exact ⟨none, not_exists.mp hfield⟩

/-! ## §2. What is gathered. -/

theorem only_eq_some_iff {α : Type} {xs : List α} {x : α} : only xs = some x ↔ xs = [x] := by
  match xs with
  | [] | _ :: _ :: _ => simp [only]
  | [_] => simp [only]

theorem onlyOr_eq_some_iff {α : Type} {default : α} {xs : List α} {x : α} :
    onlyOr default xs = some x ↔ (xs = [] ∧ x = default) ∨ xs = [x] := by
  match xs with
  | [] => simp [onlyOr, eq_comm]
  | [_] | _ :: _ :: _ => simp [onlyOr]

variable [DecidableEq Φ]
  (hspelled : List.Forall₂ (fun (entry : Entry) member => Spelled entry.key entry.value member)
    entries members)

include hspelled

/-- **What was read for a field answers to the values at its key**, one by one. -/
theorem forall₂_valuesOf (field : Φ) :
    List.Forall₂ (Spelling.Spells field) (valuesAt (Fields.key field) entries)
      (valuesOf field members) := by
  refine List.rel_filterMap (fun entry member hmember => ?_) hspelled
  cases member with
  | none =>
    rw [if_neg (Ne.symm (hmember field))]
    exact .none
  | some given =>
    obtain ⟨other, x⟩ := given
    obtain ⟨hkey, hspells⟩ := hmember
    by_cases hother : other = field
    · subst hother
      rw [if_pos hkey.symm]
      show Option.Rel _ _ (dite _ _ _)
      rw [dif_pos rfl]
      exact .some hspells
    · rw [if_neg fun heq => hother (Spelling.key_inj other field (hkey.trans heq))]
      show Option.Rel _ _ (dite _ _ _)
      rw [dif_neg hother]
      exact .none

variable (hvalues : ∀ entry ∈ entries, IsValue entry.value)

include hvalues

theorem valuesOf_eq_singleton_iff (field : Φ) (x : Fields.Value field) :
    valuesOf field members = [x] ↔ WrittenOnce entries field x := by
  have hread := forall₂_valuesOf hspelled field
  constructor
  · intro hsingle
    rw [hsingle] at hread
    obtain ⟨value, rest, hvalue, hrest, heq⟩ := List.forall₂_cons_right_iff.mp hread
    rw [List.forall₂_nil_right_iff.mp hrest] at heq
    exact ⟨value, heq, hvalue⟩
  · rintro ⟨value, heq, hvalue⟩
    rw [heq] at hread
    obtain ⟨y, rest, hy, hrest, hgiven⟩ := List.forall₂_cons_left_iff.mp hread
    rw [List.forall₂_nil_left_iff.mp hrest] at hgiven
    -- both results are spelled by the one value that stands there
    obtain ⟨entry, hentry, -, rfl⟩ := mem_valuesAt.mp (heq ▸ List.mem_singleton_self value)
    rw [hgiven, (Spelling.understands field).unique (hvalues entry hentry) hy hvalue]

/-- **A required field is gathered just if it is written once.** -/
theorem only_valuesOf_iff (field : Φ) (x : Fields.Value field) :
    only (valuesOf field members) = some x ↔ WrittenOnce entries field x :=
  only_eq_some_iff.trans (valuesOf_eq_singleton_iff hspelled hvalues field x)

/-- **A field with a default is gathered just if it is written once or left out.** -/
theorem onlyOr_valuesOf_iff (field : Φ) (default x : Fields.Value field) :
    onlyOr default (valuesOf field members) = some x
      ↔ WrittenOrDefault entries field default x := by
  have hnil : valuesOf field members = [] ↔ valuesAt (Fields.key field) entries = [] := by
    rw [← List.length_eq_zero_iff, ← List.length_eq_zero_iff,
      (forall₂_valuesOf hspelled field).length_eq]
  rw [WrittenOrDefault, onlyOr_eq_some_iff, valuesOf_eq_singleton_iff hspelled hvalues, hnil]

end Spellings

/-- **What is gathered from an object is what is written in it**, for any record whose fields are
gathered from what they are spelled by, and all of whose members spell something where it is
written. -/
theorem readDocument_bind_iff {Φ γ : Type} [Fields Φ] [Spelling Φ] {entries : List Entry}
    {text : String} (h : IsDocument entries text.toList) {gather : List (Member Φ) → Option γ}
    {result : γ} {written : Prop}
    (hgather : ∀ members : List (Member Φ), List.Forall₂ (fun (entry : Entry) member =>
      Spelled entry.key entry.value member) entries members →
        (gather members = some result ↔ written))
    (hspelled : written →
      ∀ entry ∈ entries, ∃ member : Member Φ, Spelled entry.key entry.value member) :
    (readDocument readMember text).bind gather = some result ↔ written := by
  rw [Option.bind_eq_some_iff]
  constructor
  · rintro ⟨members, hread, hgathered⟩
    have hall := (readDocument_eq_some_iff understands_readMember h members).mp hread
    exact (hgather members hall).mp hgathered
  · intro hwritten
    obtain ⟨members, hall⟩ := exists_forall₂ (hspelled hwritten)
    exact ⟨members, (readDocument_eq_some_iff understands_readMember h members).mpr hall,
      (hgather members hall).mpr hwritten⟩

end FieldLink.Settings
