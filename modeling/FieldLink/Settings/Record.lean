/-
  FieldLink.Settings.Record
  ────────────────────────────────
  **RECORDS OF SETTINGS.**

  Settings are records.  Which fields a record has, at which key each of
  them stands and how its value is read is what `Fields` says of it; the
  rest is the same for every record.  A member of an object is the value of
  a field, or it stands at a key that no field has and is ignored.  What
  was read for a field decides whether the record can be made:

      readMember  — the member of a key
      valuesOf    — what was read for a field, in order
      only        — a field that is required, and may not stand twice
      onlyOr      — a field with a default, which may not stand twice either
-/
import FieldLink.Settings.Reader

namespace FieldLink.Settings

/-- The fields of a record of settings. -/
class Fields (Φ : Type) where
  /-- All of them. -/
  all : List Φ
  /-- The key that a field stands at. -/
  key : Φ → List Char
  /-- What the values of a field are. -/
  Value : Φ → Type
  /-- The reader of these values. -/
  read : (field : Φ) → List Char → Option (Value field × List Char)

/-- A member of an object: the value of a field, or nothing at a key that no field has. -/
abbrev Member (Φ : Type) [Fields Φ] : Type := Option ((field : Φ) × Fields.Value field)

variable {Φ : Type} [Fields Φ]

/-- The member of a key. -/
def readMember (key text : List Char) : Option (Member Φ × List Char) :=
  match Fields.all.find? fun field : Φ => Fields.key field = key with
  | some field => (Fields.read field text).map fun (value, rest) => (some ⟨field, value⟩, rest)
  | none => (skipValue text).map fun (_, rest) => (none, rest)

/-- The value of a field in a member, if the member is of that field. -/
def Member.value? [DecidableEq Φ] (field : Φ) (member : Member Φ) : Option (Fields.Value field) :=
  member.bind fun given => if h : given.1 = field then some (h ▸ given.2) else none

/-- What the members have for a field, in their order. -/
def valuesOf [DecidableEq Φ] (field : Φ) (members : List (Member Φ)) : List (Fields.Value field) :=
  members.filterMap (Member.value? field)

/-- The only value in a list. -/
def only {α : Type} : List α → Option α
  | [value] => some value
  | _ => none

/-- The only value in a list, or a default if there is none. -/
def onlyOr {α : Type} (default : α) : List α → Option α
  | [] => some default
  | [value] => some value
  | _ => none

end FieldLink.Settings
