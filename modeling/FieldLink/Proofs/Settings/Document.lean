/-
  FieldLink.Proofs.Settings.Document
  ────────────────────────────────
  **WHAT A JSON OBJECT LOOKS LIKE.**

  The grammar of texts that settings can be read from, without a word about
  how they are read.  It says which texts are values and how the members of
  an object are laid out, with blanks wherever two tokens meet:

      IsValue        — strings, numbers, truth values, null, arrays, objects
      Entry.text     — a member as it is written
      IsDocument     — an object and nothing else, with these members
      valuesAt       — the values that stand at a key

      mem_valuesAt   — a value stands at the key of its member
      IsValue.head   — a value begins neither with a blank nor a delimiter
-/
import Mathlib.Data.List.Basic
import FieldLink.Settings.Reader

namespace FieldLink.Settings

/-! ## §1. Blanks, strings and numbers. -/

/-- Any number of blanks. -/
def IsBlanks (text : List Char) : Prop := ∀ c ∈ text, c = ' ' ∨ c = '\n' ∨ c = '\t' ∨ c = '\r'

theorem isBlanks_nil : IsBlanks [] := fun _ hc => absurd hc List.not_mem_nil

/-- The content of a string as it stands between the quotes: a backslash guards the character
behind it.  Which characters can be guarded and which have to be is left open. -/
inductive IsContent : List Char → Prop where
  /-- Nothing. -/
  | nil : IsContent []
  /-- A character that stands for itself. -/
  | plain {c : Char} {content : List Char} (hquote : c ≠ '"') (hbackslash : c ≠ '\\')
      (hcontent : IsContent content) : IsContent (c :: content)
  /-- A character that is guarded. -/
  | guarded {c : Char} {content : List Char} (hcontent : IsContent content) :
      IsContent ('\\' :: c :: content)

/-- Without quotes and backslashes, all characters stand for themselves. -/
theorem isContent_of_notMem {content : List Char} (hquote : '"' ∉ content)
    (hbackslash : '\\' ∉ content) : IsContent content := by
  induction content with
  | nil => exact .nil
  | cons c content ih =>
    rw [List.mem_cons, not_or] at hquote hbackslash
    exact .plain (Ne.symm hquote.1) (Ne.symm hbackslash.1) (ih hquote.2 hbackslash.2)

/-- One digit or more. -/
def IsDigits (text : List Char) : Prop := text ≠ [] ∧ ∀ c ∈ text, c.isDigit = true

/-- A natural number: no zero in front of other digits. -/
def IsNatural (text : List Char) : Prop :=
  IsDigits text ∧ (text.head? = some '0' → text = ['0'])

/-- What may stand behind the whole part of a number. -/
inductive IsFraction : List Char → Prop where
  /-- Nothing. -/
  | none : IsFraction []
  /-- A point and digits. -/
  | digits {digits : List Char} (h : IsDigits digits) : IsFraction ('.' :: digits)

/-- What may stand behind that. -/
inductive IsExponent : List Char → Prop where
  /-- Nothing. -/
  | none : IsExponent []
  /-- A power of ten. -/
  | power {mark : Char} {sign digits : List Char} (hmark : mark = 'e' ∨ mark = 'E')
      (hsign : sign = [] ∨ sign = ['+'] ∨ sign = ['-']) (h : IsDigits digits) :
      IsExponent (mark :: (sign ++ digits))

/-- A number. -/
inductive IsNumber : List Char → Prop where
  /-- A number without a sign. -/
  | unsigned {whole fraction exponent : List Char} (hwhole : IsNatural whole)
      (hfraction : IsFraction fraction) (hexponent : IsExponent exponent) :
      IsNumber (whole ++ (fraction ++ exponent))
  /-- A number below zero. -/
  | negative {whole fraction exponent : List Char} (hwhole : IsNatural whole)
      (hfraction : IsFraction fraction) (hexponent : IsExponent exponent) :
      IsNumber ('-' :: (whole ++ (fraction ++ exponent)))

/-! ## §2. Values. -/

/-- An item of an array with the blanks around it. -/
structure Item where
  /-- Blanks in front. -/
  before : List Char
  /-- The value. -/
  value : List Char
  /-- Blanks behind it. -/
  behind : List Char

/-- A member of an object with the blanks around its parts. -/
structure Entry where
  /-- Blanks in front of the key. -/
  before : List Char
  /-- The content of the key. -/
  key : List Char
  /-- Blanks in front of the colon. -/
  beforeColon : List Char
  /-- Blanks in front of the value. -/
  beforeValue : List Char
  /-- The value. -/
  value : List Char
  /-- Blanks behind it. -/
  behind : List Char

/-- An item as it is written. -/
def Item.text (item : Item) : List Char := item.before ++ (item.value ++ item.behind)

/-- Only blanks are around the value. -/
structure Item.IsSpaced (item : Item) : Prop where
  before_blank : IsBlanks item.before
  behind_blank : IsBlanks item.behind

/-- A member as it is written. -/
def Entry.text (entry : Entry) : List Char :=
  entry.before ++ '"' :: (entry.key ++ '"' :: (entry.beforeColon ++ ':' :: (entry.beforeValue
    ++ (entry.value ++ entry.behind))))

/-- The key is the content of a string, and only blanks are around key, colon and value. -/
structure Entry.IsSpaced (entry : Entry) : Prop where
  before_blank : IsBlanks entry.before
  key_content : IsContent entry.key
  beforeColon_blank : IsBlanks entry.beforeColon
  beforeValue_blank : IsBlanks entry.beforeValue
  behind_blank : IsBlanks entry.behind

/-- Pieces with a comma between any two of them. -/
def commaSeparated (pieces : List (List Char)) : List Char := [','].intercalate pieces

/-- A truth value in letters. -/
def truthText (value : Bool) : List Char := if value then "true".toList else "false".toList

/-- A value. -/
inductive IsValue : List Char → Prop where
  /-- No value at all. -/
  | null : IsValue "null".toList
  /-- A truth value. -/
  | truth (value : Bool) : IsValue (truthText value)
  /-- A number. -/
  | number {text : List Char} (h : IsNumber text) : IsValue text
  /-- A string. -/
  | string {content : List Char} (h : IsContent content) : IsValue ('"' :: (content ++ ['"']))
  /-- An array without items. -/
  | emptyArray {blanks : List Char} (h : IsBlanks blanks) : IsValue ('[' :: (blanks ++ [']']))
  /-- An array with items. -/
  | array {items : List Item} (hne : items ≠ []) (hspaced : ∀ item ∈ items, item.IsSpaced)
      (hvalues : ∀ item ∈ items, IsValue item.value) :
      IsValue ('[' :: (commaSeparated (items.map Item.text) ++ [']']))
  /-- An object without members. -/
  | emptyObject {blanks : List Char} (h : IsBlanks blanks) : IsValue ('{' :: (blanks ++ ['}']))
  /-- An object with members. -/
  | object {entries : List Entry} (hne : entries ≠ []) (hspaced : ∀ entry ∈ entries, entry.IsSpaced)
      (hvalues : ∀ entry ∈ entries, IsValue entry.value) :
      IsValue ('{' :: (commaSeparated (entries.map Entry.text) ++ ['}']))

/-- A name as a value: in quotes, or as the only key of an object, with nothing as its value. -/
inductive IsNamed (name : List Char) : List Char → Prop where
  /-- The name in quotes. -/
  | quoted : IsNamed name ('"' :: (name ++ ['"']))
  /-- The name as a key. -/
  | key {entry : Entry} (hspaced : entry.IsSpaced) (hkey : entry.key = name)
      (hnull : entry.value = "null".toList) : IsNamed name ('{' :: (entry.text ++ ['}']))

/-! ## §3. Documents. -/

/-- A text that is one object with these members, and blanks around it. -/
inductive IsDocument : List Entry → List Char → Prop where
  /-- An object without members. -/
  | empty {before inside behind : List Char} (hbefore : IsBlanks before)
      (hinside : IsBlanks inside) (hbehind : IsBlanks behind) :
      IsDocument [] (before ++ '{' :: (inside ++ '}' :: behind))
  /-- An object with members. -/
  | object {entries : List Entry} {before behind : List Char} (hne : entries ≠ [])
      (hbefore : IsBlanks before) (hbehind : IsBlanks behind)
      (hspaced : ∀ entry ∈ entries, entry.IsSpaced)
      (hvalues : ∀ entry ∈ entries, IsValue entry.value) :
      IsDocument entries
        (before ++ '{' :: (commaSeparated (entries.map Entry.text) ++ '}' :: behind))

theorem IsDocument.values {entries : List Entry} {text : List Char} (h : IsDocument entries text) :
    ∀ entry ∈ entries, IsValue entry.value := by
  cases h with
  | empty => exact fun _ hentry => absurd hentry List.not_mem_nil
  | object _ _ _ _ hvalues => exact hvalues

/-- The values that stand at a key, in their order. -/
def valuesAt (key : List Char) (entries : List Entry) : List (List Char) :=
  entries.filterMap fun entry => if entry.key = key then some entry.value else none

/-- A value stands at the key of its member. -/
theorem mem_valuesAt {key value : List Char} {entries : List Entry} :
    value ∈ valuesAt key entries ↔ ∃ entry ∈ entries, entry.key = key ∧ entry.value = value := by
  simp [valuesAt, Option.ite_none_right_eq_some]

theorem commaSeparated_singleton (piece : List Char) : commaSeparated [piece] = piece :=
  List.intercalate_singleton

theorem commaSeparated_cons_cons (piece next : List Char) (pieces : List (List Char)) :
    commaSeparated (piece :: next :: pieces) = piece ++ ',' :: commaSeparated (next :: pieces) := by
  rw [commaSeparated, List.intercalate_cons_cons, List.append_assoc]
  rfl

/-! ## §4. First characters. -/

/-- A digit is neither a blank nor a delimiter. -/
theorem not_blank_of_isDigit {c : Char} (h : c.isDigit = true) :
    isBlank c = false ∧ isDelimiter c = false := by
  have hne : ∀ other : Char, other.isDigit = false → c ≠ other := by
    rintro other hother rfl
    cases h.symm.trans hother
  simp [isBlank, isDelimiter, hne]

theorem IsNatural.head {text : List Char} (h : IsNatural text) :
    ∃ c rest, text = c :: rest ∧ c.isDigit = true := by
  obtain ⟨⟨hne, hdigits⟩, -⟩ := h
  cases text with
  | nil => exact absurd rfl hne
  | cons c rest => exact ⟨c, rest, rfl, hdigits c List.mem_cons_self⟩

/-- What stands behind the whole part of a number begins with a point or a mark. -/
theorem fraction_head {fraction exponent : List Char} (hfraction : IsFraction fraction)
    (hexponent : IsExponent exponent) :
    fraction ++ exponent = [] ∨ ∃ c rest, fraction ++ exponent = c :: rest
      ∧ (c = '.' ∨ c = 'e' ∨ c = 'E') := by
  cases hfraction with
  | digits => exact .inr ⟨_, _, rfl, .inl rfl⟩
  | none =>
    cases hexponent with
    | none => exact .inl rfl
    | power hmark => exact .inr ⟨_, _, rfl, .inr hmark⟩

theorem IsDigits.not_delimiter {text : List Char} (h : IsDigits text) :
    ∀ c ∈ text, isDelimiter c = false := fun c hc => (not_blank_of_isDigit (h.2 c hc)).2

theorem IsFraction.not_delimiter {text : List Char} (h : IsFraction text) :
    ∀ c ∈ text, isDelimiter c = false := by
  cases h with
  | none => exact List.forall_mem_nil _
  | digits h => exact List.forall_mem_cons.mpr ⟨by decide, h.not_delimiter⟩

theorem IsExponent.not_delimiter {text : List Char} (h : IsExponent text) :
    ∀ c ∈ text, isDelimiter c = false := by
  cases h with
  | none => exact List.forall_mem_nil _
  | power hmark hsign h =>
    refine List.forall_mem_cons.mpr ⟨?_, List.forall_mem_append.mpr ⟨?_, h.not_delimiter⟩⟩
    · rcases hmark with rfl | rfl <;> decide
    · rcases hsign with rfl | rfl | rfl <;> simp [isDelimiter]

/-- There is no delimiter in a number. -/
theorem IsNumber.not_delimiter {text : List Char} (h : IsNumber text) :
    ∀ c ∈ text, isDelimiter c = false := by
  have hparts : ∀ {whole fraction exponent}, IsNatural whole → IsFraction fraction →
      IsExponent exponent → ∀ c ∈ whole ++ (fraction ++ exponent), isDelimiter c = false :=
    fun hwhole hfraction hexponent => List.forall_mem_append.mpr ⟨hwhole.1.not_delimiter,
      List.forall_mem_append.mpr ⟨hfraction.not_delimiter, hexponent.not_delimiter⟩⟩
  cases h with
  | unsigned hwhole hfraction hexponent => exact hparts hwhole hfraction hexponent
  | negative hwhole hfraction hexponent =>
    exact List.forall_mem_cons.mpr ⟨by decide, hparts hwhole hfraction hexponent⟩

/-- A number begins with a digit or a minus. -/
theorem IsNumber.head {text : List Char} (h : IsNumber text) :
    ∃ c rest, text = c :: rest ∧ (c.isDigit = true ∨ c = '-') := by
  cases h with
  | unsigned hwhole =>
    obtain ⟨c, rest, rfl, hdigit⟩ := hwhole.head
    exact ⟨c, _, rfl, .inl hdigit⟩
  | negative => exact ⟨'-', _, rfl, .inr rfl⟩

theorem IsNumber.ne_cons {text : List Char} (h : IsNumber text) {c : Char}
    (hdigit : c.isDigit = false) (hminus : c ≠ '-') (rest : List Char) : text ≠ c :: rest := by
  rintro rfl
  obtain ⟨c', rest', hcons, hhead⟩ := h.head
  cases hcons
  rcases hhead with hhead | hhead
  · cases hhead.symm.trans hdigit
  · exact hminus hhead

/-- **A value begins neither with a blank nor with a delimiter.** -/
theorem IsValue.head {value : List Char} (h : IsValue value) :
    ∃ c rest, value = c :: rest ∧ isBlank c = false ∧ isDelimiter c = false := by
  cases h with
  | null => exact ⟨'n', _, rfl, by decide⟩
  | truth value =>
    cases value with
    | false => exact ⟨'f', _, rfl, by decide⟩
    | true => exact ⟨'t', _, rfl, by decide⟩
  | number h =>
    obtain ⟨c, rest, rfl, hdigit | rfl⟩ := h.head
    · exact ⟨c, rest, rfl, not_blank_of_isDigit hdigit⟩
    · exact ⟨'-', rest, rfl, by decide⟩
  | string => exact ⟨'"', _, rfl, by decide⟩
  | emptyArray | array => exact ⟨'[', _, rfl, by decide⟩
  | emptyObject | object => exact ⟨'{', _, rfl, by decide⟩

/-! ## §5. What a value begins with tells what it is. -/

theorem IsValue.of_quote {rest : List Char} (h : IsValue ('"' :: rest)) :
    ∃ content, IsContent content ∧ rest = content ++ ['"'] := by
  generalize hvalue : '"' :: rest = value at h
  cases h with
  | string hcontent => exact ⟨_, hcontent, (List.cons.inj hvalue).2⟩
  | number h => exact absurd hvalue.symm (h.ne_cons (by decide) (by decide) rest)
  | truth value => cases value <;> cases hvalue
  | null | emptyArray | array | emptyObject | object => cases hvalue

theorem IsValue.of_brace {rest : List Char} (h : IsValue ('{' :: rest)) :
    (∃ blanks, IsBlanks blanks ∧ rest = blanks ++ ['}'])
      ∨ ∃ entries : List Entry, entries ≠ [] ∧ (∀ entry ∈ entries, entry.IsSpaced)
        ∧ (∀ entry ∈ entries, IsValue entry.value)
        ∧ rest = commaSeparated (entries.map Entry.text) ++ ['}'] := by
  generalize hvalue : '{' :: rest = value at h
  cases h with
  | emptyObject hblanks => exact .inl ⟨_, hblanks, (List.cons.inj hvalue).2⟩
  | object hne hspaced hvalues =>
    exact .inr ⟨_, hne, hspaced, hvalues, (List.cons.inj hvalue).2⟩
  | number h => exact absurd hvalue.symm (h.ne_cons (by decide) (by decide) rest)
  | truth value => cases value <;> cases hvalue
  | null | string | emptyArray | array => cases hvalue

theorem IsValue.of_digit {c : Char} {rest : List Char} (h : IsValue (c :: rest))
    (hdigit : c.isDigit = true) :
    ∃ whole fraction exponent, IsNatural whole ∧ IsFraction fraction ∧ IsExponent exponent
      ∧ c :: rest = whole ++ (fraction ++ exponent) := by
  generalize hvalue : c :: rest = value at h
  cases h with
  | number h =>
    cases h with
    | unsigned hwhole hfraction hexponent => exact ⟨_, _, _, hwhole, hfraction, hexponent, rfl⟩
    | negative =>
      cases hvalue
      exact absurd hdigit (by decide)
  | truth value => cases value <;> cases hvalue <;> exact absurd hdigit (by decide)
  | null | string | emptyArray | array | emptyObject | object =>
    cases hvalue
    exact absurd hdigit (by decide)

theorem IsValue.of_letter {c : Char} {rest : List Char} (h : IsValue (c :: rest))
    (hletter : c = 't' ∨ c = 'f') : ∃ truth, c :: rest = truthText truth := by
  have hdigit : c.isDigit = false ∧ c ≠ '-' := by
    rcases hletter with rfl | rfl <;> decide
  generalize hvalue : c :: rest = value at h
  cases h with
  | truth truth => exact ⟨truth, rfl⟩
  | number h => exact absurd hvalue.symm (h.ne_cons hdigit.1 hdigit.2 rest)
  | null | string | emptyArray | array | emptyObject | object =>
    cases hvalue
    rcases hletter with hletter | hletter <;> cases hletter

theorem IsValue.of_n {rest : List Char} (h : IsValue ('n' :: rest)) :
    'n' :: rest = "null".toList := by
  generalize hvalue : 'n' :: rest = value at h
  cases h with
  | null => rfl
  | number h => exact absurd hvalue.symm (h.ne_cons (by decide) (by decide) rest)
  | truth value => cases value <;> cases hvalue
  | string | emptyArray | array | emptyObject | object => cases hvalue

end FieldLink.Settings
