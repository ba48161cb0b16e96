/-
  FieldLink.Proofs.Settings.Object
  ────────────────────────────────
  **READING THE MEMBERS OF AN OBJECT.**

  The members of an object are read one after another, each by the reader
  of its key.  If all these readers read their values to the end, the
  object is read; if one of them refuses, so is the object.  Values of keys
  that nobody knows are skipped, whatever they are, however deep they nest:

      readMembers_of_reads      — every member is read, so are all of them
      readMembers_of_refuses    — one value is refused, so is the object
      reads_skipValueWithin     — every value is skipped, with fuel enough
      understands_skipValue     — and its own length is fuel enough
      readDocument_eq_some_iff  — a document is read just if every member
                                  spells what its key asks for
-/
import Mathlib.Data.List.Forall2
import FieldLink.Proofs.Settings.Value

namespace FieldLink.Settings

/-! ## §1. Pieces between commas. -/

/-- What stands behind a piece: the other pieces, behind a comma, and what comes behind them. -/
def continued (pieces : List (List Char)) (behind : List Char) : List Char :=
  match pieces with
  | [] => behind
  | piece :: pieces => ',' :: (commaSeparated (piece :: pieces) ++ behind)

theorem commaSeparated_append (piece : List Char) (pieces : List (List Char)) (behind : List Char) :
    commaSeparated (piece :: pieces) ++ behind = piece ++ continued pieces behind := by
  cases pieces with
  | nil => rw [commaSeparated_singleton, continued]
  | cons next pieces =>
    rw [commaSeparated_cons_cons, List.append_assoc, continued]
    rfl

theorem continued_cons (piece : List Char) (pieces : List (List Char)) (behind : List Char) :
    continued (piece :: pieces) behind = ',' :: (piece ++ continued pieces behind) := by
  rw [continued, commaSeparated_append]

/-- No piece is longer than all of them together. -/
theorem length_le_commaSeparated {piece : List Char} {pieces : List (List Char)}
    (h : piece ∈ pieces) : piece.length ≤ (commaSeparated pieces).length := by
  induction pieces with
  | nil => cases h
  | cons first pieces ih =>
    have hlength := congrArg List.length (commaSeparated_append first pieces [])
    rw [List.append_nil, List.length_append] at hlength
    cases pieces with
    | nil =>
      rw [List.mem_singleton.mp h]
      omega
    | cons next pieces =>
      rw [continued_cons, ← commaSeparated_append, List.length_cons, List.append_nil] at hlength
      rcases List.mem_cons.mp h with rfl | hmem
      · omega
      · have hle := ih hmem
        omega

/-- If no piece is empty, there are no more pieces than characters. -/
theorem length_pieces_le {pieces : List (List Char)} (h : ∀ piece ∈ pieces, piece ≠ []) :
    pieces.length ≤ (commaSeparated pieces).length := by
  induction pieces with
  | nil => exact Nat.zero_le _
  | cons first pieces ih =>
    have hfirst := List.length_pos_iff.mpr (h first List.mem_cons_self)
    have hlength := congrArg List.length (commaSeparated_append first pieces [])
    rw [List.append_nil, List.length_append] at hlength
    cases pieces with
    | nil =>
      rw [List.length_singleton]
      omega
    | cons next pieces =>
      rw [continued_cons, ← commaSeparated_append, List.length_cons, List.append_nil] at hlength
      have hle := ih fun piece hpiece => h piece (List.mem_cons_of_mem _ hpiece)
      rw [List.length_cons]
      omega

/-- A member is longer than its value. -/
theorem Entry.length_value_lt (entry : Entry) : entry.value.length < entry.text.length := by
  simp only [Entry.text, List.length_append, List.length_cons]
  omega

/-- An object has no more members than characters. -/
theorem length_entries_le (entries : List Entry) :
    entries.length ≤ (commaSeparated (entries.map Entry.text)).length := by
  rw [← List.length_map Entry.text]
  refine length_pieces_le fun piece hpiece hnil => ?_
  obtain ⟨entry, -, rfl⟩ := List.mem_map.mp hpiece
  have hlt := entry.length_value_lt
  rw [hnil] at hlt
  exact Nat.not_lt_zero _ hlt

theorem not_blank_of_isDelimiter {c : Char} (h : isDelimiter c = true) : isBlank c = false := by
  simp only [isDelimiter, Bool.or_eq_true, decide_eq_true_eq] at h
  rcases h with (rfl | rfl) | rfl <;> decide

theorem skipBlanks_continued {gap : List Char} (hgap : IsBlanks gap) {close : Char}
    (hclose : isDelimiter close = true) (pieces : List (List Char)) (behind : List Char) :
    skipBlanks (gap ++ continued pieces (close :: behind)) = continued pieces (close :: behind) := by
  cases pieces with
  | nil => exact skipBlanks_gap hgap (not_blank_of_isDelimiter hclose) behind
  | cons piece pieces => exact skipBlanks_gap hgap (by decide) _

/-- Behind a piece comes a delimiter: a comma or the closing one. -/
theorem closes_continued {gap : List Char} (hgap : IsBlanks gap) {close : Char}
    (hclose : isDelimiter close = true) (pieces : List (List Char)) (behind : List Char) :
    Closes (gap ++ continued pieces (close :: behind)) := by
  have hskip := skipBlanks_continued hgap hclose pieces behind
  cases pieces with
  | nil => exact ⟨close, behind, hskip, hclose⟩
  | cons piece pieces => exact ⟨',', _, hskip, by decide⟩

/-! ## §2. Members. -/

section Members

variable {α : Type} {value : List Char → List Char → Option (α × List Char)}

/-- One member, and then what its delimiter asks for. -/
theorem readMembers_entry {entry : Entry} (hspaced : entry.IsSpaced) (fuel : Nat)
    (rest : List Char) :
    readMembers value (fuel + 1) (entry.text ++ rest)
      = (value entry.key (entry.beforeValue ++ (entry.value ++ (entry.behind ++ rest)))).bind
        fun (member, rest) =>
          match skipBlanks rest with
          | ',' :: rest => (readMembers value fuel rest).bind fun (members, rest) =>
            some (member :: members, rest)
          | '}' :: rest => some ([member], rest)
          | _ => none := by
  rw [readMembers]
  simp only [Entry.readString_text hspaced, Entry.readMark_colon hspaced, Option.bind_eq_bind,
    Option.bind_some]
  rfl

/-- The last member: the closing brace comes behind it. -/
theorem readMembers_last {entry : Entry} {member : α} (hspaced : entry.IsSpaced)
    (h : Reads (value entry.key) entry.value member) (fuel : Nat) (behind : List Char) :
    readMembers value (fuel + 1) (entry.text ++ '}' :: behind) = some ([member], behind) := by
  have hskip : skipBlanks (entry.behind ++ '}' :: behind) = '}' :: behind :=
    skipBlanks_gap hspaced.behind_blank (by decide) behind
  obtain ⟨rest, hread, hrest⟩ := h entry.beforeValue (entry.behind ++ '}' :: behind)
    hspaced.beforeValue_blank ⟨'}', behind, hskip, by decide⟩
  rw [readMembers_entry hspaced, hread]
  simp only [Option.bind_some, hrest, hskip]

/-- Another member: a comma comes behind it. -/
theorem readMembers_next {entry : Entry} {member : α} (hspaced : entry.IsSpaced)
    (h : Reads (value entry.key) entry.value member) (fuel : Nat) (behind : List Char) :
    readMembers value (fuel + 1) (entry.text ++ ',' :: behind)
      = (readMembers value fuel behind).bind fun (members, rest) =>
        some (member :: members, rest) := by
  have hskip : skipBlanks (entry.behind ++ ',' :: behind) = ',' :: behind :=
    skipBlanks_gap hspaced.behind_blank (by decide) behind
  obtain ⟨rest, hread, hrest⟩ := h entry.beforeValue (entry.behind ++ ',' :: behind)
    hspaced.beforeValue_blank ⟨',', behind, hskip, by decide⟩
  rw [readMembers_entry hspaced, hread]
  simp only [Option.bind_some, hrest, hskip]

/-- A member with a value that is refused. -/
theorem readMembers_refused {entry : Entry} (hspaced : entry.IsSpaced)
    (h : Refuses (value entry.key) entry.value) (fuel : Nat) {behind : List Char}
    (hbehind : Closes (entry.behind ++ behind)) :
    readMembers value (fuel + 1) (entry.text ++ behind) = none := by
  rw [readMembers_entry hspaced]
  cases hread : value entry.key (entry.beforeValue ++ (entry.value ++ (entry.behind ++ behind))) with
  | none => rfl
  | some outcome =>
    obtain ⟨member, rest⟩ := outcome
    have hopen := h _ _ member rest hspaced.beforeValue_blank hbehind hread
    dsimp only [Option.bind_some]
    split
    · next hskip => exact absurd ⟨',', _, hskip, by decide⟩ hopen
    · next hskip => exact absurd ⟨'}', _, hskip, by decide⟩ hopen
    · rfl

/-- **If every value is read, so are the members.** -/
theorem readMembers_of_reads {entries : List Entry} {members : List α} (hne : entries ≠ [])
    (hspaced : ∀ entry ∈ entries, entry.IsSpaced)
    (h : List.Forall₂ (fun entry member => Reads (value entry.key) entry.value member)
      entries members) {fuel : Nat} (hfuel : entries.length ≤ fuel) (behind : List Char) :
    readMembers value fuel (commaSeparated (entries.map Entry.text) ++ '}' :: behind)
      = some (members, behind) := by
  induction h generalizing fuel with
  | nil => exact absurd rfl hne
  | @cons entry member entries members hread hrest ih =>
    obtain ⟨fuel, rfl⟩ : ∃ less, fuel = less + 1 :=
      ⟨fuel - 1, by rw [List.length_cons] at hfuel; omega⟩
    have hfirst := hspaced entry List.mem_cons_self
    rw [List.map_cons, commaSeparated_append]
    cases hrest with
    | nil => exact readMembers_last hfirst hread fuel behind
    | cons =>
      rw [List.map_cons, continued, readMembers_next hfirst hread, ← List.map_cons,
        ih (List.cons_ne_nil _ _) (fun other hother => hspaced other (List.mem_cons_of_mem _ hother))
          (by rw [List.length_cons] at hfuel; omega)]
      rfl

/-- **If a value is refused, so are the members.** -/
theorem readMembers_of_refuses {entries : List Entry}
    (hspaced : ∀ entry ∈ entries, entry.IsSpaced)
    (hall : ∀ entry ∈ entries, (∃ member, Reads (value entry.key) entry.value member)
      ∨ Refuses (value entry.key) entry.value)
    (h : ∃ entry ∈ entries, Refuses (value entry.key) entry.value) (fuel : Nat)
    (behind : List Char) :
    readMembers value fuel (commaSeparated (entries.map Entry.text) ++ '}' :: behind) = none := by
  induction entries generalizing fuel with
  | nil =>
    obtain ⟨entry, hmem, -⟩ := h
    cases hmem
  | cons entry entries ih =>
    cases fuel with
    | zero => rfl
    | succ fuel =>
      have hfirst := hspaced entry List.mem_cons_self
      rw [List.map_cons, commaSeparated_append]
      rcases hall entry List.mem_cons_self with ⟨member, hread⟩ | hrefused
      · -- this one is read, so the refused one comes later
        obtain ⟨refused, hmem, hrefused⟩ := h
        rcases List.mem_cons.mp hmem with rfl | hlater
        · exact absurd hrefused hread.not_refuses
        · have hrest := ih (fun other hother => hspaced other (List.mem_cons_of_mem _ hother))
            (fun other hother => hall other (List.mem_cons_of_mem _ hother))
            ⟨refused, hlater, hrefused⟩ fuel
          cases entries with
          | nil => cases hlater
          | cons next entries =>
            rw [List.map_cons, continued, readMembers_next hfirst hread, ← List.map_cons, hrest]
            rfl
      · exact readMembers_refused hfirst hrefused fuel
          (closes_continued hfirst.behind_blank (by decide) _ behind)

end Members

/-! ## §3. Items. -/

section Items

variable {α : Type} {reader : List Char → Option (α × List Char)} {text rest : List Char}

theorem readItems_close (h : skipBlanks text = ']' :: rest) (fuel : Nat) (bareAllowed : Bool) :
    readItems reader (fuel + 1) bareAllowed text = some ([], rest) := by
  simp only [readItems, h]

theorem readItems_comma (h : skipBlanks text = ',' :: rest) (fuel : Nat) (bareAllowed : Bool) :
    readItems reader (fuel + 1) bareAllowed text
      = (reader rest).bind fun (value, rest) =>
        (readItems reader fuel bareAllowed rest).bind fun (values, rest) =>
          some (value :: values, rest) := by
  simp only [readItems, h]
  rfl

/-- The first item stands behind no comma. -/
theorem readItems_bare {c : Char} (h : skipBlanks text = c :: rest) (hc : isDelimiter c = false)
    (fuel : Nat) :
    readItems reader (fuel + 1) true text
      = (reader (c :: rest)).bind fun (value, rest) =>
        (readItems reader fuel false rest).bind fun (values, rest) =>
          some (value :: values, rest) := by
  rw [readItems, h]
  split
  · next hbracket =>
    cases hbracket
    cases hc
  · next hcomma =>
    cases hcomma
    cases hc
  · rfl

/-- All items but the first one, each behind its comma. -/
theorem readItems_continued {items : List Item} (hspaced : ∀ item ∈ items, item.IsSpaced)
    (hreads : ∀ item ∈ items, ∃ result, Reads reader item.value result) {behind : List Char}
    (htext : skipBlanks text = continued (items.map Item.text) (']' :: behind)) {fuel : Nat}
    (hfuel : items.length < fuel) :
    ∃ values, readItems reader fuel false text = some (values, behind) := by
  obtain ⟨fuel, rfl⟩ : ∃ less, fuel = less + 1 := ⟨fuel - 1, by omega⟩
  induction items generalizing text fuel with
  | nil => exact ⟨[], readItems_close htext fuel false⟩
  | cons item items ih =>
    have hitem := hspaced item List.mem_cons_self
    obtain ⟨result, hresult⟩ := hreads item List.mem_cons_self
    obtain ⟨rest, hread, hrest⟩ := hresult item.before
      (item.behind ++ continued (items.map Item.text) (']' :: behind)) hitem.before_blank
      (closes_continued hitem.behind_blank (by decide) _ behind)
    rw [List.length_cons] at hfuel
    obtain ⟨less, rfl⟩ : ∃ less, fuel = less + 1 := ⟨fuel - 1, by omega⟩
    obtain ⟨values, hvalues⟩ := ih
      (fun other hother => hspaced other (List.mem_cons_of_mem _ hother))
      (fun other hother => hreads other (List.mem_cons_of_mem _ hother))
      (hrest.trans (skipBlanks_continued hitem.behind_blank (by decide) _ behind)) less (by omega)
    have hpiece : item.text ++ continued (items.map Item.text) (']' :: behind)
        = item.before ++ (item.value
          ++ (item.behind ++ continued (items.map Item.text) (']' :: behind))) := by
      rw [Item.text, List.append_assoc, List.append_assoc]
    rw [List.map_cons, continued_cons, hpiece] at htext
    refine ⟨result :: values, ?_⟩
    rw [readItems_comma htext, hread]
    simp only [Option.bind_some, hvalues]

/-- **If every item is read, so is the array.** -/
theorem readItems_of_reads {items : List Item} (hne : items ≠ [])
    (hspaced : ∀ item ∈ items, item.IsSpaced) (hvalues : ∀ item ∈ items, IsValue item.value)
    (hreads : ∀ item ∈ items, ∃ result, Reads reader item.value result) {fuel : Nat}
    (hfuel : items.length < fuel) (behind : List Char) :
    ∃ values, readItems reader fuel true
        (commaSeparated (items.map Item.text) ++ ']' :: behind) = some (values, behind) := by
  obtain ⟨fuel, rfl⟩ : ∃ less, fuel = less + 1 := ⟨fuel - 1, by omega⟩
  cases items with
  | nil => exact absurd rfl hne
  | cons item items =>
    have hitem := hspaced item List.mem_cons_self
    obtain ⟨c, letters, hcons, hblank, hdelimiter⟩ := (hvalues item List.mem_cons_self).head
    obtain ⟨result, hresult⟩ := hreads item List.mem_cons_self
    obtain ⟨rest, hread, hrest⟩ := hresult []
      (item.behind ++ continued (items.map Item.text) (']' :: behind))
      isBlanks_nil (closes_continued hitem.behind_blank (by decide) _ behind)
    rw [List.length_cons] at hfuel
    obtain ⟨values, hothers⟩ := readItems_continued
      (fun other hother => hspaced other (List.mem_cons_of_mem _ hother))
      (fun other hother => hreads other (List.mem_cons_of_mem _ hother))
      (hrest.trans (skipBlanks_continued hitem.behind_blank (by decide) _ behind))
      (show items.length < fuel by omega)
    have hskip : skipBlanks (commaSeparated ((item :: items).map Item.text) ++ ']' :: behind)
        = c :: (letters ++ (item.behind ++ continued (items.map Item.text) (']' :: behind))) := by
      rw [List.map_cons, commaSeparated_append, Item.text, List.append_assoc, List.append_assoc,
        hcons]
      exact skipBlanks_gap hitem.before_blank hblank _
    refine ⟨result :: values, ?_⟩
    rw [hcons] at hread
    rw [readItems_bare hskip hdelimiter]
    change reader (c :: (letters ++ _)) = _ at hread
    rw [hread]
    simp only [Option.bind_some, hothers]

end Items

/-! ## §4. Values that are skipped. -/

/-- A value that is read up to the next delimiter: it has none of its own, and begins neither a
string nor an array nor an object. -/
structure IsPlain (value : List Char) : Prop where
  ne_nil : value ≠ []
  head_plain : ∀ c, value.head? = some c → isBlank c = false ∧ c ≠ '"' ∧ c ≠ '[' ∧ c ≠ '{'
  not_delimiter : ∀ c ∈ value, isDelimiter c = false

theorem isPlain_null : IsPlain "null".toList where
  ne_nil := by decide
  head_plain := by
    rintro c hc
    cases hc
    decide
  not_delimiter := by simp [isDelimiter]

theorem isPlain_truth (truth : Bool) : IsPlain (truthText truth) where
  ne_nil := by cases truth <;> decide
  head_plain := by
    intro c hc
    cases truth <;> cases hc <;> decide
  not_delimiter := by cases truth <;> simp [truthText, isDelimiter]

theorem IsNumber.isPlain {text : List Char} (h : IsNumber text) : IsPlain text where
  ne_nil := by
    obtain ⟨c, rest, rfl, -⟩ := h.head
    exact List.cons_ne_nil c rest
  head_plain := by
    obtain ⟨c', rest, rfl, hhead⟩ := h.head
    intro c hc
    cases hc
    rcases hhead with hdigit | rfl
    · refine ⟨(not_blank_of_isDigit hdigit).1, ?_, ?_, ?_⟩
      all_goals
        rintro rfl
        exact absurd hdigit (by decide)
    · decide
  not_delimiter := h.not_delimiter

/-- The next delimiter comes behind blanks only. -/
theorem Closes.dropWhile {behind : List Char} (h : Closes behind) :
    behind.dropWhile (!isDelimiter ·) ≠ []
      ∧ skipBlanks (behind.dropWhile (!isDelimiter ·)) = skipBlanks behind := by
  induction behind with
  | nil =>
    obtain ⟨c, rest, hskip, -⟩ := h
    cases hskip
  | cons c behind ih =>
    by_cases hdelimiter : isDelimiter c = true
    · rw [List.dropWhile_cons_of_neg (by simp [hdelimiter])]
      exact ⟨List.cons_ne_nil c behind, rfl⟩
    · rw [List.dropWhile_cons_of_pos (by simp [hdelimiter])]
      have hblank : isBlank c = true := by
        by_contra hblank
        obtain ⟨c', rest, hskip, hc'⟩ := h
        rw [skipBlanks_cons (Bool.not_eq_true _ ▸ hblank)] at hskip
        cases hskip
        exact hdelimiter hc'
      have hskip : skipBlanks (c :: behind) = skipBlanks behind :=
        List.dropWhile_cons_of_pos hblank
      rw [hskip]
      exact ih ((Closes.congr hskip).mp h)

theorem IsPlain.reads_skipValueWithin {value : List Char} (h : IsPlain value) {fuel : Nat}
    (hfuel : value.length ≤ fuel) : Reads (skipValueWithin fuel) value () := by
  obtain ⟨fuel, rfl⟩ : ∃ less, fuel = less + 1 :=
    ⟨fuel - 1, by have := List.length_pos_iff.mpr h.ne_nil; omega⟩
  intro lead behind hlead hbehind
  obtain ⟨hrest, hskipped⟩ := hbehind.dropWhile
  refine ⟨behind.dropWhile (!isDelimiter ·), ?_, hskipped⟩
  obtain ⟨hne, hhead, hnot⟩ := h
  cases value with
  | nil => exact absurd rfl hne
  | cons c letters =>
    obtain ⟨hblank, hquote, hbracket, hbrace⟩ := hhead c rfl
    have hdelimiter := hnot c List.mem_cons_self
    have hskip : skipBlanks (lead ++ (c :: letters ++ behind)) = c :: (letters ++ behind) :=
      skipBlanks_gap hlead hblank _
    have hletters : (letters ++ behind).dropWhile (!isDelimiter ·)
        = behind.dropWhile (!isDelimiter ·) := by
      refine List.dropWhile_append_of_pos fun letter hletter => ?_
      rw [hnot letter (List.mem_cons_of_mem _ hletter)]
      rfl
    rw [skipValueWithin, hskip]
    split
    · next heq => cases heq
    · next heq => exact absurd (List.cons.inj heq).1 hquote
    · next heq => exact absurd (List.cons.inj heq).1 hbracket
    · next heq => exact absurd (List.cons.inj heq).1 hbrace
    · next heq =>
      cases heq
      rw [if_neg (Bool.eq_false_iff.mp hdelimiter), hletters]
      split
      · next hnil => exact absurd hnil hrest
      · rfl

/-! ### Objects -/

section Objects

variable {α : Type} {value : List Char → List Char → Option (α × List Char)}

theorem readObject_empty {blanks : List Char} (h : IsBlanks blanks) (fuel : Nat)
    (behind : List Char) : readObject value fuel (blanks ++ '}' :: behind) = some ([], behind) := by
  rw [readObject, readMark_gap (by decide) h]

theorem readObject_members {entries : List Entry} (hne : entries ≠ [])
    (hspaced : ∀ entry ∈ entries, entry.IsSpaced) (fuel : Nat) (behind : List Char) :
    readObject value fuel (commaSeparated (entries.map Entry.text) ++ '}' :: behind)
      = readMembers value fuel (commaSeparated (entries.map Entry.text) ++ '}' :: behind) := by
  cases entries with
  | nil => exact absurd rfl hne
  | cons entry entries =>
    obtain ⟨tail, hskip⟩ := Entry.skipBlanks_text (hspaced entry List.mem_cons_self)
      (continued (entries.map Entry.text) ('}' :: behind))
    rw [← commaSeparated_append, ← List.map_cons] at hskip
    rw [readObject, readMark_other hskip (by decide)]

end Objects

theorem skipValueWithin_string {text rest : List Char} (h : skipBlanks text = '"' :: rest)
    (fuel : Nat) :
    skipValueWithin (fuel + 1) text = (readQuoted rest).map fun (_, rest) => ((), rest) := by
  simp only [skipValueWithin, h]

theorem skipValueWithin_array {text rest : List Char} (h : skipBlanks text = '[' :: rest)
    (fuel : Nat) :
    skipValueWithin (fuel + 1) text
      = (readItems (skipValueWithin fuel) fuel true rest).map fun (_, rest) => ((), rest) := by
  simp only [skipValueWithin, h]

theorem skipValueWithin_object {text rest : List Char} (h : skipBlanks text = '{' :: rest)
    (fuel : Nat) :
    skipValueWithin (fuel + 1) text
      = (readObject (fun _ => skipValueWithin fuel) fuel rest).map
        fun (_, rest) => ((), rest) := by
  simp only [skipValueWithin, h]

/-- A bracketed value with what comes behind it. -/
theorem bracketed_append (opening : Char) (inside : List Char) (closing : Char)
    (behind : List Char) :
    opening :: (inside ++ [closing]) ++ behind = opening :: (inside ++ closing :: behind) := by
  rw [List.cons_append, List.append_assoc]
  rfl

/-! ### Brackets and braces

With one more unit of fuel than what is inside, and every value inside skipped. -/

theorem reads_array {items : List Item} (hne : items ≠ [])
    (hspaced : ∀ item ∈ items, item.IsSpaced) (hvalues : ∀ item ∈ items, IsValue item.value)
    {fuel : Nat} (hfuel : (commaSeparated (items.map Item.text)).length < fuel)
    (hreads : ∀ item ∈ items, Reads (skipValueWithin fuel) item.value ()) :
    Reads (skipValueWithin (fuel + 1)) ('[' :: (commaSeparated (items.map Item.text) ++ [']'])) () := by
  intro lead behind hlead hbehind
  have hmany : items.length ≤ (commaSeparated (items.map Item.text)).length := by
    rw [← List.length_map Item.text]
    refine length_pieces_le fun piece hpiece => ?_
    obtain ⟨item, hitem, rfl⟩ := List.mem_map.mp hpiece
    obtain ⟨c, rest, hcons, -⟩ := (hvalues item hitem).head
    simp [Item.text, hcons]
  obtain ⟨values, hread⟩ := readItems_of_reads hne hspaced hvalues
    (fun item hitem => ⟨(), hreads item hitem⟩) (show items.length < fuel by omega) behind
  have hskip := skipBlanks_gap hlead (show isBlank '[' = false by decide)
    (commaSeparated (items.map Item.text) ++ ']' :: behind)
  rw [bracketed_append, skipValueWithin_array hskip, hread]
  exact ⟨behind, rfl, rfl⟩

theorem reads_object {entries : List Entry} (hne : entries ≠ [])
    (hspaced : ∀ entry ∈ entries, entry.IsSpaced) {fuel : Nat}
    (hfuel : (commaSeparated (entries.map Entry.text)).length ≤ fuel)
    (hreads : ∀ entry ∈ entries, Reads (skipValueWithin fuel) entry.value ()) :
    Reads (skipValueWithin (fuel + 1))
      ('{' :: (commaSeparated (entries.map Entry.text) ++ ['}'])) () := by
  intro lead behind hlead hbehind
  have hall : List.Forall₂ (fun (entry : Entry) member =>
      Reads (skipValueWithin fuel) entry.value member) entries (entries.map fun _ => ()) :=
    List.forall₂_map_right_iff.mpr (List.forall₂_same.mpr hreads)
  have hmany := length_entries_le entries
  have hskip := skipBlanks_gap hlead (show isBlank '{' = false by decide)
    (commaSeparated (entries.map Entry.text) ++ '}' :: behind)
  rw [bracketed_append, skipValueWithin_object hskip, readObject_members hne hspaced,
    readMembers_of_reads hne hspaced hall (by omega)]
  exact ⟨behind, rfl, rfl⟩

/-- **Every value is skipped to its end**, with no more fuel than it has characters. -/
theorem reads_skipValueWithin {value : List Char} (h : IsValue value) :
    ∀ {fuel}, value.length ≤ fuel → Reads (skipValueWithin fuel) value () := by
  -- the fuel goes down with each bracket or brace, and so does the length of what is inside
  induction h with
  | null => exact isPlain_null.reads_skipValueWithin
  | truth truth => exact (isPlain_truth truth).reads_skipValueWithin
  | number h => exact h.isPlain.reads_skipValueWithin
  | @string content hcontent =>
    intro fuel hfuel lead behind hlead hbehind
    obtain ⟨fuel, rfl⟩ : ∃ less, fuel = less + 1 :=
      ⟨fuel - 1, by rw [List.length_cons] at hfuel; omega⟩
    have hskip := skipBlanks_gap hlead (show isBlank '"' = false by decide)
      (content ++ '"' :: behind)
    rw [bracketed_append, skipValueWithin_string hskip, readQuoted_append hcontent]
    exact ⟨behind, rfl, rfl⟩
  | @emptyArray blanks hblanks =>
    intro fuel hfuel lead behind hlead hbehind
    obtain ⟨fuel, rfl⟩ : ∃ less, fuel = less + 1 + 1 := by
      rw [List.length_cons, List.length_append, List.length_singleton] at hfuel
      exact ⟨fuel - 2, by omega⟩
    have hskip := skipBlanks_gap hlead (show isBlank '[' = false by decide)
      (blanks ++ ']' :: behind)
    have hclose := skipBlanks_gap hblanks (show isBlank ']' = false by decide) behind
    rw [bracketed_append, skipValueWithin_array hskip, readItems_close hclose]
    exact ⟨behind, rfl, rfl⟩
  | @array items hne hspaced hvalues ih =>
    intro fuel hfuel
    rw [List.length_cons, List.length_append, List.length_singleton] at hfuel
    obtain ⟨fuel, rfl⟩ : ∃ less, fuel = less + 1 := ⟨fuel - 1, by omega⟩
    refine reads_array hne hspaced hvalues (by omega) fun item hitem => ih item hitem ?_
    have hle := length_le_commaSeparated (List.mem_map_of_mem (f := Item.text) hitem)
    rw [Item.text, List.length_append, List.length_append] at hle
    omega
  | @emptyObject blanks hblanks =>
    intro fuel hfuel lead behind hlead hbehind
    obtain ⟨fuel, rfl⟩ : ∃ less, fuel = less + 1 :=
      ⟨fuel - 1, by rw [List.length_cons] at hfuel; omega⟩
    have hskip := skipBlanks_gap hlead (show isBlank '{' = false by decide)
      (blanks ++ '}' :: behind)
    rw [bracketed_append, skipValueWithin_object hskip, readObject_empty hblanks]
    exact ⟨behind, rfl, rfl⟩
  | @object entries hne hspaced hvalues ih =>
    intro fuel hfuel
    rw [List.length_cons, List.length_append, List.length_singleton] at hfuel
    obtain ⟨fuel, rfl⟩ : ∃ less, fuel = less + 1 := ⟨fuel - 1, by omega⟩
    refine reads_object hne hspaced (by omega) fun entry hentry => ih entry hentry ?_
    have hle := length_le_commaSeparated (List.mem_map_of_mem (f := Entry.text) hentry)
    have hlt := entry.length_value_lt
    omega

/-- **Every value is skipped**, so there is none that is refused for a key that nobody knows. -/
theorem understands_skipValue : Understands skipValue fun _ _ => True where
  reads := by
    intro value result hvalue _ lead behind hlead hbehind
    refine reads_skipValueWithin hvalue ?_ lead behind hlead hbehind
    rw [List.length_append, List.length_append]
    omega
  refuses := fun _ hnone => absurd trivial (hnone ())

/-! ## §5. Documents. -/

section Documents

variable {α : Type} {value : List Char → List Char → Option (α × List Char)} {text : String}
  {before rest behind : List Char} {members : List α}

theorem readDocument_of_object (hbefore : IsBlanks before)
    (htext : text.toList = before ++ '{' :: rest) (hbehind : IsBlanks behind)
    (hread : readObject value rest.length rest = some (members, behind)) :
    readDocument value text = some members := by
  rw [readDocument, htext, readMark_gap (by decide) hbefore]
  simp only [Option.bind_eq_bind, Option.bind_some, hread, skipBlanks_blanks hbehind, if_true]
  rfl

theorem readDocument_of_refused (hbefore : IsBlanks before)
    (htext : text.toList = before ++ '{' :: rest) (hread : readObject value rest.length rest = none) :
    readDocument value text = none := by
  rw [readDocument, htext, readMark_gap (by decide) hbefore]
  simp only [Option.bind_eq_bind, Option.bind_some, hread, Option.bind_none]

/-- If every element is related to something, so is the list. -/
theorem exists_forall₂ {α β : Type} {R : α → β → Prop} {as : List α}
    (h : ∀ a ∈ as, ∃ b, R a b) : ∃ bs, List.Forall₂ R as bs := by
  induction as with
  | nil => exact ⟨[], .nil⟩
  | cons a as ih =>
    obtain ⟨b, hb⟩ := h a List.mem_cons_self
    obtain ⟨bs, hbs⟩ := ih fun a ha => h a (List.mem_cons_of_mem _ ha)
    exact ⟨b :: bs, .cons hb hbs⟩

/-- **A document is read just if the value of each member spells what its key asks for**, and its
members are read in their order. -/
theorem readDocument_eq_some_iff {spells : List Char → List Char → α → Prop}
    (hunderstands : ∀ key, Understands (value key) (spells key)) {entries : List Entry}
    (h : IsDocument entries text.toList) (members : List α) :
    readDocument value text = some members
      ↔ List.Forall₂ (fun (entry : Entry) member => spells entry.key entry.value member)
        entries members := by
  generalize htext : text.toList = whole at h
  cases h with
  | empty hbefore hinside hbehind =>
    rw [readDocument_of_object hbefore htext hbehind (readObject_empty hinside _ _),
      List.forall₂_nil_left_iff, Option.some.injEq, eq_comm]
  | @object entries before behind hne hbefore hbehind hspaced hvalues =>
    have hread : ∀ members, List.Forall₂
        (fun (entry : Entry) member => spells entry.key entry.value member) entries members →
        readDocument value text = some members := by
      intro members hspelled
      refine readDocument_of_object hbefore htext hbehind ?_
      have hreads := (List.forall₂_and_left ..).mpr ⟨hvalues, hspelled⟩
      have hmany := length_entries_le entries
      rw [readObject_members hne hspaced]
      refine readMembers_of_reads hne hspaced
        (hreads.imp fun entry member h => (hunderstands entry.key).reads h.1 h.2) ?_ behind
      rw [List.length_append]
      omega
    refine ⟨fun hsome => ?_, hread members⟩
    by_cases hall : ∀ entry ∈ entries, ∃ member, spells entry.key entry.value member
    · obtain ⟨members', hspelled⟩ := exists_forall₂ hall
      cases hsome.symm.trans (hread members' hspelled)
      exact hspelled
    · -- a value that spells nothing is refused, and the whole document with it
      push Not at hall
      obtain ⟨entry, hentry, hnone⟩ := hall
      have hrefused : ∃ entry ∈ entries, Refuses (value entry.key) entry.value :=
        ⟨entry, hentry, (hunderstands entry.key).refuses (hvalues entry hentry) hnone⟩
      have hsettled : ∀ entry ∈ entries, (∃ member, Reads (value entry.key) entry.value member)
          ∨ Refuses (value entry.key) entry.value :=
        fun entry hentry => (hunderstands entry.key).settled (hvalues entry hentry)
      have hobject := @readObject_members _ value _ hne hspaced
        (commaSeparated (entries.map Entry.text) ++ '}' :: behind).length behind
      rw [readMembers_of_refuses hspaced hsettled hrefused] at hobject
      cases hsome.symm.trans (readDocument_of_refused hbefore htext hobject)

end Documents

end FieldLink.Settings
