/-
  FieldLink.Proofs.Settings.Value
  ────────────────────────────────
  **READING ONE VALUE.**

  A reader stands in front of a value, with blanks before it and a
  delimiter somewhere behind it.  It may do two things that are in order:
  read the value to its end, or come to a stop within it, so that whoever
  reads on finds no delimiter.  Which of the two it does depends on the
  value alone, so every reader comes with the values that it understands:

      Reads, Refuses            — read to its end; failed or stopped within
      Understands               — read if it spells a result, else refused
      understands_readNumber    — decimal digits up to the largest number
      understands_readTruth     — the words for true and false
      understands_readString    — what stands between quotes, as it is
      understands_readName      — a known name in quotes, also as a key
-/
import Mathlib.Data.List.Induction
import FieldLink.Proofs.Settings.Document

namespace FieldLink.Settings

/-! ## §1. Tokens. -/

variable {gap text rest : List Char}

theorem skipBlanks_append (h : IsBlanks gap) (text : List Char) :
    skipBlanks (gap ++ text) = skipBlanks text := by
  refine List.dropWhile_append_of_pos fun c hc => ?_
  rcases h c hc with rfl | rfl | rfl | rfl <;> decide

theorem skipBlanks_blanks (h : IsBlanks gap) : skipBlanks gap = [] := by
  have hskip := skipBlanks_append h []
  rwa [List.append_nil] at hskip

theorem skipBlanks_cons {c : Char} (h : isBlank c = false) (text : List Char) :
    skipBlanks (c :: text) = c :: text :=
  List.dropWhile_cons_of_neg (by rw [h]; exact Bool.false_ne_true)

/-- Blanks are skipped up to the first character that is none. -/
theorem skipBlanks_gap {c : Char} (hgap : IsBlanks gap) (h : isBlank c = false) (rest : List Char) :
    skipBlanks (gap ++ c :: rest) = c :: rest :=
  (skipBlanks_append hgap _).trans (skipBlanks_cons h rest)

theorem readMark_found {mark : Char} (h : skipBlanks text = mark :: rest) :
    readMark mark text = some rest := by
  simp only [readMark, h, if_true]

theorem readMark_other {mark c : Char} (h : skipBlanks text = c :: rest) (hne : c ≠ mark) :
    readMark mark text = none := by
  simp only [readMark, h, if_neg hne]

/-- A mark behind blanks is found. -/
theorem readMark_gap {mark : Char} (hmark : isBlank mark = false) (hgap : IsBlanks gap)
    (rest : List Char) : readMark mark (gap ++ mark :: rest) = some rest :=
  readMark_found (skipBlanks_gap hgap hmark rest)

theorem readWord_append (word rest : List Char) : readWord word (word ++ rest) = some rest := by
  induction word with
  | nil => rfl
  | cons c word ih =>
    show (if c = c then readWord word (word ++ rest) else none) = _
    rw [if_pos rfl, ih]

theorem readQuoted_append {content : List Char} (h : IsContent content) (rest : List Char) :
    readQuoted (content ++ '"' :: rest) = some (content, rest) := by
  induction h with
  | nil => rfl
  | plain hquote hbackslash _ ih =>
    rw [List.cons_append, readQuoted, ih]
    · rfl
    · exact hquote
    · intro other rest' hother
      exact absurd hother hbackslash
  | guarded _ ih =>
    rw [List.cons_append, List.cons_append, readQuoted, ih]
    rfl

/-- A string is read to its end. -/
theorem readString_gap {content : List Char} (hgap : IsBlanks gap) (h : IsContent content)
    (rest : List Char) :
    readString (gap ++ '"' :: (content ++ '"' :: rest)) = some (content, rest) := by
  rw [readString, readMark_gap (by decide) hgap]
  exact readQuoted_append h rest

theorem readString_other {c : Char} (h : skipBlanks text = c :: rest) (hne : c ≠ '"') :
    readString text = none := by
  rw [readString, readMark_other h hne]
  rfl

/-! ## §2. Values that are understood. -/

/-- What is left begins, behind blanks, with a delimiter. -/
def Closes (behind : List Char) : Prop :=
  ∃ c rest, skipBlanks behind = c :: rest ∧ isDelimiter c = true

section Readers

variable {α β : Type}

/-- The reader reads the value to its end, whatever blanks are before it and whatever comes behind
it; it may also pass over blanks behind it. -/
def Reads (reader : List Char → Option (α × List Char)) (value : List Char) (result : α) : Prop :=
  ∀ lead behind, IsBlanks lead → Closes behind →
    ∃ rest, reader (lead ++ (value ++ behind)) = some (result, rest)
      ∧ skipBlanks rest = skipBlanks behind

/-- The reader fails, or it stops where no delimiter comes. -/
def Refuses (reader : List Char → Option (α × List Char)) (value : List Char) : Prop :=
  ∀ lead behind result rest, IsBlanks lead → Closes behind →
    reader (lead ++ (value ++ behind)) = some (result, rest) → ¬ Closes rest

/-- No value is both read and refused. -/
theorem Reads.not_refuses {reader : List Char → Option (α × List Char)} {value : List Char}
    {result : α} (h : Reads reader value result) : ¬ Refuses reader value := by
  intro hrefuses
  have hcomma : Closes [','] := ⟨',', [], rfl, by decide⟩
  obtain ⟨rest, hread, hrest⟩ := h [] [','] isBlanks_nil hcomma
  exact hrefuses [] [','] result rest isBlanks_nil hcomma hread ⟨',', [], hrest, by decide⟩

/-- A value is read in one way. -/
theorem Reads.unique {reader : List Char → Option (α × List Char)} {value : List Char}
    {result result' : α} (h : Reads reader value result) (h' : Reads reader value result') :
    result = result' := by
  have hcomma : Closes [','] := ⟨',', [], rfl, by decide⟩
  obtain ⟨rest, hread, -⟩ := h [] [','] isBlanks_nil hcomma
  obtain ⟨rest', hread', -⟩ := h' [] [','] isBlanks_nil hcomma
  cases hread.symm.trans hread'
  rfl

/-- **The reader reads every value that spells a result and refuses every other one.** -/
structure Understands (reader : List Char → Option (α × List Char))
    (spells : List Char → α → Prop) : Prop where
  reads : ∀ {value result}, IsValue value → spells value result → Reads reader value result
  refuses : ∀ {value}, IsValue value → (∀ result, ¬ spells value result) → Refuses reader value

variable {reader : List Char → Option (α × List Char)} {spells : List Char → α → Prop}

theorem Understands.of_eq {reader' : List Char → Option (α × List Char)}
    (h : Understands reader spells) (heq : ∀ text, reader' text = reader text) :
    Understands reader' spells := funext heq ▸ h

/-- Every value is either read or refused. -/
theorem Understands.settled (h : Understands reader spells) {value : List Char}
    (hvalue : IsValue value) :
    (∃ result, Reads reader value result) ∨ Refuses reader value := by
  by_cases hspelled : ∃ result, spells value result
  · obtain ⟨result, hresult⟩ := hspelled
    exact .inl ⟨result, h.reads hvalue hresult⟩
  · exact .inr (h.refuses hvalue (not_exists.mp hspelled))

/-- A value spells one result. -/
theorem Understands.unique (h : Understands reader spells) {value : List Char}
    (hvalue : IsValue value) {result result' : α} (hspelled : spells value result)
    (hspelled' : spells value result') : result = result' :=
  (h.reads hvalue hspelled).unique (h.reads hvalue hspelled')

/-- A reader that fails on everything that begins as a value does refuses it. -/
theorem Refuses.of_head {c : Char} {rest : List Char} (hblank : isBlank c = false)
    (h : ∀ text tail, skipBlanks text = c :: tail → reader text = none) :
    Refuses reader (c :: rest) := by
  intro lead behind result left hlead _ hread
  have hnone := h (lead ++ (c :: rest ++ behind)) (rest ++ behind) (skipBlanks_gap hlead hblank _)
  cases hnone.symm.trans hread

/-- Results can be put in another form. -/
theorem Understands.map {f : α → β} {spells' : List Char → β → Prop}
    (h : Understands reader spells)
    (hspells : ∀ value result', spells' value result'
      ↔ ∃ result, spells value result ∧ f result = result') :
    Understands (fun text => (reader text).map fun (result, rest) => (f result, rest)) spells' where
  reads := by
    intro value result' hvalue hspelled lead behind hlead hbehind
    obtain ⟨result, hresult, rfl⟩ := (hspells value result').mp hspelled
    obtain ⟨rest, hread, hrest⟩ := h.reads hvalue hresult lead behind hlead hbehind
    refine ⟨rest, ?_, hrest⟩
    simp only [hread, Option.map_some]
  refuses := by
    intro value hvalue hnone lead behind result' rest hlead hbehind hread
    obtain ⟨⟨result, rest'⟩, hread', heq⟩ := Option.map_eq_some_iff.mp hread
    cases heq
    refine h.refuses hvalue (fun result hresult => ?_) lead behind result rest hlead hbehind hread'
    exact hnone (f result) ((hspells value _).mpr ⟨result, hresult, rfl⟩)

end Readers

theorem Closes.congr {behind behind' : List Char} (h : skipBlanks behind = skipBlanks behind') :
    Closes behind ↔ Closes behind' := by
  rw [Closes, Closes, h]

/-- Neither a blank nor a delimiter is a digit. -/
theorem Closes.head {behind : List Char} (h : Closes behind) :
    ∀ c, behind.head? = some c → c.isDigit = false := by
  intro c hc
  obtain ⟨first, rest, hskip, hdelimiter⟩ := h
  by_contra hdigit
  cases behind with
  | nil => cases hc
  | cons c' behind =>
    cases hc
    obtain ⟨hblank, hnot⟩ := not_blank_of_isDigit (Bool.not_eq_false _ ▸ hdigit)
    rw [skipBlanks_cons hblank] at hskip
    cases hskip
    cases hnot.symm.trans hdelimiter

/-! ## §3. Numbers. -/

theorem decimal_eq (digits : List Char) : decimal digits = Nat.ofDigitChars 10 digits 0 := by
  unfold decimal Nat.ofDigitChars
  congr 1
  funext n digit
  rw [Nat.mul_comm]

/-- The digits of a number stand for it. -/
theorem decimal_toDigits (n : Nat) : decimal (Nat.toDigits 10 n) = n := by
  rw [decimal_eq, Nat.ofDigitChars_ten_toDigits]

theorem decimal_concat (digits : List Char) (digit : Char) :
    decimal (digits ++ [digit]) = decimal digits * 10 + (digit.toNat - '0'.toNat) := by
  rw [decimal, List.foldl_append]
  rfl

/-- The digits of a number are a natural number without a zero too many. -/
theorem isNatural_toDigits (n : Nat) : IsNatural (Nat.toDigits 10 n) := by
  refine ⟨⟨Nat.toDigits_ne_nil, fun c hc => Nat.isDigit_of_mem_toDigits (by decide) (by decide) hc⟩,
    ?_⟩
  -- all digits but the last one are those of `n / 10`
  induction n using Nat.strongRecOn with
  | ind n ih =>
    intro hzero
    by_cases hsmall : n < 10
    · rw [Nat.toDigits_of_lt_base hsmall] at hzero ⊢
      rw [List.head?_cons, Option.some.injEq] at hzero
      rw [hzero]
    · rw [Nat.toDigits_of_base_le (by decide) (Nat.not_lt.mp hsmall),
        List.head?_append_of_ne_nil _ Nat.toDigits_ne_nil] at hzero
      have hfront := decimal_toDigits (n / 10)
      rw [ih (n / 10) (by omega) hzero] at hfront
      have : decimal ['0'] = 0 := rfl
      omega

/-- The digits of a number are a value. -/
theorem isValue_toDigits (n : Nat) : IsValue (Nat.toDigits 10 n) := by
  have hnumber := IsNumber.unsigned (isNatural_toDigits n) .none .none
  rw [List.append_nil, List.append_nil] at hnumber
  exact .number hnumber

theorem digitChar_digit {c : Char} (h : c.isDigit = true) :
    c.toNat - '0'.toNat < 10 ∧ (c.toNat - '0'.toNat).digitChar = c := by
  obtain ⟨hlow, hhigh⟩ := Char.isDigit_iff_toNat.mp h
  have hzero : '0'.toNat = 48 := rfl
  have hnine : '9'.toNat = 57 := rfl
  have hsmall : c.toNat - '0'.toNat < 10 := by omega
  refine ⟨hsmall, Char.toNat_inj.mp ?_⟩
  rw [Nat.toNat_digitChar_of_lt_ten hsmall]
  omega

/-- **Digits without a zero too many are those of the number they stand for.** -/
theorem toDigits_decimal {whole : List Char} (h : IsNatural whole) :
    Nat.toDigits 10 (decimal whole) = whole := by
  induction whole using List.reverseRecOn with
  | nil => exact absurd rfl h.1.1
  | append_singleton front digit ih =>
    obtain ⟨⟨-, hdigits⟩, hzero⟩ := h
    obtain ⟨hlt, hchar⟩ := digitChar_digit (hdigits digit (by simp))
    rw [decimal_concat]
    by_cases hfront : front = []
    · subst hfront
      show Nat.toDigits 10 (0 * 10 + (digit.toNat - '0'.toNat)) = [digit]
      rw [Nat.zero_mul, Nat.zero_add, Nat.toDigits_of_lt_base hlt, hchar]
    · -- the front does not begin with a zero, so it stands for some
      have hhead : front.head? ≠ some '0' := by
        intro hhead
        have hall := hzero (by rw [List.head?_append_of_ne_nil _ hfront, hhead])
        have hlength := congrArg List.length hall
        rw [List.length_append] at hlength
        exact hfront (List.length_eq_zero_iff.mp (by simpa using hlength))
      have hnatural : IsNatural front :=
        ⟨⟨hfront, fun c hc => hdigits c (List.mem_append_left _ hc)⟩, fun h => absurd h hhead⟩
      have hpos : 0 < decimal front := by
        rw [Nat.pos_iff_ne_zero]
        intro hnone
        have hnothing := ih hnatural
        rw [hnone] at hnothing
        exact hhead (by rw [← hnothing]; rfl)
      rw [Nat.mul_comm, ← Nat.toDigits_append_toDigits (by decide) hpos hlt, ih hnatural,
        Nat.toDigits_of_lt_base hlt, hchar]

/-- A natural number is read up to where its digits end. -/
theorem readNumber_gap {whole : List Char} (hgap : IsBlanks gap) (h : IsNatural whole)
    (hrest : ∀ c, rest.head? = some c → c.isDigit = false) (largest : Nat) :
    readNumber largest (gap ++ (whole ++ rest))
      = if decimal whole ≤ largest then some (decimal whole, rest) else none := by
  obtain ⟨c, digits, rfl, hdigit⟩ := h.head
  have hskip : skipBlanks (gap ++ (c :: digits ++ rest)) = c :: (digits ++ rest) :=
    skipBlanks_gap hgap (not_blank_of_isDigit hdigit).1 _
  have hstop : rest.takeWhile Char.isDigit = [] ∧ rest.dropWhile Char.isDigit = rest := by
    cases rest with
    | nil => exact ⟨rfl, rfl⟩
    | cons c rest =>
      have hc := hrest c rfl
      simp [hc]
  unfold readNumber
  rw [hskip]
  split
  · next hcons =>
    cases hcons
    cases h.2 rfl
    show _ = if 0 ≤ largest then some (0, rest) else none
    rw [if_pos (Nat.zero_le _)]
    rfl
  · next hcons =>
    cases hcons
    have hall : ∀ other ∈ c :: digits, other.isDigit = true := h.1.2
    rw [if_pos hdigit, ← List.cons_append, List.takeWhile_append_of_pos hall,
      List.dropWhile_append_of_pos hall, hstop.1, hstop.2, List.append_nil]
  · next hnil => cases hnil

theorem readNumber_other {largest : Nat} {c : Char} (h : skipBlanks text = c :: rest)
    (hdigit : c.isDigit = false) : readNumber largest text = none := by
  unfold readNumber
  rw [h]
  split
  · next hcons =>
    cases hcons
    cases hdigit
  · next hcons =>
    cases hcons
    rw [if_neg (Bool.eq_false_iff.mp hdigit)]
  · next hnil => cases hnil

/-- **Of numbers, the decimal digits of those that are not too large are understood.** -/
theorem understands_readNumber (largest : Nat) :
    Understands (readNumber largest) fun value n => n ≤ largest ∧ value = Nat.toDigits 10 n where
  reads := by
    rintro value n - ⟨hle, rfl⟩ lead behind hlead hbehind
    refine ⟨behind, ?_, rfl⟩
    rw [readNumber_gap hlead (isNatural_toDigits n) hbehind.head, decimal_toDigits, if_pos hle]
  refuses := by
    intro value hvalue hnone
    obtain ⟨c, rest, rfl, hblank, -⟩ := hvalue.head
    by_cases hdigit : c.isDigit = true
    · obtain ⟨whole, fraction, exponent, hwhole, hfraction, hexponent, heq⟩ :=
        hvalue.of_digit hdigit
      rw [heq] at hnone ⊢
      intro lead behind result left hlead hbehind hread
      rcases fraction_head hfraction hexponent with hnil | ⟨mark, tail, hcons, hmark⟩
      · -- it is a natural number, and too large
        rw [hnil, List.append_nil] at hread hnone
        rw [readNumber_gap hlead hwhole hbehind.head] at hread
        split at hread
        · next hle => exact absurd ⟨hle, (toDigits_decimal hwhole).symm⟩ (hnone _)
        · cases hread
      · -- the reader stops behind the whole part
        have hplain : isBlank mark = false ∧ isDelimiter mark = false ∧ mark.isDigit = false := by
          rcases hmark with rfl | rfl | rfl <;> decide
        rw [hcons, List.append_assoc, readNumber_gap hlead hwhole (by simpa using hplain.2.2)]
          at hread
        split at hread
        · cases hread
          rintro ⟨c', rest', hskip, hdelimiter⟩
          rw [List.cons_append, skipBlanks_cons hplain.1] at hskip
          cases hskip
          cases hplain.2.1.symm.trans hdelimiter
        · cases hread
    · exact .of_head hblank fun _ _ hskip => readNumber_other hskip (Bool.eq_false_iff.mpr hdigit)

/-- Numbers of a type that holds just those up to the largest one. -/
theorem understands_readNumber_of {α : Type} {largest : Nat} {ofNat : Nat → α} {toNat : α → Nat}
    (hle : ∀ x, toNat x ≤ largest) (hofNat : ∀ x, ofNat (toNat x) = x)
    (htoNat : ∀ n ≤ largest, toNat (ofNat n) = n) :
    Understands (fun text => (readNumber largest text).map fun (n, rest) => (ofNat n, rest))
      fun value x => value = Nat.toDigits 10 (toNat x) := by
  refine (understands_readNumber largest).map fun value x => ?_
  constructor
  · rintro rfl
    exact ⟨toNat x, ⟨hle x, rfl⟩, hofNat x⟩
  · rintro ⟨n, ⟨hn, rfl⟩, rfl⟩
    rw [htoNat n hn]

theorem understands_readOctet :
    Understands readOctet fun value n => value = Nat.toDigits 10 n.toNat :=
  understands_readNumber_of (fun n => Nat.le_of_lt_succ n.toNat_lt) (fun _ => UInt8.ofNat_toNat)
    fun _ hn => UInt8.toNat_ofNat_of_lt' (Nat.lt_succ_of_le hn)

theorem understands_readWord16 :
    Understands readWord16 fun value n => value = Nat.toDigits 10 n.toNat :=
  understands_readNumber_of (fun n => Nat.le_of_lt_succ n.toNat_lt) (fun _ => UInt16.ofNat_toNat)
    fun _ hn => UInt16.toNat_ofNat_of_lt' (Nat.lt_succ_of_le hn)

theorem understands_readWord32 :
    Understands readWord32 fun value n => value = Nat.toDigits 10 n.toNat :=
  understands_readNumber_of (fun n => Nat.le_of_lt_succ n.toNat_lt) (fun _ => UInt32.ofNat_toNat)
    fun _ hn => UInt32.toNat_ofNat_of_lt' (Nat.lt_succ_of_le hn)

/-! ## §4. Truth values and strings. -/

theorem readTruth_other {c : Char} (h : skipBlanks text = c :: rest) (htrue : c ≠ 't')
    (hfalse : c ≠ 'f') : readTruth text = none := by
  have hno : ∀ letter word, c ≠ letter → readWord (letter :: word) (c :: rest) = none :=
    fun letter word hne => if_neg (Ne.symm hne)
  unfold readTruth
  rw [h, show "true".toList = 't' :: "rue".toList from rfl,
    show "false".toList = 'f' :: "alse".toList from rfl, hno _ _ htrue, hno _ _ hfalse]
  rfl

/-- **Of truth values, both are understood.** -/
theorem understands_readTruth :
    Understands readTruth fun value truth => value = truthText truth where
  reads := by
    rintro value truth - rfl lead behind hlead hbehind
    refine ⟨behind, ?_, rfl⟩
    unfold readTruth
    rw [skipBlanks_append hlead]
    cases truth with
    | false =>
      have hskip : skipBlanks (truthText false ++ behind) = "false".toList ++ behind := rfl
      have hother : readWord "true".toList ("false".toList ++ behind) = none := rfl
      rw [hskip, hother, readWord_append]
      rfl
    | true =>
      have hskip : skipBlanks (truthText true ++ behind) = "true".toList ++ behind := rfl
      rw [hskip, readWord_append]
  refuses := by
    intro value hvalue hnone
    obtain ⟨c, rest, rfl, hblank, -⟩ := hvalue.head
    by_cases hletter : c = 't' ∨ c = 'f'
    · obtain ⟨truth, htruth⟩ := hvalue.of_letter hletter
      exact absurd htruth (hnone truth)
    · rw [not_or] at hletter
      exact .of_head hblank fun _ _ hskip => readTruth_other hskip hletter.1 hletter.2

/-- What stands between the quotes of a string is read as it is. -/
theorem content_of_quoted {content : List Char} (h : IsValue ('"' :: (content ++ ['"']))) :
    IsContent content := by
  obtain ⟨content', hcontent, heq⟩ := h.of_quote
  exact List.append_cancel_right heq ▸ hcontent

/-- **Of strings, all are understood**, and nothing in them is resolved. -/
theorem understands_readString :
    Understands readString fun value content => value = '"' :: (content ++ ['"']) where
  reads := by
    rintro value content hvalue rfl lead behind hlead hbehind
    refine ⟨behind, ?_, rfl⟩
    rw [List.cons_append, List.append_assoc]
    exact readString_gap hlead (content_of_quoted hvalue) behind
  refuses := by
    intro value hvalue hnone
    obtain ⟨c, rest, rfl, hblank, -⟩ := hvalue.head
    by_cases hquote : c = '"'
    · subst hquote
      obtain ⟨content, -, rfl⟩ := hvalue.of_quote
      exact absurd rfl (hnone content)
    · exact .of_head hblank fun _ _ hskip => readString_other hskip hquote

/-! ## §5. Keys and names. -/

section Entries

variable {entry : Entry}

/-- The key of a member is read up to the blanks in front of the colon. -/
theorem Entry.readString_text (h : entry.IsSpaced) (rest : List Char) :
    readString (entry.text ++ rest) = some (entry.key, entry.beforeColon ++ ':' ::
      (entry.beforeValue ++ (entry.value ++ (entry.behind ++ rest)))) := by
  have htext : entry.text ++ rest = entry.before ++ '"' :: (entry.key ++ '"' :: (entry.beforeColon
      ++ ':' :: (entry.beforeValue ++ (entry.value ++ (entry.behind ++ rest))))) := by
    simp [Entry.text]
  rw [htext]
  exact readString_gap h.before_blank h.key_content _

/-- The colon of a member is read up to the blanks in front of the value. -/
theorem Entry.readMark_colon (h : entry.IsSpaced) (rest : List Char) :
    readMark ':' (entry.beforeColon ++ ':' :: rest) = some rest :=
  readMark_gap (by decide) h.beforeColon_blank rest

/-- A member begins with the quote of its key. -/
theorem Entry.skipBlanks_text (h : entry.IsSpaced) (rest : List Char) :
    ∃ tail, skipBlanks (entry.text ++ rest) = '"' :: tail := by
  have htext : entry.text ++ rest = entry.before ++ '"' :: (entry.key ++ '"' :: (entry.beforeColon
      ++ ':' :: (entry.beforeValue ++ (entry.value ++ entry.behind))) ++ rest) := by
    simp [Entry.text]
  rw [htext, skipBlanks_gap h.before_blank (by decide)]
  exact ⟨_, rfl⟩

end Entries

section Names

variable {α : Type} {names : List (List Char × α)}

theorem readName_string {content : List Char} (hgap : IsBlanks gap) (h : IsContent content)
    (rest : List Char) :
    readName names (gap ++ '"' :: (content ++ '"' :: rest))
      = (names.lookup content).map (·, rest) := by
  rw [readName, readString_gap hgap h]

/-- Behind an opening brace, the key of a member is looked up, and null and the closing brace have
to follow. -/
theorem readName_entry {entry : Entry} (hgap : IsBlanks gap) (hspaced : entry.IsSpaced)
    (hvalue : IsValue entry.value) (rest : List Char) :
    readName names (gap ++ '{' :: (entry.text ++ rest)) = do
      let result ← names.lookup entry.key
      let rest ← readWord "null".toList (entry.value ++ (entry.behind ++ rest))
      let rest ← readMark '}' rest
      return (result, rest) := by
  obtain ⟨c, value, hcons, hblank, -⟩ := hvalue.head
  have hopen : skipBlanks (gap ++ '{' :: (entry.text ++ rest)) = '{' :: (entry.text ++ rest) :=
    skipBlanks_gap hgap (by decide) _
  have hskip : skipBlanks (entry.beforeValue ++ (entry.value ++ (entry.behind ++ rest)))
      = entry.value ++ (entry.behind ++ rest) := by
    rw [hcons]
    exact skipBlanks_gap hspaced.beforeValue_blank hblank _
  rw [readName, readString_other hopen (by decide)]
  simp only [readMark_found hopen, Entry.readString_text hspaced, Entry.readMark_colon hspaced,
    hskip, Option.bind_eq_bind, Option.bind_some]

theorem readName_empty {blanks : List Char} (hgap : IsBlanks gap) (hblanks : IsBlanks blanks)
    (rest : List Char) : readName names (gap ++ '{' :: (blanks ++ '}' :: rest)) = none := by
  have hopen : skipBlanks (gap ++ '{' :: (blanks ++ '}' :: rest)) = '{' :: (blanks ++ '}' :: rest) :=
    skipBlanks_gap hgap (by decide) _
  have hclose : skipBlanks (blanks ++ '}' :: rest) = '}' :: rest :=
    skipBlanks_gap hblanks (by decide) rest
  rw [readName, readString_other hopen (by decide)]
  simp only [readMark_found hopen, readString_other hclose (show '}' ≠ '"' by decide),
    Option.bind_eq_bind, Option.bind_some, Option.bind_none]

theorem readName_other {c : Char} (h : skipBlanks text = c :: rest) (hquote : c ≠ '"')
    (hbrace : c ≠ '{') : readName names text = none := by
  rw [readName, readString_other h hquote, readMark_other h hbrace]
  rfl

/-- Only null is taken for null. -/
theorem readWord_null {value : List Char} (h : IsValue value)
    (hread : readWord "null".toList (value ++ rest) = some text) :
    value = "null".toList ∧ text = rest := by
  obtain ⟨c, letters, rfl, -, -⟩ := h.head
  by_cases hc : c = 'n'
  · subst hc
    rw [h.of_n, readWord_append] at hread
    exact ⟨h.of_n, (Option.some.inj hread).symm⟩
  · have hnone : readWord "null".toList (c :: letters ++ rest) = none := if_neg (Ne.symm hc)
    cases hnone.symm.trans hread

/-- A member is read as a name only if its value is null and the object ends behind it. -/
theorem readName_entry_some {entry : Entry} {result : α} {c : Char} (hgap : IsBlanks gap)
    (hspaced : entry.IsSpaced) (hvalue : IsValue entry.value) (hc : isBlank c = false)
    (hread : readName names (gap ++ '{' :: (entry.text ++ c :: rest)) = some (result, text)) :
    names.lookup entry.key = some result ∧ entry.value = "null".toList ∧ c = '}' := by
  rw [readName_entry hgap hspaced hvalue] at hread
  obtain ⟨result', hlookup, hread⟩ := Option.bind_eq_some_iff.mp hread
  obtain ⟨behind, hword, hread⟩ := Option.bind_eq_some_iff.mp hread
  obtain ⟨left, hmark, hread⟩ := Option.bind_eq_some_iff.mp hread
  cases hread
  obtain ⟨hnull, rfl⟩ := readWord_null hvalue hword
  refine ⟨hlookup, hnull, ?_⟩
  by_contra hne
  have hskip : skipBlanks (entry.behind ++ c :: rest) = c :: rest :=
    skipBlanks_gap hspaced.behind_blank hc rest
  cases (readMark_other hskip hne).symm.trans hmark

/-- A string that is no known name is refused. -/
theorem refuses_readName_string {rest : List Char} (hvalue : IsValue ('"' :: rest))
    (hnone : ∀ (result : α) name, names.lookup name = some result → ¬ IsNamed name ('"' :: rest)) :
    Refuses (readName names) ('"' :: rest) := by
  obtain ⟨content, hcontent, rfl⟩ := hvalue.of_quote
  intro lead behind result left hlead _ hread
  rw [List.cons_append, List.append_assoc] at hread
  change readName names (lead ++ '"' :: (content ++ '"' :: behind)) = _ at hread
  rw [readName_string hlead hcontent] at hread
  obtain ⟨result', hlookup, -⟩ := Option.map_eq_some_iff.mp hread
  exact absurd .quoted (hnone result' content hlookup)

/-- An object is refused unless a known name is its only key, with null as its value. -/
theorem refuses_readName_object {rest : List Char} (hvalue : IsValue ('{' :: rest))
    (hnone : ∀ (result : α) name, names.lookup name = some result → ¬ IsNamed name ('{' :: rest)) :
    Refuses (readName names) ('{' :: rest) := by
  intro lead behind result left hlead _ hread
  rcases hvalue.of_brace with ⟨blanks, hblanks, rfl⟩ | ⟨entries, hne, hspaced, hvalues, rfl⟩
  · rw [List.cons_append, List.append_assoc, List.singleton_append,
      readName_empty hlead hblanks] at hread
    cases hread
  · match entries with
    | [] => exact absurd rfl hne
    | [entry] =>
      have hfirst := hspaced entry List.mem_cons_self
      have hisValue := hvalues entry List.mem_cons_self
      rw [List.map_cons, List.map_nil, commaSeparated_singleton] at hread hnone
      rw [List.cons_append, List.append_assoc] at hread
      obtain ⟨hlookup, hnull, -⟩ := readName_entry_some hlead hfirst hisValue (by decide) hread
      exact absurd (.key hfirst rfl hnull) (hnone result entry.key hlookup)
    | entry :: next :: entries =>
      have hfirst := hspaced entry List.mem_cons_self
      have hisValue := hvalues entry List.mem_cons_self
      rw [List.map_cons, List.map_cons, commaSeparated_cons_cons, List.cons_append,
        List.append_assoc, List.append_assoc, List.cons_append] at hread
      obtain ⟨-, -, hcomma⟩ := readName_entry_some hlead hfirst hisValue (by decide) hread
      cases hcomma

/-- **Of names, the known ones are understood**, in both forms. -/
theorem understands_readName (names : List (List Char × α)) :
    Understands (readName names) fun value result =>
      ∃ name, names.lookup name = some result ∧ IsNamed name value where
  reads := by
    rintro value result hvalue ⟨name, hlookup, hnamed⟩ lead behind hlead hbehind
    refine ⟨behind, ?_, rfl⟩
    cases hnamed with
    | quoted =>
      rw [List.cons_append, List.append_assoc]
      show readName names (lead ++ '"' :: (name ++ '"' :: behind)) = _
      rw [readName_string hlead (content_of_quoted hvalue), hlookup]
      rfl
    | key hspaced hkey hnull =>
      have hisValue : IsValue _ := hnull ▸ IsValue.null
      rw [List.cons_append, List.append_assoc, readName_entry hlead hspaced hisValue, hkey, hlookup,
        hnull, readWord_append]
      show (readMark '}' (_ ++ '}' :: behind)).bind _ = _
      rw [readMark_gap (by decide) hspaced.behind_blank]
      rfl
  refuses := by
    intro value hvalue hnone
    have hunnamed : ∀ (result : α) name, names.lookup name = some result → ¬ IsNamed name value :=
      fun result name hlookup hnamed => hnone result ⟨name, hlookup, hnamed⟩
    obtain ⟨c, rest, rfl, hblank, -⟩ := hvalue.head
    by_cases hquote : c = '"'
    · subst hquote
      exact refuses_readName_string hvalue hunnamed
    · by_cases hbrace : c = '{'
      · subst hbrace
        exact refuses_readName_object hvalue hunnamed
      · exact .of_head hblank fun _ _ hskip => readName_other hskip hquote hbrace

/-- Each of the things listed is found under its own name. -/
theorem lookup_named {name : α → List Char} (hinj : ∀ x y, name x = name y → x = y) (xs : List α)
    (key : List Char) (x : α) :
    (xs.map fun x => (name x, x)).lookup key = some x ↔ x ∈ xs ∧ key = name x := by
  induction xs with
  | nil => simp
  | cons first xs ih =>
    rw [List.map_cons, List.lookup_cons]
    by_cases hkey : key = name first
    · subst hkey
      simp only [beq_self_eq_true, Option.some.injEq, List.mem_cons]
      constructor
      · rintro rfl
        exact ⟨.inl rfl, rfl⟩
      · exact fun h => hinj first x h.2
    · rw [beq_eq_false_iff_ne.mpr hkey, ih, List.mem_cons]
      refine ⟨fun h => ⟨.inr h.1, h.2⟩, fun h => ⟨h.1.resolve_left ?_, h.2⟩⟩
      rintro rfl
      exact hkey h.2

/-- Things that are all listed, each under a name of its own, are understood by their names. -/
theorem understands_readName_named {name : α → List Char}
    (hinj : ∀ x y, name x = name y → x = y) {xs : List α} (hall : ∀ x, x ∈ xs) :
    Understands (readName (xs.map fun x => (name x, x))) fun value x => IsNamed (name x) value := by
  have h := understands_readName (xs.map fun x => (name x, x))
  simpa only [lookup_named hinj, hall, true_and, exists_eq_left] using h

end Names

end FieldLink.Settings
