/-
  FieldLink.Settings.Reader
  ────────────────────────────────
  **JSON TEXT, AS THE LIBRARY BENEATH READS IT.**

  Settings come as one JSON object, and what a text has to look like is
  decided beneath this program, by the JSON library `serde-json-core` that
  it calls.  The rules here are that library's, version 0.6, and none of
  them knows a single setting; the program's own part begins in
  `FieldLink.Settings.Record`, with the fields of a record, their keys and
  their defaults.  A reader takes the text from where it stands and gives
  what it read together with the rest:

      strings are taken raw    — a backslash guards the next character
                                 and both stay in the text
      numbers are natural      — no sign, no leading zero, a largest value
      a name is a string or    — the only key of an object, its value null
      ignored values are       — strings, arrays and objects by their shape,
      skipped                    anything else up to the next delimiter

  `readDocument` reads the whole object, with a reader for the value of
  each key, and allows nothing but blanks after it.
-/
namespace FieldLink.Settings

/-! ## §1. Characters. -/

/-- Blanks between tokens. -/
def isBlank (c : Char) : Bool := c = ' ' || c = '\n' || c = '\t' || c = '\r'

/-- Characters that end a value of unknown shape. -/
def isDelimiter (c : Char) : Bool := c = ',' || c = '}' || c = ']'

/-- The text behind leading blanks. -/
def skipBlanks (text : List Char) : List Char := text.dropWhile isBlank

/-- The text behind one character, which blanks may precede. -/
def readMark (mark : Char) (text : List Char) : Option (List Char) :=
  match skipBlanks text with
  | c :: rest => if c = mark then some rest else none
  | [] => none

/-- The text behind a word that stands right here. -/
def readWord : List Char → List Char → Option (List Char)
  | [], text => some text
  | w :: word, c :: text => if w = c then readWord word text else none
  | _ :: _, [] => none

/-! ## §2. Strings, numbers, truth values and names. -/

/-- The rest of a string behind its opening quote: its raw content, up to a quote that no
backslash guards. -/
def readQuoted : List Char → Option (List Char × List Char)
  | [] => none
  | '"' :: rest => some ([], rest)
  | '\\' :: c :: rest => (readQuoted rest).map fun (content, rest) => ('\\' :: c :: content, rest)
  | c :: rest => (readQuoted rest).map fun (content, rest) => (c :: content, rest)

/-- A string. -/
def readString (text : List Char) : Option (List Char × List Char) :=
  (readMark '"' text).bind readQuoted

/-- The number that decimal digits stand for. -/
def decimal (digits : List Char) : Nat :=
  digits.foldl (fun n digit => n * 10 + (digit.toNat - '0'.toNat)) 0

/-- A natural number up to `largest`, which ends where its digits end. -/
def readNumber (largest : Nat) (text : List Char) : Option (Nat × List Char) :=
  match skipBlanks text with
  | '0' :: rest => some (0, rest)
  | c :: rest =>
    if c.isDigit then
      let n := decimal ((c :: rest).takeWhile Char.isDigit)
      if n ≤ largest then some (n, (c :: rest).dropWhile Char.isDigit) else none
    else none
  | [] => none

/-- A number that fits an octet. -/
def readOctet (text : List Char) : Option (UInt8 × List Char) :=
  (readNumber 0xFF text).map fun (n, rest) => (UInt8.ofNat n, rest)

/-- A number that fits 16 bits. -/
def readWord16 (text : List Char) : Option (UInt16 × List Char) :=
  (readNumber 0xFFFF text).map fun (n, rest) => (UInt16.ofNat n, rest)

/-- A number that fits 32 bits. -/
def readWord32 (text : List Char) : Option (UInt32 × List Char) :=
  (readNumber 0xFFFFFFFF text).map fun (n, rest) => (UInt32.ofNat n, rest)

/-- A truth value. -/
def readTruth (text : List Char) : Option (Bool × List Char) :=
  match readWord "true".toList (skipBlanks text) with
  | some rest => some (true, rest)
  | none => (readWord "false".toList (skipBlanks text)).map (false, ·)

/-- One of several names: as a string, or as the only key of an object whose value is null. -/
def readName {α : Type} (names : List (List Char × α)) (text : List Char) :
    Option (α × List Char) :=
  match readString text with
  | some (name, rest) => (names.lookup name).map (·, rest)
  | none => do
    let rest ← readMark '{' text
    let (name, rest) ← readString rest
    let value ← names.lookup name
    let rest ← readMark ':' rest
    let rest ← readWord "null".toList (skipBlanks rest)
    let rest ← readMark '}' rest
    return (value, rest)

/-! ## §3. Arrays and objects. -/

/-- The items of an array behind its opening bracket, up to and with the closing one; `fuel`
bounds their number.  Each item stands behind a comma but for one, which need not be the first;
`bareAllowed` says that it may still come. -/
def readItems {α : Type} (item : List Char → Option (α × List Char)) :
    Nat → Bool → List Char → Option (List α × List Char)
  | 0, _, _ => none
  | fuel + 1, bareAllowed, text =>
    match skipBlanks text with
    | ']' :: rest => some ([], rest)
    | ',' :: rest => do
      let (value, rest) ← item rest
      let (values, rest) ← readItems item fuel bareAllowed rest
      return (value :: values, rest)
    | rest =>
      if bareAllowed then do
        let (value, rest) ← item rest
        let (values, rest) ← readItems item fuel false rest
        return (value :: values, rest)
      else none

/-- The members of an object behind its opening brace; `fuel` bounds their number. -/
def readMembers {α : Type} (value : List Char → List Char → Option (α × List Char)) :
    Nat → List Char → Option (List α × List Char)
  | 0, _ => none
  | fuel + 1, text => do
    let (key, rest) ← readString text
    let rest ← readMark ':' rest
    let (member, rest) ← value key rest
    match skipBlanks rest with
    | ',' :: rest =>
      let (members, rest) ← readMembers value fuel rest
      return (member :: members, rest)
    | '}' :: rest => return ([member], rest)
    | _ => none

/-- An object behind its opening brace. -/
def readObject {α : Type} (value : List Char → List Char → Option (α × List Char)) (fuel : Nat)
    (text : List Char) : Option (List α × List Char) :=
  match readMark '}' text with
  | some rest => some ([], rest)
  | none => readMembers value fuel text

/-- A value of any shape, skipped; `fuel` bounds how deep it nests and how many items it has. -/
def skipValueWithin : Nat → List Char → Option (Unit × List Char)
  | 0, _ => none
  | fuel + 1, text =>
    match skipBlanks text with
    | [] => none
    | '"' :: rest => (readQuoted rest).map fun (_, rest) => ((), rest)
    | '[' :: rest =>
      (readItems (skipValueWithin fuel) fuel true rest).map fun (_, rest) => ((), rest)
    | '{' :: rest =>
      (readObject (fun _ => skipValueWithin fuel) fuel rest).map fun (_, rest) => ((), rest)
    | c :: rest =>
      if isDelimiter c then none
      else
        match rest.dropWhile (!isDelimiter ·) with
        | [] => none
        | rest => some ((), rest)

/-- A value of any shape, skipped.  Every item takes at least one character, so the length of the
text is fuel enough. -/
def skipValue (text : List Char) : Option (Unit × List Char) :=
  skipValueWithin (text.length + 1) text

/-! ## §4. Documents. -/

/-- The members of the object that a text consists of. -/
def readDocument {α : Type} (value : List Char → List Char → Option (α × List Char))
    (text : String) : Option (List α) := do
  let rest ← readMark '{' text.toList
  let (members, rest) ← readObject value rest.length rest
  if skipBlanks rest = [] then return members else none

end FieldLink.Settings
