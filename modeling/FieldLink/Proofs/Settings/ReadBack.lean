/-
  FieldLink.Proofs.Settings.ReadBack
  ────────────────────────────────
  **SETTINGS ARE READ BACK AS THEY WERE WRITTEN.**

  Whoever writes settings into a JSON object may choose the order of the
  members, put blanks between any two tokens and add members of other keys,
  with values of any shape.  Serial settings and client options are read
  back from it all the same.  What is left out that has no default, or
  stands there twice, makes the text an invalid argument:

      settings_read_back — both kinds of settings, from any such object
-/
import FieldLink.Proofs.Mqtt.Options
import FieldLink.Proofs.Serial.Text

namespace FieldLink

open Settings

/-- **Settings are read back from an object, however it is laid out.**  A serial configuration that
is written there is read if it is valid; options that are written there are read.  A text that lacks
one of the six serial settings or repeats it, one without an identifier, and one that repeats an
option are invalid arguments. -/
theorem settings_read_back {entries : List Entry} {text : String}
    (h : IsDocument entries text.toList) :
    (∀ config : Serial.Config, config.WrittenIn entries →
      (config.validate = .ok () → Serial.Config.ofText text = .ok config)
        ∧ (config.validate ≠ .ok () → Serial.Config.ofText text = .error .invalidArgument))
      ∧ (∀ field : Serial.Field, (valuesAt field.key entries).length ≠ 1 →
        Serial.Config.ofText text = .error .invalidArgument)
      ∧ (∀ options : Mqtt.Options, options.WrittenIn entries →
        Mqtt.Options.ofText text = .ok options)
      ∧ (valuesAt "client_id".toList entries = [] →
        Mqtt.Options.ofText text = .error .invalidArgument)
      ∧ (∀ field : Mqtt.Options.Field, 1 < (valuesAt field.key entries).length →
        Mqtt.Options.ofText text = .error .invalidArgument) := by
  refine ⟨fun config hwritten => ⟨fun hvalid => ?_, fun hinvalid => ?_⟩, fun field hcount => ?_,
    fun options hwritten => ?_, fun hmissing => ?_, fun field hrepeated => ?_⟩
  · -- ===== serial settings =====
    exact (Serial.Config.ofText_eq_ok_iff h).mpr ⟨hwritten, hvalid⟩
  · rw [Serial.Config.ofText_of_written h hwritten,
      config.validate_eq_error_iff.mpr hinvalid]
    rfl
  · exact Serial.Config.ofText_of_unwritten h fun config hwritten =>
      hcount (hwritten field).length_valuesAt
  · -- ===== options =====
    exact (Mqtt.Options.ofText_eq_ok_iff h).mpr hwritten
  · refine Mqtt.Options.ofText_of_unwritten h fun options hwritten => ?_
    have hlength : (valuesAt "client_id".toList entries).length = 1 :=
      hwritten.clientId.length_valuesAt
    rw [hmissing] at hlength
    cases hlength
  · exact Mqtt.Options.ofText_of_unwritten h fun options hwritten =>
      Nat.not_le_of_lt hrepeated (hwritten.length_valuesAt field)

/-! ## Specimen -/

namespace Specimen

/-- A member with a blank in front of its key and one in front of its value. -/
def member (key : String) (value : List Char) : Entry where
  before := [' ']
  key := key.toList
  beforeColon := []
  beforeValue := [' ']
  value := value
  behind := []

theorem member_isSpaced {key : String} {value : List Char} (hquote : '"' ∉ key.toList)
    (hbackslash : '\\' ∉ key.toList) : (member key value).IsSpaced where
  before_blank := fun _ hc => .inl (List.mem_singleton.mp hc)
  key_content := isContent_of_notMem hquote hbackslash
  beforeColon_blank := isBlanks_nil
  beforeValue_blank := fun _ hc => .inl (List.mem_singleton.mp hc)
  behind_blank := isBlanks_nil

/-- A string as a value. -/
def quoted (content : String) : List Char := '"' :: (content.toList ++ ['"'])

theorem isValue_quoted {content : String} (hquote : '"' ∉ content.toList)
    (hbackslash : '\\' ∉ content.toList) : IsValue (quoted content) :=
  .string (isContent_of_notMem hquote hbackslash)

/-- The parity as an object with its name as the only key. -/
def even : List Char := '{' :: ((member "even" "null".toList).text ++ ['}'])

/-- An array with an empty object in it. -/
def history : List Item := [⟨[], truthText true, []⟩, ⟨[' '], ['{', '}'], []⟩]

/-- Settings of both kinds, from the last one to the first, and a member that nobody knows. -/
def entries : List Entry :=
  [member "timeout_ms" (Nat.toDigits 10 250), member "flow_control" (quoted "none"),
    member "data_bits" (Nat.toDigits 10 8),
    member "history" ('[' :: (commaSeparated (history.map Item.text) ++ [']'])),
    member "stop_bits" (Nat.toDigits 10 1), member "parity" even,
    member "baud_rate" (Nat.toDigits 10 19200), member "client_id" (quoted "pump-7")]

/-- The text of these settings, with a line break behind it. -/
def text : String :=
  String.ofList ([] ++ '{' :: (commaSeparated (entries.map Entry.text) ++ '}' :: ['\n']))

theorem isValue_even : IsValue even := by
  refine @IsValue.object [member "even" "null".toList] (List.cons_ne_nil _ _) ?_ ?_
  · exact fun entry hentry =>
      List.mem_singleton.mp hentry ▸ member_isSpaced (by decide) (by decide)
  · exact fun entry hentry => List.mem_singleton.mp hentry ▸ .null

theorem isValue_history : IsValue ('[' :: (commaSeparated (history.map Item.text) ++ [']'])) := by
  have hblank : IsBlanks [' '] := fun c hc => .inl (List.mem_singleton.mp hc)
  refine .array (List.cons_ne_nil _ _) ?_ ?_
  · simp only [history, List.forall_mem_cons]
    exact ⟨⟨isBlanks_nil, isBlanks_nil⟩, ⟨hblank, isBlanks_nil⟩, List.forall_mem_nil _⟩
  · simp only [history, List.forall_mem_cons]
    exact ⟨.truth true, .emptyObject isBlanks_nil, List.forall_mem_nil _⟩

theorem isDocument_text : IsDocument entries text.toList := by
  rw [text, String.toList_ofList]
  refine .object (List.cons_ne_nil _ _) isBlanks_nil
    (fun c hc => .inr (.inl (List.mem_singleton.mp hc))) ?_ ?_
  · simp only [entries, List.forall_mem_cons]
    refine ⟨member_isSpaced ?_ ?_, member_isSpaced ?_ ?_, member_isSpaced ?_ ?_,
      member_isSpaced ?_ ?_, member_isSpaced ?_ ?_, member_isSpaced ?_ ?_, member_isSpaced ?_ ?_,
      member_isSpaced ?_ ?_, List.forall_mem_nil _⟩
    all_goals decide
  · simp only [entries, List.forall_mem_cons]
    have hnone : IsValue (quoted "none") := isValue_quoted (by decide) (by decide)
    have hclient : IsValue (quoted "pump-7") := isValue_quoted (by decide) (by decide)
    exact ⟨isValue_toDigits 250, hnone, isValue_toDigits 8, isValue_history, isValue_toDigits 1,
      isValue_even, isValue_toDigits 19200, hclient, List.forall_mem_nil _⟩

/-- The serial settings of the text. -/
def config : Serial.Config where
  baudRate := 19200
  parity := .even
  timeoutMs := 250

theorem config_written : config.WrittenIn entries := by
  have hspaced := @member_isSpaced "even" "null".toList (by decide) (by decide)
  intro field
  cases field with
  | parity => exact ⟨even, rfl, .key hspaced rfl rfl⟩
  | flowControl => exact ⟨_, rfl, .quoted⟩
  | baudRate | stopBits | dataBits | timeoutMs => exact ⟨_, rfl, rfl⟩

theorem options_written : Mqtt.Options.WrittenIn ⟨"pump-7", 60, true⟩ entries where
  clientId := ⟨_, rfl, rfl⟩
  keepAliveSeconds := .inl ⟨rfl, rfl⟩
  cleanSession := .inl ⟨rfl, rfl⟩

/-- A member that stands twice. -/
def repeated : List Entry := [member "parity" (quoted "odd"), member "parity" (quoted "odd")]

/-- The text of that. -/
def repeatedText : String := "\x7b \"parity\": \"odd\", \"parity\": \"odd\"\x7d"

theorem isDocument_repeatedText : IsDocument repeated repeatedText.toList := by
  have hlayout : repeatedText = String.ofList
      ([] ++ '{' :: (commaSeparated (repeated.map Entry.text) ++ '}' :: [])) := rfl
  have hspaced : (member "parity" (quoted "odd")).IsSpaced :=
    member_isSpaced (by decide) (by decide)
  have hvalue : IsValue (quoted "odd") := isValue_quoted (by decide) (by decide)
  rw [hlayout, String.toList_ofList]
  refine .object (List.cons_ne_nil _ _) isBlanks_nil isBlanks_nil ?_ ?_
  · simp only [repeated, List.forall_mem_cons]
    exact ⟨hspaced, hspaced, List.forall_mem_nil _⟩
  · simp only [repeated, List.forall_mem_cons]
    exact ⟨hvalue, hvalue, List.forall_mem_nil _⟩

end Specimen

/-- Both kinds of settings are read from one text; one that repeats a setting and names no client is
refused as either of them. -/
theorem settings_read_back_specimen :
    IsDocument Specimen.entries Specimen.text.toList
      ∧ IsDocument Specimen.repeated Specimen.repeatedText.toList
      ∧ Serial.Config.ofText Specimen.text = .ok Specimen.config
      ∧ Mqtt.Options.ofText Specimen.text = .ok ⟨"pump-7", 60, true⟩
      ∧ Serial.Config.ofText Specimen.repeatedText = .error .invalidArgument
      ∧ Mqtt.Options.ofText Specimen.repeatedText = .error .invalidArgument := by
  obtain ⟨hserial, -, hoptions, -, -⟩ := settings_read_back Specimen.isDocument_text
  obtain ⟨-, hrepeated, -, hmissing, -⟩ := settings_read_back Specimen.isDocument_repeatedText
  exact ⟨Specimen.isDocument_text, Specimen.isDocument_repeatedText,
    (hserial Specimen.config Specimen.config_written).1 rfl,
    hoptions _ Specimen.options_written,
    hrepeated .parity (by decide), hmissing rfl⟩

end FieldLink
