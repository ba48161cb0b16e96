/-
  FieldLink.Serial.Text
  ────────────────────────────────
  **SERIAL SETTINGS AS TEXT.**

  All six settings must be there, each once, in any order; other members
  are ignored.  A text that cannot be read, like settings that no driver
  can run, is an invalid argument.
-/
import FieldLink.Serial.Config
import FieldLink.Settings.Record

namespace FieldLink.Serial

open Settings

/-- A field of the settings. -/
inductive Field where
  /-- Speed. -/
  | baudRate
  /-- Parity. -/
  | parity
  /-- Stop bits. -/
  | stopBits
  /-- Data bits. -/
  | dataBits
  /-- Pausing of the sender. -/
  | flowControl
  /-- Longest wait of one read. -/
  | timeoutMs
deriving DecidableEq

namespace Field

/-- The names of the parities. -/
def parityNames : List (List Char × Parity) :=
  [("none".toList, .none), ("even".toList, .even), ("odd".toList, .odd)]

/-- The names of the ways to pause. -/
def flowControlNames : List (List Char × FlowControl) :=
  [("none".toList, .none), ("software".toList, .software), ("hardware".toList, .hardware)]

/-- The key that a field stands at. -/
def key : Field → List Char
  | baudRate => "baud_rate".toList
  | parity => "parity".toList
  | stopBits => "stop_bits".toList
  | dataBits => "data_bits".toList
  | flowControl => "flow_control".toList
  | timeoutMs => "timeout_ms".toList

/-- What the values of a field are. -/
abbrev Value : Field → Type
  | baudRate => UInt32
  | parity => Parity
  | stopBits => UInt8
  | dataBits => UInt8
  | flowControl => FlowControl
  | timeoutMs => UInt32

/-- The reader of these values. -/
def read : (field : Field) → List Char → Option (field.Value × List Char)
  | baudRate => readWord32
  | parity => readName parityNames
  | stopBits => readOctet
  | dataBits => readOctet
  | flowControl => readName flowControlNames
  | timeoutMs => readWord32

instance : Fields Field where
  all := [baudRate, parity, stopBits, dataBits, flowControl, timeoutMs]
  key := key
  Value := Value
  read := read

end Field

namespace Config

/-- The settings that members make up: every field is required. -/
def gather (members : List (Member Field)) : Option Config := do
  let baudRate ← only (valuesOf Field.baudRate members)
  let parity ← only (valuesOf Field.parity members)
  let stopBits ← only (valuesOf Field.stopBits members)
  let dataBits ← only (valuesOf Field.dataBits members)
  let flowControl ← only (valuesOf Field.flowControl members)
  let timeoutMs ← only (valuesOf Field.timeoutMs members)
  return { baudRate, parity, stopBits, dataBits, flowControl, timeoutMs }

/-- Reads settings that a driver can run. -/
def ofText (text : String) : Except Fault Config :=
  match (readDocument readMember text).bind gather with
  | none => .error .invalidArgument
  | some config => config.validate.map fun () => config

end Config

end FieldLink.Serial
