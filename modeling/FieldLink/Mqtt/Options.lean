/-
  FieldLink.Mqtt.Options
  ────────────────────────────────
  **WHAT A CLIENT IS MADE FROM.**

  A client needs an identifier; the keep-alive interval and the choice of a
  fresh session have defaults.  Options can be read from a JSON object, in
  which unknown members are ignored and no known member may stand twice.
-/
import FieldLink.Fault
import FieldLink.Settings.Record

namespace FieldLink.Mqtt

open Settings

/-- Keep-alive interval unless another one is chosen, in seconds. -/
def defaultKeepAliveSeconds : UInt16 := 60

/-- What a client is made from. -/
structure Options where
  /-- The client's identifier at the broker. -/
  clientId : String
  /-- The keep-alive interval in seconds; 0 is none. -/
  keepAliveSeconds : UInt16 := defaultKeepAliveSeconds
  /-- The broker forgets what it kept for the client. -/
  cleanSession : Bool := true
deriving DecidableEq

namespace Options

/-- A field of the options. -/
inductive Field where
  /-- The identifier. -/
  | clientId
  /-- The keep-alive interval. -/
  | keepAliveSeconds
  /-- The choice of a fresh session. -/
  | cleanSession
deriving DecidableEq

namespace Field

/-- The key that a field stands at. -/
def key : Field → List Char
  | clientId => "client_id".toList
  | keepAliveSeconds => "keep_alive_seconds".toList
  | cleanSession => "clean_session".toList

/-- What the values of a field are; an identifier is text as it stands between its quotes. -/
abbrev Value : Field → Type
  | clientId => List Char
  | keepAliveSeconds => UInt16
  | cleanSession => Bool

/-- The reader of these values. -/
def read : (field : Field) → List Char → Option (field.Value × List Char)
  | clientId => readString
  | keepAliveSeconds => readWord16
  | cleanSession => readTruth

instance : Fields Field where
  all := [clientId, keepAliveSeconds, cleanSession]
  key := key
  Value := Value
  read := read

end Field

/-- The options that members make up: the identifier is required, the others have defaults. -/
def gather (members : List (Member Field)) : Option Options := do
  let clientId ← only (valuesOf Field.clientId members)
  let keepAliveSeconds ← onlyOr defaultKeepAliveSeconds (valuesOf Field.keepAliveSeconds members)
  let cleanSession ← onlyOr true (valuesOf Field.cleanSession members)
  return { clientId := String.ofList clientId, keepAliveSeconds, cleanSession }

/-- Reads options; a text that cannot be read is an invalid argument. -/
def ofText (text : String) : Except Fault Options :=
  match (readDocument readMember text).bind gather with
  | none => .error .invalidArgument
  | some options => .ok options

end Options

end FieldLink.Mqtt
