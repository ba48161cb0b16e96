/-
  FieldLink.Line
  ────────────────────────────────
  **A PLATFORM AND THE RECORD OF WHAT HAPPENED ON IT.**

  Clients reach their platform only through a `Line`.  Each call on a line
  is the platform's call, and adds one `Event` with its outcome to the log.
  What a client did is therefore a list that can be shown and reasoned
  about, whatever the platform is.  Encryption asked of a network that has
  none is refused here and reaches no platform.

      events_record  — an event goes after all earlier ones
      events_read …  — each call adds exactly one event, with its outcome
-/
import FieldLink.Platform

namespace FieldLink

/-- One thing that happened on a line. -/
inductive Event where
  /-- A read gave these octets; none of them when the peer has closed. -/
  | received (octets : Octets)
  /-- A read failed. -/
  | readFailed
  /-- A write took these octets. -/
  | sent (octets : Octets)
  /-- A write failed. -/
  | writeFailed
  /-- Written octets were pushed out. -/
  | flushed (worked : Bool)
  /-- The wait of the next reads was bounded. -/
  | timeoutSet (milliseconds : UInt32) (worked : Bool)
  /-- The connection was closed. -/
  | closed (worked : Bool)
  /-- A network connection was requested. -/
  | dialed (address : String) (worked : Bool)
  /-- Encryption was requested of a network that has it. -/
  | tlsStarted (fault : Option Fault)
  /-- The serial devices were listed. -/
  | enumerated (worked : Bool)
  /-- A serial device was opened. -/
  | opened (path : String) (worked : Bool)
  /-- A serial device was configured. -/
  | configured (config : Serial.Config) (fault : Option Fault)
  /-- A message was handed to the handler of its topic. -/
  | delivered (topic : String) (payload : Octets)
deriving DecidableEq

/-- A platform with the log of what happened on it, oldest first. -/
structure Line (σ : Type) where
  /-- State of the platform. -/
  platform : σ
  /-- What happened so far. -/
  log : Array Event := #[]

namespace Line

variable {σ : Type}

/-- The cause of a failure, if there was one. -/
def faultOf : Except Fault Unit → Option Fault
  | .ok () => none
  | .error fault => some fault

/-- Puts an event at the end of the log. -/
def record (line : Line σ) (event : Event) : Line σ := { line with log := line.log.push event }

/-- What happened on the line, oldest first. -/
def events (line : Line σ) : List Event := line.log.toList

/-- The line with its log emptied. -/
def quiet (line : Line σ) : Line σ := { line with log := #[] }

@[simp] theorem events_record (line : Line σ) (event : Event) :
    (line.record event).events = line.events ++ [event] := by
  simp [events, record]

@[simp] theorem platform_record (line : Line σ) (event : Event) :
    (line.record event).platform = line.platform := rfl

/-! ## §1. The open connection. -/

section Stream

variable [OctetStream σ]

/-- Reads at most `limit` octets. -/
def read (limit : Nat) (line : Line σ) : Option Octets × Line σ :=
  match OctetStream.read limit line.platform with
  | (some octets, state) => (some octets, { line with platform := state }.record (.received octets))
  | (none, state) => (none, { line with platform := state }.record .readFailed)

/-- Offers octets and tells how many were taken. -/
def write (octets : Octets) (line : Line σ) : Option Nat × Line σ :=
  match OctetStream.write octets line.platform with
  | (some taken, state) =>
    (some taken, { line with platform := state }.record (.sent (octets.take taken)))
  | (none, state) => (none, { line with platform := state }.record .writeFailed)

/-- Pushes out what was written. -/
def flush (line : Line σ) : Bool × Line σ :=
  match OctetStream.flush line.platform with
  | (worked, state) => (worked, { line with platform := state }.record (.flushed worked))

/-- Bounds the wait of the next reads. -/
def setTimeout (milliseconds : UInt32) (line : Line σ) : Bool × Line σ :=
  match OctetStream.setTimeout milliseconds line.platform with
  | (worked, state) =>
    (worked, { line with platform := state }.record (.timeoutSet milliseconds worked))

/-- Closes the connection; a failure to close leaves nothing that could still be used. -/
def close (line : Line σ) : Line σ :=
  match OctetStream.close line.platform with
  | (worked, state) => { line with platform := state }.record (.closed worked)

/-- The event of a read with this answer. -/
def readEvent : Option Octets → Event
  | some octets => .received octets
  | none => .readFailed

/-- The event of an offer with this answer. -/
def writeEvent (octets : Octets) : Option Nat → Event
  | some taken => .sent (octets.take taken)
  | none => .writeFailed

theorem events_read (limit : Nat) (line : Line σ) :
    (line.read limit).2.events = line.events ++ [readEvent (line.read limit).1] := by
  unfold read
  split <;> simp [readEvent, events, record]

theorem events_write (octets : Octets) (line : Line σ) :
    (line.write octets).2.events = line.events ++ [writeEvent octets (line.write octets).1] := by
  unfold write
  split <;> simp [writeEvent, events, record]

theorem events_flush (line : Line σ) :
    line.flush.2.events = line.events ++ [.flushed line.flush.1] := by
  simp [flush, events, record]

theorem events_setTimeout (milliseconds : UInt32) (line : Line σ) :
    (line.setTimeout milliseconds).2.events
      = line.events ++ [.timeoutSet milliseconds (line.setTimeout milliseconds).1] := by
  simp [setTimeout, events, record]

theorem events_close (line : Line σ) :
    line.close.events = line.events ++ [.closed (OctetStream.close line.platform).1] := by
  simp [close, events, record]

/-- A read gives no more than it was asked for. -/
theorem length_read_le {limit : Nat} {line line' : Line σ} {octets : Octets}
    (h : line.read limit = (some octets, line')) : octets.length ≤ limit := by
  unfold read at h
  split at h
  · rename_i state hread
    obtain ⟨rfl, -⟩ := by simpa using h
    exact OctetStream.read_length_le hread
  · simp at h

/-- A write takes no more than it was given. -/
theorem write_le_length {octets : Octets} {line line' : Line σ} {taken : Nat}
    (h : line.write octets = (some taken, line')) : taken ≤ octets.length := by
  unfold write at h
  split at h
  · rename_i state hwrite
    obtain ⟨rfl, -⟩ := by simpa using h
    exact OctetStream.write_le_length hwrite
  · simp at h

end Stream

/-! ## §2. Opening a connection. -/

/-- Opens a network connection. -/
def dial [Dialer σ] (address : String) (line : Line σ) : Bool × Line σ :=
  match Dialer.dial address line.platform with
  | (worked, state) => (worked, { line with platform := state }.record (.dialed address worked))

theorem events_dial [Dialer σ] (address : String) (line : Line σ) :
    (line.dial address).2.events = line.events ++ [.dialed address (line.dial address).1] := by
  simp [dial, events, record]

/-- Encrypts the connection; a network without encryption refuses and is not asked. -/
def startTls [Dialer σ] (line : Line σ) : Except Fault Unit × Line σ :=
  if Dialer.hasTls line.platform then
    match Dialer.startTls line.platform with
    | (result, state) =>
      (result, { line with platform := state }.record (.tlsStarted (faultOf result)))
  else
    (.error .unsupported, line)

/-- Lists the serial devices. -/
def enumerate [SerialBus σ] (line : Line σ) : Option (List Serial.Device) × Line σ :=
  match SerialBus.enumerate line.platform with
  | (devices, state) =>
    (devices, { line with platform := state }.record (.enumerated devices.isSome))

theorem events_enumerate [SerialBus σ] (line : Line σ) :
    line.enumerate.2.events = line.events ++ [.enumerated line.enumerate.1.isSome] := by
  simp [enumerate, events, record]

/-- Opens a serial device. -/
def openDevice [SerialBus σ] (device : Serial.Device) (line : Line σ) : Bool × Line σ :=
  match SerialBus.openDevice device line.platform with
  | (worked, state) => (worked, { line with platform := state }.record (.opened device.path worked))

theorem events_openDevice [SerialBus σ] (device : Serial.Device) (line : Line σ) :
    (line.openDevice device).2.events
      = line.events ++ [.opened device.path (line.openDevice device).1] := by
  simp [openDevice, events, record]

/-- Configures the serial device that was just opened. -/
def configure [SerialBus σ] (config : Serial.Config) (line : Line σ) :
    Except Fault Unit × Line σ :=
  match SerialBus.configure config line.platform with
  | (result, state) =>
    (result, { line with platform := state }.record (.configured config (faultOf result)))

theorem events_configure [SerialBus σ] (config : Serial.Config) (line : Line σ) :
    (line.configure config).2.events
      = line.events ++ [.configured config (faultOf (line.configure config).1)] := by
  simp [configure, events, record]

end Line

end FieldLink
