/-
  FieldLink.Serial.Config
  ────────────────────────────────
  **SERIAL LINES: SETTINGS AND DEVICES.**

  A serial line is found by the path of its device, opened, and configured
  before the first frame goes out.  `Config.validate` says which settings a
  line driver can be asked for; a `Device` carries the proof that its path
  fits the fixed path buffer.
-/
import FieldLink.Fault

namespace FieldLink.Serial

/-! ## §1. Line settings. -/

/-- The parity bit of each character. -/
inductive Parity where
  /-- No parity bit. -/
  | none
  /-- An even number of ones. -/
  | even
  /-- An odd number of ones. -/
  | odd
deriving DecidableEq

/-- How a receiver tells the sender to pause. -/
inductive FlowControl where
  /-- Not at all. -/
  | none
  /-- By XON and XOFF characters. -/
  | software
  /-- By the RTS and CTS wires. -/
  | hardware
deriving DecidableEq

/-- The settings of a serial line; the defaults are the usual 9600 baud, 8N1, one second. -/
structure Config where
  /-- Speed in bits per second. -/
  baudRate : UInt32 := 9600
  /-- Parity of each character. -/
  parity : Parity := .none
  /-- Stop bits after each character. -/
  stopBits : UInt8 := 1
  /-- Data bits in each character. -/
  dataBits : UInt8 := 8
  /-- Pausing of the sender. -/
  flowControl : FlowControl := .none
  /-- Longest wait of one read, in milliseconds. -/
  timeoutMs : UInt32 := 1000
deriving DecidableEq

namespace Config

/-- A driver can run the line: it has a speed, one or two stop bits and five to eight data bits. -/
def Runnable (config : Config) : Prop :=
  config.baudRate ≠ 0 ∧ (config.stopBits = 1 ∨ config.stopBits = 2)
    ∧ 5 ≤ config.dataBits ∧ config.dataBits ≤ 8

instance (config : Config) : Decidable config.Runnable := by
  unfold Runnable
  infer_instance

/-- Settings that no driver can run are an invalid argument. -/
def validate (config : Config) : Except Fault Unit :=
  if config.Runnable then .ok () else .error .invalidArgument

end Config

/-! ## §2. Devices. -/

/-- Longest path of a serial device, in octets. -/
def maxPathLength : Nat := 64

/-- Most devices that one enumeration can report. -/
def maxDevices : Nat := 16

/-- A serial device that the platform knows by its path. -/
structure Device where
  /-- Path of the device, for instance `/dev/ttyUSB0`. -/
  path : String
  /-- The path fits its buffer. -/
  path_fits : path.utf8ByteSize ≤ maxPathLength
deriving DecidableEq

/-- The device at a path, if the path fits. -/
def Device.ofPath (path : String) : Except Fault Device :=
  if h : path.utf8ByteSize ≤ maxPathLength then .ok ⟨path, h⟩ else .error .invalidAddress

end FieldLink.Serial
