/-
  FieldLink.Wire
  ────────────────────────────────
  **A SCRIPTED PLATFORM.**

  A `Wire` plays the far end of every connection from a script: the octets
  it will deliver, how much it will take, and which calls fail.  Clients
  can be tried on it without a device, and every statement about platforms
  has it as an instance.
-/
import FieldLink.Line.Transfer

namespace FieldLink

namespace Wire

/-- One entry of the inbound script. -/
inductive Item where
  /-- Octets that arrive together; one read never spans two chunks. -/
  | chunk (octets : Octets)
  /-- One read that gives nothing. -/
  | ending
  /-- One read that fails. -/
  | failure
deriving DecidableEq

/-- How the network answers a request for encryption. -/
inductive Tls where
  /-- It cannot encrypt. -/
  | absent
  /-- It encrypts. -/
  | works
  /-- It tries and fails. -/
  | fails (fault : Fault)
deriving DecidableEq

/-- The network's script. -/
structure Network where
  /-- Connections are refused. -/
  refuses : Bool := false
  /-- The answer to a request for encryption. -/
  tls : Tls := .absent

/-- The serial bus's script. -/
structure Bus where
  /-- Paths of the devices that are present. -/
  paths : List String := []
  /-- Listing the devices fails. -/
  failsToEnumerate : Bool := false
  /-- Opening a device fails. -/
  failsToOpen : Bool := false
  /-- Configuring a device fails so. -/
  configureFault : Option Fault := none

end Wire

/-- A scripted platform. -/
structure Wire where
  /-- What reads will find. -/
  inbound : List Wire.Item := []
  /-- With nothing left a read gives nothing, where it would fail otherwise. -/
  endsWhenIdle : Bool := false
  /-- Most octets that one write takes. -/
  writeChunk : Option Nat := none
  /-- Octets that can still be taken in all. -/
  writeBudget : Option Nat := none
  /-- With the budget used up a write takes nothing, where it would fail otherwise. -/
  stallsWhenSpent : Bool := false
  /-- Flushing fails. -/
  failsToFlush : Bool := false
  /-- Bounding the wait fails. -/
  failsToSetTimeout : Bool := false
  /-- Closing fails. -/
  failsToClose : Bool := false
  /-- The network. -/
  network : Wire.Network := {}
  /-- The serial bus. -/
  bus : Wire.Bus := {}

namespace Wire

/-! ## §1. The open connection. -/

/-- The rest of a chunk in front of the other items, if there is a rest. -/
def putBack : Octets → List Item → List Item
  | [], items => items
  | rest, items => .chunk rest :: items

/-- Takes the first item; the part of a chunk that was not asked for stays in front. -/
def read (limit : Nat) (wire : Wire) : Option Octets × Wire :=
  match wire.inbound with
  | [] => (if wire.endsWhenIdle then some [] else none, wire)
  | .ending :: items => (some [], { wire with inbound := items })
  | .failure :: items => (none, { wire with inbound := items })
  | .chunk octets :: items =>
    (some (octets.take limit), { wire with inbound := putBack (octets.drop limit) items })

/-- Octets from the front, at most as many as a bound allows. -/
def upTo (bound : Option Nat) (octets : Octets) : Octets :=
  match bound with
  | none => octets
  | some bound => octets.take bound

/-- Takes what the chunk size and the budget allow. -/
def write (octets : Octets) (wire : Wire) : Option Nat × Wire :=
  if wire.writeBudget = some 0 then
    (if wire.stallsWhenSpent then some 0 else none, wire)
  else
    let taken := (upTo wire.writeBudget (upTo wire.writeChunk octets)).length
    (some taken, { wire with writeBudget := wire.writeBudget.map (· - taken) })

theorem length_upTo_le (bound : Option Nat) (octets : Octets) :
    (upTo bound octets).length ≤ octets.length := by
  cases bound with
  | none => exact Nat.le_refl _
  | some bound => exact List.length_take_le' bound octets

theorem read_length_le {limit : Nat} {wire wire' : Wire} {octets : Octets}
    (h : wire.read limit = (some octets, wire')) : octets.length ≤ limit := by
  unfold read at h
  split at h
  · split at h <;> simp_all
  · simp_all
  · simp_all
  · obtain ⟨rfl, -⟩ := by simpa using h
    exact List.length_take_le _ _

theorem write_le_length {octets : Octets} {wire wire' : Wire} {taken : Nat}
    (h : wire.write octets = (some taken, wire')) : taken ≤ octets.length := by
  unfold write at h
  split at h
  · split at h
    · obtain ⟨rfl, -⟩ := by simpa using h
      exact Nat.zero_le _
    · simp at h
  · obtain ⟨rfl, -⟩ := by simpa using h
    exact Nat.le_trans (length_upTo_le _ _) (length_upTo_le _ _)

instance : OctetStream Wire where
  read := read
  write := write
  flush wire := (!wire.failsToFlush, wire)
  setTimeout _ wire := (!wire.failsToSetTimeout, wire)
  close wire := (!wire.failsToClose, wire)
  read_length_le := read_length_le
  write_le_length := write_le_length

/-! ## §2. The network and the serial bus. -/

instance : Dialer Wire where
  dial _ wire := (!wire.network.refuses, wire)
  hasTls wire := wire.network.tls ≠ .absent
  startTls wire :=
    match wire.network.tls with
    | .absent => (.error .unsupported, wire)
    | .works => (.ok (), wire)
    | .fails fault => (.error fault, wire)

/-- The devices that are present; none can be listed if there are too many or a path is too long. -/
def Bus.devices (bus : Bus) : Option (List Serial.Device) :=
  if bus.failsToEnumerate ∨ Serial.maxDevices < bus.paths.length then none
  else (bus.paths.mapM Serial.Device.ofPath).toOption

instance : SerialBus Wire where
  enumerate wire := (wire.bus.devices, wire)
  openDevice _ wire := (!wire.bus.failsToOpen, wire)
  configure _ wire :=
    match wire.bus.configureFault with
    | none => (.ok (), wire)
    | some fault => (.error fault, wire)

end Wire

end FieldLink
