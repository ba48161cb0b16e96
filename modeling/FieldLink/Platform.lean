/-
  FieldLink.Platform
  ────────────────────────────────
  **WHAT THE PLATFORM SUPPLIES.**

  The library never opens a socket or a serial line itself.  A platform is
  a type `σ` of states with the calls below; a call takes the state and
  gives its answer together with the state it leaves.  Three classes split
  the calls by who needs them:

      OctetStream — the calls on the connection that is open
      Dialer      — opening a connection over a network
      SerialBus   — finding, opening and configuring a serial device

  The two laws of `OctetStream` are all that the library relies on: a read
  gives no more than it was asked for, and a write takes no more than it
  was given.
-/
import FieldLink.Serial.Config

namespace FieldLink

/-- The calls on an open connection. -/
class OctetStream (σ : Type) where
  /-- Reads at most the given number of octets: `none` when the read fails, and no octets when
  the peer has closed the stream. -/
  read : Nat → σ → Option Octets × σ
  /-- Offers octets: how many of them were taken, or `none` when the write fails. -/
  write : Octets → σ → Option Nat × σ
  /-- Pushes out what was written, and tells whether that worked. -/
  flush : σ → Bool × σ
  /-- Bounds the wait of the next reads, in milliseconds, and tells whether that worked. -/
  setTimeout : UInt32 → σ → Bool × σ
  /-- Closes the connection, and tells whether that worked. -/
  close : σ → Bool × σ
  /-- A read gives no more than it was asked for. -/
  read_length_le : ∀ {limit state octets state'},
    read limit state = (some octets, state') → octets.length ≤ limit
  /-- A write takes no more than it was given. -/
  write_le_length : ∀ {octets state taken state'},
    write octets state = (some taken, state') → taken ≤ octets.length

/-- The calls that open a connection over a network. -/
class Dialer (σ : Type) where
  /-- Opens a connection to an address, and tells whether that worked. -/
  dial : String → σ → Bool × σ
  /-- Whether the network can encrypt a connection at all. -/
  hasTls : σ → Bool
  /-- Encrypts the connection that was just opened. -/
  startTls : σ → Except Fault Unit × σ

/-- The calls that open a serial device. -/
class SerialBus (σ : Type) where
  /-- Lists the devices that are present, or `none` when the list cannot be made. -/
  enumerate : σ → Option (List Serial.Device) × σ
  /-- Opens a device, and tells whether that worked. -/
  openDevice : Serial.Device → σ → Bool × σ
  /-- Applies settings to the device that was just opened. -/
  configure : Serial.Config → σ → Except Fault Unit × σ

end FieldLink
