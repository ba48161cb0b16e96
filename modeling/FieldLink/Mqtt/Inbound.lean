/-
  FieldLink.Mqtt.Inbound
  ────────────────────────────────
  **TAKING ONE PACKET OFF THE STREAM.**

  A poll takes at most one packet.  An `Inbound` says what it found: silence,
  a packet, a packet that was too long and has been skipped, or a stream
  that cannot be used any more.  The first two octets are awaited together;
  once they are there, silence means that the stream is broken.
-/
import FieldLink.Line.Transfer
import FieldLink.Mqtt.Packet

namespace FieldLink.Mqtt

/-- What one poll found on the stream. -/
inductive Inbound where
  /-- Nothing came. -/
  | silence
  /-- A packet: its header octet and its body. -/
  | packet (header : UInt8) (body : Octets)
  /-- A packet that was too long; its body is gone. -/
  | oversized (header : UInt8) (length : Nat)
  /-- The stream cannot be used any more. -/
  | broken (fault : Fault)
deriving DecidableEq

namespace Inbound

/-- Octets discarded at a time. -/
def discardChunk : Nat := 64

/-- Within a packet silence is a failed read. -/
def withinPacket : Fault → Fault
  | .timedOut => .readFailed
  | fault => fault

variable {σ : Type} [OctetStream σ]

/-- Reads on until the length field is complete; `more` octets may still come. -/
def receiveLength : Nat → Octets → Line σ → Except Fault Nat × Line σ
  | more, field, line =>
    match RemainingLength.decode field, more with
    | .error fault, _ => (.error fault, line)
    | .ok (some (length, _)), _ => (.ok length, line)
    | .ok none, 0 => (.error .protocolViolation, line)
    | .ok none, more + 1 =>
      match line.readExact 1 with
      | (.error fault, line) => (.error (withinPacket fault), line)
      | (.ok octets, line) => receiveLength more (field ++ octets) line

/-- Reads octets and forgets them, a chunk at a time. -/
def discard (length : Nat) (line : Line σ) : Except Fault Unit × Line σ :=
  if length = 0 then (.ok (), line)
  else
    match line.readExact (min length discardChunk) with
    | (.error fault, line) => (.error (withinPacket fault), line)
    | (.ok _, line) => discard (length - min length discardChunk) line
termination_by length
decreasing_by
  simp only [discardChunk]
  omega

/-- Receives what is behind the header octet and the first octet of the length field. -/
def receiveBody (header first : UInt8) (line : Line σ) : Inbound × Line σ :=
  match receiveLength (RemainingLength.maxOctets - 1) [first] line with
  | (.error fault, line) => (.broken fault, line)
  | (.ok length, line) =>
    if maxPacketLength < length then
      match discard length line with
      | (.error fault, line) => (.broken fault, line)
      | (.ok (), line) => (.oversized header length, line)
    else
      match line.readExact length with
      | (.error fault, line) => (.broken (withinPacket fault), line)
      | (.ok body, line) => (.packet header body, line)

/-- Waits for a packet and receives it. -/
def receive (timeoutMs : UInt32) (line : Line σ) : Inbound × Line σ :=
  match line.setTimeout timeoutMs with
  | (false, line) => (.broken .readFailed, line)
  | (true, line) =>
    match line.readExact 2 with
    | (.error .timedOut, line) => (.silence, line)
    | (.error fault, line) => (.broken fault, line)
    | (.ok [header, first], line) => receiveBody header first line
    | (.ok _, line) => (.broken .readFailed, line)

end Inbound

end FieldLink.Mqtt
