/-
  FieldLink.Fault
  ────────────────────────────────
  **WHAT CAN GO WRONG ON A LINE.**

  Every operation of the library either succeeds or names one cause.  The
  causes fall into three kinds: the octet stream failed, the peer or the
  caller broke the protocol, or a table or buffer of fixed size is full.
  The kind decides whether a Modbus master keeps its connection.
-/
import FieldLink.Octets

namespace FieldLink

/-- The cause of a failed operation. -/
inductive Fault where
  /-- No connection is open. -/
  | notOpen
  /-- Writing or flushing failed. -/
  | writeFailed
  /-- Reading failed in the middle of a unit. -/
  | readFailed
  /-- The peer, or the platform on its behalf, refused the connection. -/
  | connectionRefused
  /-- Nothing arrived in time. -/
  | timedOut
  /-- The peer closed the stream. -/
  | connectionClosed
  /-- The address is empty or too long. -/
  | invalidAddress
  /-- No serial device has the requested path. -/
  | deviceNotFound
  /-- The peer sent something malformed or unexpected. -/
  | protocolViolation
  /-- A serial frame carries one checksum and its contents have another. -/
  | checksumMismatch (carried computed : UInt16)
  /-- The device answered with an exception. -/
  | deviceException (function code : UInt8)
  /-- The operation or option is not supported. -/
  | unsupported
  /-- An argument is outside the range that the protocol allows. -/
  | invalidArgument
  /-- A table or buffer of fixed size is full. -/
  | capacityExceeded
deriving DecidableEq

namespace Fault

/-- The three kinds of cause. -/
inductive Kind where
  /-- The octet stream failed. -/
  | transport
  /-- The peer or the caller broke the protocol. -/
  | protocol
  /-- A fixed-size resource ran out. -/
  | resource
deriving DecidableEq

/-- The kind that a cause belongs to. -/
def kind : Fault → Kind
  | notOpen | writeFailed | readFailed | connectionRefused | timedOut | connectionClosed
  | invalidAddress | deviceNotFound => .transport
  | protocolViolation | checksumMismatch .. | deviceException .. | unsupported
  | invalidArgument => .protocol
  | capacityExceeded => .resource

/-- The sentence shown to a person. -/
def message : Fault → String
  | notOpen => "Connection not open"
  | writeFailed => "Write failed"
  | readFailed => "Read failed"
  | connectionRefused => "Connection refused"
  | timedOut => "Timed out"
  | connectionClosed => "Connection closed by peer"
  | invalidAddress => "Invalid address"
  | deviceNotFound => "Serial device not found"
  | protocolViolation => "Protocol error"
  | checksumMismatch carried computed =>
    "Invalid CRC: expected = 0x" ++ Octets.hexText 4 carried.toNat
      ++ ", actual = 0x" ++ Octets.hexText 4 computed.toNat
  | deviceException function code =>
    "Modbus exception 0x" ++ Octets.hexText 2 code.toNat
      ++ " for function 0x" ++ Octets.hexText 2 function.toNat
  | unsupported => "Unsupported operation"
  | invalidArgument => "Invalid argument"
  | capacityExceeded => "Buffer overflow"

end Fault

end FieldLink
