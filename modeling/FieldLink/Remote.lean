/-
  FieldLink.Remote
  ────────────────────────────────
  **NETWORK ADDRESSES.**

  A network is asked for a host and a service number in one text,
  `host:service`, which must fit a buffer of fixed size.
-/
import FieldLink.Fault

namespace FieldLink

/-- A service of a host. -/
structure Remote where
  /-- Name or number of the host. -/
  host : String
  /-- Number of the service on it. -/
  service : UInt16
deriving DecidableEq

namespace Remote

/-- Longest address, in octets. -/
def maxAddressLength : Nat := 64

/-- The address as one text. -/
def text (remote : Remote) : String := remote.host ++ ":" ++ toString remote.service.toNat

/-- The address, if there is a host and the text fits. -/
def address (remote : Remote) : Except Fault String :=
  if remote.host = "" ∨ maxAddressLength < remote.text.utf8ByteSize then .error .invalidAddress
  else .ok remote.text

end Remote

end FieldLink
