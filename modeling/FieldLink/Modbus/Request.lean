/-
  FieldLink.Modbus.Request
  ────────────────────────────────
  **WHAT A MASTER ASKS FOR.**

  The four data tables with the functions that read and write them, and the
  data of each request: where to start, how many items, and for a write the
  octet count and the values.  A request that is out of range is an invalid
  argument before anything is sent.
-/
import FieldLink.Fault
import FieldLink.Modbus.Coils

namespace FieldLink.Modbus

/-! ## §1. Tables and functions. -/

/-- The data tables of a device. -/
inductive DataTable where
  /-- Single bits that can be read and written. -/
  | coils
  /-- Single bits that can only be read. -/
  | discreteInputs
  /-- Words that can be read and written. -/
  | holdingRegisters
  /-- Words that can only be read. -/
  | inputRegisters
deriving DecidableEq

/-- The function that writes coils. -/
def writeCoilsFunction : UInt8 := 0x0F

/-- The function that writes holding registers. -/
def writeRegistersFunction : UInt8 := 0x10

/-- Most bits in one read. -/
def maxReadBits : Nat := 2000

/-- Most registers in one read. -/
def maxReadRegisters : Nat := 125

/-- Most coils in one write. -/
def maxWriteCoils : Nat := 1968

/-- Most registers in one write. -/
def maxWriteRegisters : Nat := 123

namespace DataTable

/-- The function that reads a table. -/
def readFunction : DataTable → UInt8
  | coils => 0x01
  | discreteInputs => 0x02
  | holdingRegisters => 0x03
  | inputRegisters => 0x04

/-- The function that writes a table, unless it can only be read. -/
def writeFunction : DataTable → Option UInt8
  | coils => some writeCoilsFunction
  | holdingRegisters => some writeRegistersFunction
  | discreteInputs | inputRegisters => none

/-- Most items of a table in one read. -/
def maxRead : DataTable → Nat
  | coils | discreteInputs => maxReadBits
  | holdingRegisters | inputRegisters => maxReadRegisters

end DataTable

/-! ## §2. Request data. -/

namespace Request

/-- Data of a read: first address and number of items. -/
def read (address quantity : UInt16) : Octets := Octets.big address ++ Octets.big quantity

/-- Data of a write: first address, number of items, and the values behind their octet count. -/
def write (address : UInt16) (items : Nat) (values : Octets) : Octets :=
  Octets.big address ++ Octets.big (UInt16.ofNat items) ++ UInt8.ofNat values.length :: values

/-- Data of a coil write. -/
def writeCoils (address : UInt16) (coils : List Bool) : Except Fault Octets :=
  if coils = [] ∨ maxWriteCoils < coils.length then .error .invalidArgument
  else .ok (write address coils.length (Coils.pack coils))

/-- Data of a register write; the registers are given as octets, high octet first. -/
def writeRegisters (address : UInt16) (octets : Octets) : Except Fault Octets :=
  if octets = [] ∨ octets.length % 2 ≠ 0 ∨ maxWriteRegisters < octets.length / 2 then
    .error .invalidArgument
  else .ok (write address (octets.length / 2) octets)

end Request

end FieldLink.Modbus
