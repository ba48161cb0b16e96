/-
  FieldLink.Run
  ────────────────────────────────
  **WHAT PERFORMS OPERATIONS ON A LINE, AND RUNS OF IT.**

  A session of either client is a device together with the line it talks
  over, and it performs one operation at a time.  What a run of operations
  is does not depend on the client, so a statement about every history of a
  client is a statement about every list of its operations.
-/
import FieldLink.Line

namespace FieldLink

/-- A device with the line it talks over, and the operations that it performs. -/
class Endpoint (S : Type) (O R κ σ : outParam Type) where
  /-- The device. -/
  device : S → κ
  /-- The line. -/
  line : S → Line σ
  /-- Performs one operation. -/
  apply : S → O → Except Fault R × S

namespace Endpoint

variable {S O R κ σ : Type} [Endpoint S O R κ σ]

/-- What is left after a list of operations. -/
def run (session : S) (operations : List O) : S :=
  operations.foldl (fun session operation => (apply session operation).2) session

end Endpoint

end FieldLink
