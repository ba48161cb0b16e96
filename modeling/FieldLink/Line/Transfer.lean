/-
  FieldLink.Line.Transfer
  ────────────────────────────────
  **WHOLE TRANSFERS FROM PARTIAL READS AND WRITES.**

  A platform may deliver or take octets a few at a time.  `gather` reads
  until it has what it needs or must stop, and says why it stopped;
  `readExact` turns that into a result, and `fill` reads into a buffer in
  place.  `offerAll` writes until everything is taken or nothing more is;
  `writeAll` adds the one flush at the end.  None ever reads into nor
  offers an empty buffer.

      length_readExact — what has been read has the length asked for
-/
import FieldLink.Line

namespace FieldLink

/-- Why a reader stopped before it had all it needed. -/
inductive Shortfall where
  /-- A read gave nothing: the peer has closed the stream. -/
  | closed
  /-- A read failed. -/
  | failed
deriving DecidableEq

/-- What a reader collected. -/
structure Gathered (σ : Type) where
  /-- The octets, first received first. -/
  octets : Octets
  /-- Why it stopped early, if it did. -/
  shortfall : Option Shortfall
  /-- The line afterwards. -/
  line : Line σ

/-- Complete only without a shortfall.  A failed read before the first octet means that nothing
came in time; one after it leaves the stream out of step. -/
def Gathered.result {σ : Type} (gathered : Gathered σ) : Except Fault Octets :=
  match gathered.shortfall with
  | none => .ok gathered.octets
  | some .closed => .error .connectionClosed
  | some .failed => .error (if gathered.octets = [] then .timedOut else .readFailed)

/-- What became of a buffer that was to be filled. -/
structure Filled (σ : Type) where
  /-- Whether it is full, or why it is not. -/
  result : Except Fault Unit
  /-- Its octets. -/
  buffer : Octets
  /-- The line afterwards. -/
  line : Line σ

namespace Line

variable {σ : Type} [OctetStream σ]

/-! ## §1. Reading. -/

/-- Reads until `need` octets have come or a read gives nothing. -/
def gather (need : Nat) (line : Line σ) : Gathered σ :=
  if need = 0 then ⟨[], none, line⟩
  else
    match line.read need with
    | (none, line) => ⟨[], some .failed, line⟩
    | (some [], line) => ⟨[], some .closed, line⟩
    | (some (octet :: octets), line) =>
      let rest := gather (need - (octets.length + 1)) line
      { rest with octets := octet :: octets ++ rest.octets }
termination_by need

@[simp] theorem gather_zero (line : Line σ) : line.gather 0 = ⟨[], none, line⟩ := by
  rw [gather]
  rfl

/-- Without a shortfall a reader has all it needed. -/
theorem length_gather {need : Nat} {line : Line σ} (h : (line.gather need).shortfall = none) :
    (line.gather need).octets.length = need := by
  induction need using Nat.strongRecOn generalizing line with
  | ind need ih =>
    rw [gather] at h ⊢
    split
    · next hzero => exact hzero.symm
    · next hpos =>
      rw [if_neg hpos] at h
      split at h
      · cases h
      · cases h
      · next octet octets line' hread =>
        have hle := length_read_le hread
        simp only [List.length_cons] at hle
        have hrest := ih (need - (octets.length + 1)) (by omega) h
        simp only [List.cons_append, List.length_cons, List.length_append, hrest]
        omega

/-- Reads exactly `need` octets. -/
def readExact (need : Nat) (line : Line σ) : Except Fault Octets × Line σ :=
  let gathered := line.gather need
  (gathered.result, gathered.line)

/-- What has been read exactly has the length that was asked for. -/
theorem length_readExact {need : Nat} {line line' : Line σ} {octets : Octets}
    (h : line.readExact need = (.ok octets, line')) : octets.length = need := by
  obtain ⟨hresult, -⟩ := Prod.mk.inj h
  unfold Gathered.result at hresult
  split at hresult
  · next hnone =>
    obtain rfl := Except.ok.inj hresult
    exact length_gather hnone
  · cases hresult
  · cases hresult

/-! ## §2. Reading into a buffer. -/

/-- Fills a buffer from a place on; every piece goes behind the one before it. -/
def fillFrom (place : Nat) (buffer : Octets) (line : Line σ) : Filled σ :=
  if buffer.length ≤ place then ⟨.ok (), buffer, line⟩
  else
    match line.read (buffer.length - place) with
    | (none, line) => ⟨.error (if place = 0 then .timedOut else .readFailed), buffer, line⟩
    | (some [], line) => ⟨.error .connectionClosed, buffer, line⟩
    | (some (octet :: octets), line) =>
      fillFrom (place + (octets.length + 1)) (Octets.overwrite place (octet :: octets) buffer) line
termination_by buffer.length - place
decreasing_by
  simp only [Octets.overwrite, List.length_append, List.length_take, List.length_drop,
    List.length_cons]
  omega

/-- Fills a whole buffer. -/
def fill (buffer : Octets) (line : Line σ) : Filled σ := line.fillFrom 0 buffer

/-! ## §3. Writing. -/

/-- Offers octets until all are taken; `false` once a write fails or takes none. -/
def offerAll : Octets → Line σ → Bool × Line σ
  | [], line => (true, line)
  | octet :: octets, line =>
    match line.write (octet :: octets) with
    | (none, line) => (false, line)
    | (some 0, line) => (false, line)
    | (some (taken + 1), line) => offerAll (octets.drop taken) line
termination_by octets => octets.length

/-- Writes all octets and flushes once. -/
def writeAll (octets : Octets) (line : Line σ) : Except Fault Unit × Line σ :=
  match line.offerAll octets with
  | (false, line) => (.error .writeFailed, line)
  | (true, line) =>
    match line.flush with
    | (false, line) => (.error .writeFailed, line)
    | (true, line) => (.ok (), line)

end Line

end FieldLink
