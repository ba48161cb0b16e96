/-
  FieldLink.Proofs.Modbus.Detection
  ────────────────────────────────
  **ERRORS THAT THE CHECKSUM NEVER MISSES.**

  Two frames of one length differ in a pattern of bits, the errors.  Since
  the register is linear, the second one leaves in it what the errors alone
  leave in an empty register; so it is accepted only if they leave nothing.
  Three kinds of errors always leave something:

      absorb_burst — all within sixteen bits: they are one word that is not
                     zero, and no step loses anything
      absorb_odd   — an odd number of them: every step keeps odd and even
      absorb_two   — two of them, up to 2047 bits apart: a single bit does
                     not come back to itself within so many steps

      burst_errors_refused     — the first kind, on frames of any length
      scattered_errors_refused — the other two, and the distance of frames
-/
import FieldLink.Proofs.Modbus.SerialFrame

namespace FieldLink.Modbus

namespace Frame

/-! ## §1. Errors. -/

/-- Which bits differ between a frame and what came of it, in the order of the line: octet by octet,
each one from its lowest bit on. -/
def errors (sent received : Octets) : List Bool :=
  List.zipWith xor (Coils.unpack sent) (Coils.unpack received)

/-- The frame is refused for its checksum. -/
def IsCorrupt (frame : Octets) : Prop :=
  ∃ carried computed, carried ≠ computed
    ∧ stripChecksum frame = .error (.checksumMismatch carried computed)

theorem length_errors {sent received : Octets} (h : received.length = sent.length) :
    (errors sent received).length = 8 * sent.length := by
  rw [errors, List.length_zipWith, Coils.length_unpack, Coils.length_unpack, h, Nat.min_self]

theorem errors_append {sent received : Octets} (h : sent.length = received.length)
    (sent' received' : Octets) :
    errors (sent ++ sent') (received ++ received')
      = errors sent received ++ errors sent' received' := by
  rw [errors, Coils.unpack_append, Coils.unpack_append, List.zipWith_append]
  · rfl
  · rw [Coils.length_unpack, Coils.length_unpack, h]

theorem errors_self (octets : Octets) :
    errors octets octets = List.replicate (8 * octets.length) false := by
  rw [errors, List.zipWith_self, ← Coils.length_unpack octets]
  simp

/-- Bits that do not differ anywhere are the same. -/
theorem eq_of_notMem_zipWith {digits digits' : List Bool} (h : digits.length = digits'.length)
    (hnone : true ∉ List.zipWith xor digits digits') : digits = digits' := by
  induction digits generalizing digits' with
  | nil => exact (List.length_eq_zero_iff.mp h.symm).symm
  | cons digit digits ih =>
    cases digits' with
    | nil => cases h
    | cons digit' digits' =>
      rw [List.zipWith_cons_cons, List.mem_cons, not_or] at hnone
      rw [ih (Nat.succ.inj h) hnone.2]
      have hsame : digit = digit' := by
        revert hnone
        cases digit <;> cases digit' <;> simp
      rw [hsame]

/-- Frames that differ have an error. -/
theorem mem_errors {sent received : Octets} (h : received.length = sent.length)
    (hne : received ≠ sent) : true ∈ errors sent received := by
  by_contra hnone
  refine hne (Coils.unpack_inj (eq_of_notMem_zipWith ?_ hnone)).symm
  rw [Coils.length_unpack, Coils.length_unpack, h]

/-- **What came in is refused if the errors leave something in an empty register.** -/
theorem isCorrupt_of_errors {sent received body : Octets} (h : stripChecksum sent = .ok body)
    (hlength : received.length = sent.length)
    (herrors : Checksum.absorb 0 (errors sent received) ≠ 0) : IsCorrupt received := by
  obtain ⟨hlong, hzero⟩ := accepted_iff_residue.mp ⟨body, h⟩
  have hleft : checksum received = Checksum.absorb 0 (errors sent received) := by
    have hdigits : (Coils.unpack sent).length = (Coils.unpack received).length := by
      rw [Coils.length_unpack, Coils.length_unpack, hlength]
    have hxor := Checksum.absorb_xor hdigits Checksum.start Checksum.start
    rw [← Checksum.checksum_eq_absorb, ← Checksum.checksum_eq_absorb, hzero, UInt16.zero_xor,
      UInt16.xor_self] at hxor
    exact hxor.symm
  rcases stripChecksum_cases (hlength ▸ hlong) with ⟨hnone, -⟩ | ⟨-, hrefused⟩
  · exact absurd (hleft.symm.trans hnone) herrors
  · obtain ⟨body', trailer, -, hwrong, hfault⟩ := hrefused
    exact ⟨trailer, checksum body', hwrong, hfault⟩

end Frame

/-! ## §2. Errors that leave something. -/

namespace Checksum

/-- **A burst leaves something**: up to sixteen bits, not all of them zero, with zeros around. -/
theorem absorb_burst {burst : List Bool} (hlength : burst.length ≤ 16) (hmem : true ∈ burst)
    (before after : Nat) :
    absorb 0 (List.replicate before false ++ burst ++ List.replicate after false) ≠ 0 := by
  rw [absorb_append, absorb_append, absorb_replicate_false, absorb_replicate_false, shifts_zero,
    absorb_short hlength, Ne, shifts_eq_zero_iff, shifts_eq_zero_iff, UInt16.zero_xor]
  intro hzero
  have hsmall : Coils.number burst < 2 ^ 16 :=
    Nat.lt_of_lt_of_le (Coils.number_lt burst) (Nat.pow_le_pow_right (by decide) hlength)
  have hnumber := congrArg UInt16.toNat hzero
  rw [UInt16.toNat_ofNat', Nat.mod_eq_of_lt hsmall] at hnumber
  exact Coils.notMem_of_number_eq_zero hnumber hmem

/-- Without a one there are zeros only. -/
theorem eq_replicate_of_notMem {digits : List Bool} (h : true ∉ digits) :
    digits = List.replicate digits.length false := by
  refine List.eq_replicate_iff.mpr ⟨rfl, ?_⟩
  intro digit hdigit
  cases digit with
  | false => rfl
  | true => exact absurd hdigit h

/-- Ones that stand within sixteen places are a burst. -/
theorem exists_burst {digits : List Bool} {first : Nat}
    (h : ∀ i, digits[i]? = some true → first ≤ i ∧ i < first + 16) :
    ∃ before burst after, burst.length ≤ 16
      ∧ digits = List.replicate before false ++ burst ++ List.replicate after false := by
  have hbefore : true ∉ digits.take first := by
    intro hmem
    obtain ⟨i, hi⟩ := List.mem_iff_getElem?.mp hmem
    rw [List.getElem?_take] at hi
    split at hi
    · have hplace := h i hi
      omega
    · cases hi
  have hafter : true ∉ digits.drop (first + 16) := by
    intro hmem
    obtain ⟨i, hi⟩ := List.mem_iff_getElem?.mp hmem
    rw [List.getElem?_drop] at hi
    have hplace := h _ hi
    omega
  refine ⟨(digits.take first).length, (digits.drop first).take 16,
    (digits.drop (first + 16)).length, List.length_take_le _ _, ?_⟩
  rw [← eq_replicate_of_notMem hbefore, ← eq_replicate_of_notMem hafter, List.append_assoc,
    ← List.drop_drop, List.take_append_drop, List.take_append_drop]

/-- **An odd number of errors leaves something.** -/
theorem absorb_odd {digits : List Bool} (h : Odd (digits.count true)) : absorb 0 digits ≠ 0 := by
  intro hzero
  have hkept := isOdd_absorb 0 digits
  rw [hzero, (odd_iff digits).mpr h] at hkept
  revert hkept
  decide

/-- A single bit does not come back to itself within 2047 steps. -/
theorem shifts_one_ne_one {steps : Nat} (h : steps < 2047) : shifts steps (shift 1) ≠ 1 := by
  have hnone : 1 ∉ List.iterate shift (shift 1) 2047 := by
    decide +kernel
  intro hone
  rw [shifts_eq_iterate] at hone
  exact hnone (List.mem_iterate.mpr ⟨steps, h, hone.symm⟩)

/-- Before the first one there are zeros only. -/
theorem exists_first {digits : List Bool} {count : Nat} (h : digits.count true = count + 1) :
    ∃ before rest, digits = List.replicate before false ++ true :: rest
      ∧ rest.count true = count := by
  induction digits with
  | nil => cases h
  | cons digit digits ih =>
    cases digit with
    | false =>
      obtain ⟨before, rest, rfl, hrest⟩ := ih (by simpa using h)
      exact ⟨before + 1, rest, rfl, hrest⟩
    | true => exact ⟨0, digits, rfl, by simpa using h⟩

/-- **Two errors leave something**, if they stand within 2048 bits. -/
theorem absorb_two {digits : List Bool} (h : digits.count true = 2) (hlength : digits.length ≤ 2048) :
    absorb 0 digits ≠ 0 := by
  obtain ⟨before, rest, rfl, hrest⟩ := exists_first h
  obtain ⟨between, rest', rfl, hrest'⟩ := exists_first hrest
  rw [List.count_eq_zero] at hrest'
  rw [eq_replicate_of_notMem hrest', absorb_append, absorb_replicate_false, shifts_zero,
    absorb_cons, absorb_append, absorb_replicate_false, absorb_cons, absorb_replicate_false, Ne,
    shifts_eq_zero_iff]
  intro hzero
  -- the second error would have to undo what has become of the first one
  have hback := UInt16.xor_eq_zero_iff.mp (eq_zero_of_shift hzero)
  simp only [List.length_append, List.length_replicate, List.length_cons] at hlength
  exact shifts_one_ne_one (by omega) hback

end Checksum

/-! ## §3. Frames that are refused. -/

/-- **A burst of errors is never missed.**  If what came in for an accepted frame differs from it,
and only within sixteen bits that follow each other, it is refused for its checksum, whatever the
length of the frame and wherever the sixteen bits stand.  So is a frame in which one octet, or two
octets next to each other, are changed in any way. -/
theorem burst_errors_refused {sent body : Octets} (h : Frame.stripChecksum sent = .ok body) :
    (∀ received first, received.length = sent.length → received ≠ sent →
        (∀ i, (Frame.errors sent received)[i]? = some true → first ≤ i ∧ i < first + 16) →
        Frame.IsCorrupt received)
      ∧ ∀ front middle middle' back, sent = front ++ middle ++ back →
        middle'.length = middle.length → middle.length ≤ 2 → middle' ≠ middle →
        Frame.IsCorrupt (front ++ middle' ++ back) := by
  refine ⟨?_, ?_⟩
  · intro received first hlength hne hwindow
    apply Frame.isCorrupt_of_errors h hlength
    obtain ⟨before, burst, after, hburst, herrors⟩ := Checksum.exists_burst hwindow
    have hmem := Frame.mem_errors hlength hne
    rw [herrors] at hmem ⊢
    refine Checksum.absorb_burst hburst ?_ before after
    simpa using hmem
  · rintro front middle middle' back rfl hlength hshort hne
    have hsame : (front ++ middle' ++ back).length = (front ++ middle ++ back).length := by
      simp only [List.length_append, hlength]
    apply Frame.isCorrupt_of_errors h hsame
    rw [Frame.errors_append (by simp only [List.length_append, hlength]),
      Frame.errors_append rfl, Frame.errors_self, Frame.errors_self]
    refine Checksum.absorb_burst ?_ (Frame.mem_errors hlength hne) _ _
    rw [Frame.length_errors hlength]
    omega

namespace Specimen

/-- The answer with its last bit of data and the first fifteen bits of its checksum changed. -/
def blurred : Octets := [1, 3, 2, 0, 42 ^^^ 0x80, 0x39 ^^^ 0xFF, 0x9B ^^^ 0x7F]

/-- The answer with three bits changed, one in each of three octets. -/
def speckled : Octets := [1 ^^^ 0x80, 3, 2, 0 ^^^ 0x10, 42, 0x39, 0x9B ^^^ 1]

/-- The answer with its first and its last bit changed. -/
def clipped : Octets := [1 ^^^ 1, 3, 2, 0, 42, 0x39, 0x9B ^^^ 0x80]

/-- The answer that the register is 43. -/
def increased : Octets := [1, 3, 2, 0, 43, 0xF8, 0x5B]

theorem answered_accepted : Frame.stripChecksum answered = .ok [1, 3, 2, 0, 42] := by
  decide +kernel

end Specimen

/-- A burst across the border between data and checksum is refused, and so is a change of two
octets. -/
theorem burst_errors_refused_specimen :
    Frame.stripChecksum Specimen.answered = .ok [1, 3, 2, 0, 42]
      ∧ (∀ i, (Frame.errors Specimen.answered Specimen.blurred)[i]? = some true → 39 ≤ i ∧ i < 55)
      ∧ Frame.IsCorrupt Specimen.blurred ∧ Frame.IsCorrupt ([1, 3] ++ [7, 7] ++ [42, 0x39, 0x9B]) := by
  obtain ⟨hburst, hoctets⟩ := burst_errors_refused Specimen.answered_accepted
  have hwindow : ∀ i, (Frame.errors Specimen.answered Specimen.blurred)[i]? = some true →
      39 ≤ i ∧ i < 55 := by
    have hplaces : ∀ i < 56, (Frame.errors Specimen.answered Specimen.blurred)[i]? = some true →
        39 ≤ i ∧ i < 55 := by
      decide +kernel
    intro i hi
    obtain ⟨hlt, -⟩ := List.getElem?_eq_some_iff.mp hi
    exact hplaces i hlt hi
  exact ⟨Specimen.answered_accepted, hwindow,
    hburst Specimen.blurred 39 rfl (by decide) hwindow,
    hoctets [1, 3] [2, 0] [7, 7] [42, 0x39, 0x9B] rfl rfl (by decide) (by decide)⟩

/-- **Scattered errors are never missed.**  If what came in for an accepted frame differs from it in
an odd number of bits, or in two bits of at most 256 octets, it is refused for its checksum.  So two
different frames of one length up to 256 octets that are both accepted differ in four bits at
least. -/
theorem scattered_errors_refused {sent received body : Octets}
    (h : Frame.stripChecksum sent = .ok body) (hlength : received.length = sent.length) :
    (Odd ((Frame.errors sent received).count true) → Frame.IsCorrupt received)
      ∧ ((Frame.errors sent received).count true = 2 → sent.length ≤ 256 →
        Frame.IsCorrupt received)
      ∧ (sent.length ≤ 256 → received ≠ sent → ∀ body', Frame.stripChecksum received = .ok body' →
        4 ≤ (Frame.errors sent received).count true) := by
  have hodd : Odd ((Frame.errors sent received).count true) → Frame.IsCorrupt received :=
    fun hcount => Frame.isCorrupt_of_errors h hlength (Checksum.absorb_odd hcount)
  have htwo : (Frame.errors sent received).count true = 2 → sent.length ≤ 256 →
      Frame.IsCorrupt received := by
    intro hcount hshort
    refine Frame.isCorrupt_of_errors h hlength (Checksum.absorb_two hcount ?_)
    rw [Frame.length_errors hlength]
    omega
  refine ⟨hodd, htwo, ?_⟩
  intro hshort hne body' haccepted
  have hsound : ¬ Frame.IsCorrupt received := by
    rintro ⟨carried, computed, -, hfault⟩
    cases haccepted.symm.trans hfault
  have hpos : 0 < (Frame.errors sent received).count true :=
    List.count_pos_iff.mpr (Frame.mem_errors hlength hne)
  have heven : Even ((Frame.errors sent received).count true) :=
    Nat.not_odd_iff_even.mp fun hcount => hsound (hodd hcount)
  have hnot : (Frame.errors sent received).count true ≠ 2 := fun hcount => hsound (htwo hcount hshort)
  obtain ⟨half, hhalf⟩ := heven
  omega

/-- Three errors are refused and so are two, far apart; the answer of another value is accepted and
differs in four bits or more. -/
theorem scattered_errors_refused_specimen :
    Frame.stripChecksum Specimen.answered = .ok [1, 3, 2, 0, 42]
      ∧ Specimen.speckled.length = Specimen.answered.length
      ∧ (Frame.errors Specimen.answered Specimen.speckled).count true = 3
      ∧ Frame.IsCorrupt Specimen.speckled
      ∧ (Frame.errors Specimen.answered Specimen.clipped).count true = 2
      ∧ Frame.IsCorrupt Specimen.clipped
      ∧ Frame.stripChecksum Specimen.increased = .ok [1, 3, 2, 0, 43]
      ∧ 4 ≤ (Frame.errors Specimen.answered Specimen.increased).count true := by
  have hthree : (Frame.errors Specimen.answered Specimen.speckled).count true = 3 := by
    decide +kernel
  have htwo : (Frame.errors Specimen.answered Specimen.clipped).count true = 2 := by
    decide +kernel
  have hother : Frame.stripChecksum Specimen.increased = .ok [1, 3, 2, 0, 43] := by
    decide +kernel
  obtain ⟨hodd, -, -⟩ := scattered_errors_refused Specimen.answered_accepted
    (show Specimen.speckled.length = _ from rfl)
  obtain ⟨-, hpair, -⟩ := scattered_errors_refused Specimen.answered_accepted
    (show Specimen.clipped.length = _ from rfl)
  obtain ⟨-, -, hfar⟩ := scattered_errors_refused Specimen.answered_accepted
    (show Specimen.increased.length = _ from rfl)
  exact ⟨Specimen.answered_accepted, rfl, hthree, hodd (by rw [hthree]; decide), htwo,
    hpair htwo (by decide), hother, hfar (by decide) (by decide +kernel) _ hother⟩

end FieldLink.Modbus
