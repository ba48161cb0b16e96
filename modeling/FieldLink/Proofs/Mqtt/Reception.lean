/-
  FieldLink.Proofs.Mqtt.Reception
  ────────────────────────────────
  **WHAT A POLL FOUND, AGAINST WHAT CAME IN.**

  Receiving goes through three loops: the length field, one octet at a
  time; the body, in one transfer; and a body that is too long, a chunk at
  a time.  Each of them is described here by the octets that it took off
  the stream, on success and on failure.  Together they give

      receive_found — the octets that came in say what was found

  for every platform: a packet was found exactly if the octets are that
  packet, whole, and a broken stream never hides a packet that had come.
-/
import FieldLink.Proofs.Line.Traffic
import FieldLink.Proofs.Mqtt.ControlPacket
import FieldLink.Mqtt.Inbound

namespace FieldLink.Mqtt.Inbound

open RemainingLength

variable {σ : Type} [OctetStream σ]

/-! ## §1. The length field. -/

/-- With the field complete nothing more is read. -/
theorem receiveLength_isField {field : Octets} (h : IsField field) (more : Nat) (line : Line σ) :
    receiveLength more field line = (.ok (value field), line) := by
  unfold receiveLength
  rw [decode_isField h]

theorem receiveLength_overlong {field : Octets} (hopen : IsOpen field)
    (hlength : field.length = maxOctets) (line : Line σ) :
    receiveLength 0 field line = (.error .protocolViolation, line) := by
  unfold receiveLength
  rw [decode_overlong hopen hlength]

/-- While every octet is marked the next one is awaited. -/
theorem receiveLength_next {field octets : Octets} {more : Nat} {line line' : Line σ}
    (hopen : IsOpen field) (hlength : field.length < maxOctets)
    (hread : line.readExact 1 = (.ok octets, line')) :
    receiveLength (more + 1) field line = receiveLength more (field ++ octets) line' := by
  conv => lhs; unfold receiveLength
  rw [decode_open hopen hlength]
  dsimp only
  rw [hread]

theorem receiveLength_cut {field : Octets} {more : Nat} {line line' : Line σ} {fault : Fault}
    (hopen : IsOpen field) (hlength : field.length < maxOctets)
    (hread : line.readExact 1 = (.error fault, line')) :
    receiveLength (more + 1) field line = (.error (withinPacket fault), line') := by
  unfold receiveLength
  rw [decode_open hopen hlength]
  dsimp only
  rw [hread]

/-- **The length field ends where it says so**, or it has not ended when reading stops. -/
theorem receiveLength_reads (marked : Octets) (last : UInt8) (more : Nat) (hopen : IsOpen marked)
    (hmore : marked.length + 1 + more = maxOctets) (line : Line σ) :
    ∃ rest, line.Reads (receiveLength more (marked ++ [last]) line).2 rest
      ∧ match (receiveLength more (marked ++ [last]) line).1 with
        | .ok length => IsField (marked ++ [last] ++ rest)
            ∧ value (marked ++ [last] ++ rest) = length
        | .error _ => IsOpen (marked ++ [last] ++ rest) := by
  -- induction on the octets that may still come: the last one read ends the field or not
  induction more generalizing marked last line with
  | zero =>
    by_cases hlast : last < 128
    · have hfield : IsField (marked ++ [last]) := ⟨by simp; omega, marked, last, rfl, hopen, hlast⟩
      rw [receiveLength_isField hfield]
      exact ⟨[], Line.Reads.refl line, by simpa using hfield, by simp⟩
    · have hopen' : IsOpen (marked ++ [last]) := hopen.concat hlast
      rw [receiveLength_overlong hopen' (by simp; omega)]
      exact ⟨[], Line.Reads.refl line, by simpa using hopen'⟩
  | succ more ih =>
    by_cases hlast : last < 128
    · have hfield : IsField (marked ++ [last]) := ⟨by simp; omega, marked, last, rfl, hopen, hlast⟩
      rw [receiveLength_isField hfield]
      exact ⟨[], Line.Reads.refl line, by simpa using hfield, by simp⟩
    · have hopen' : IsOpen (marked ++ [last]) := hopen.concat hlast
      have hshort : (marked ++ [last]).length < maxOctets := by
        rw [List.length_append, List.length_singleton]
        omega
      rcases hread : line.readExact 1 with ⟨fault | octets, line'⟩
      · -- nothing came, so the octets read so far are still all there is
        obtain ⟨octets, hreads, hlength, -⟩ := Line.readExact_error hread
        have hnil : octets = [] := List.length_eq_zero_iff.mp (by omega)
        rw [receiveLength_cut hopen' hshort hread]
        exact ⟨octets, hreads, by simpa [hnil] using hopen'⟩
      · obtain ⟨octet, rfl⟩ := List.length_eq_one_iff.mp (Line.length_readExact hread)
        obtain ⟨rest, hreads, hresult⟩ := ih (marked ++ [last]) octet hopen' (by simp; omega) line'
        rw [receiveLength_next hopen' hshort hread]
        refine ⟨[octet] ++ rest, (Line.reads_readExact_ok hread).trans hreads, ?_⟩
        rw [← List.append_assoc]
        exact hresult

/-! ## §2. Octets that are not wanted. -/

/-- **What is skipped has the length that was announced**, or less when reading stops. -/
theorem discard_reads (length : Nat) (line : Line σ) :
    ∃ octets, line.Reads (discard length line).2 octets
      ∧ match (discard length line).1 with
        | .ok () => octets.length = length
        | .error _ => octets.length < length := by
  -- every chunk but the last one is full, so what is left gets less each time
  induction length using Nat.strongRecOn generalizing line with
  | ind length ih =>
    rw [discard]
    split
    · next hzero => exact ⟨[], Line.Reads.refl line, hzero.symm⟩
    · next hpos =>
      have hchunk : 0 < min length discardChunk := by
        have hsize : discardChunk = 64 := rfl
        omega
      split
      · next fault line' hread =>
        obtain ⟨octets, hreads, hlength, -⟩ := Line.readExact_error hread
        exact ⟨octets, hreads, Nat.lt_of_lt_of_le hlength (Nat.min_le_left _ _)⟩
      · next chunk line' hread =>
        have hlength := Line.length_readExact hread
        obtain ⟨octets, hreads, hresult⟩ := ih (length - min length discardChunk) (by omega) line'
        refine ⟨chunk ++ octets, (Line.reads_readExact_ok hread).trans hreads, ?_⟩
        cases hrest : (discard (length - min length discardChunk) line').1 with
        | ok _ =>
          simp only [hrest, List.length_append] at hresult ⊢
          omega
        | error fault =>
          simp only [hrest, List.length_append] at hresult ⊢
          omega

/-! ## §3. A whole packet. -/

/-- What was found is what the octets that came in amount to. -/
inductive Found : Inbound → Octets → Prop where
  /-- Silence: nothing came. -/
  | silence : Found .silence []
  /-- A packet that is not too long. -/
  | packet (packet : ControlPacket) (h : packet.body.length ≤ maxPacketLength) :
      Found (.packet packet.header packet.body) packet.octets
  /-- A packet that is too long; all of it came. -/
  | oversized (packet : ControlPacket) (h : maxPacketLength < packet.body.length) :
      Found (.oversized packet.header packet.body.length) packet.octets
  /-- No whole packet. -/
  | broken (fault : Fault) {octets : Octets} (h : Unfinished octets) :
      Found (.broken fault) octets

/-- **The rest of a packet**: whatever was found is accounted for by the octets that came. -/
theorem receiveBody_found (header first : UInt8) (line : Line σ) :
    ∃ rest, line.Reads (receiveBody header first line).2 rest
      ∧ Found (receiveBody header first line).1 (header :: first :: rest) := by
  have hopen : IsOpen [] := by
    intro octet hmem
    cases hmem
  obtain ⟨field, hfield, hlength⟩ := receiveLength_reads [] first (maxOctets - 1) hopen rfl line
  rw [List.nil_append] at hfield hlength
  rw [receiveBody]
  split
  · -- the length field was cut off, or it never ends
    next fault line₁ heq =>
    rw [heq] at hfield hlength
    exact ⟨field, hfield, .broken fault (unfinished_of_isOpen header hlength)⟩
  · next length line₁ heq =>
    rw [heq] at hfield hlength
    obtain ⟨hisField, hvalue⟩ := hlength
    split
    · -- the packet is too long: its body is skipped
      next hlong =>
      obtain ⟨body, hbody, hresult⟩ := discard_reads length line₁
      split
      · next fault line₂ hdiscard =>
        rw [hdiscard] at hbody hresult
        have hpart : body.length < value ([first] ++ field) := by
          rw [hvalue]
          exact hresult
        exact ⟨field ++ body, hfield.trans hbody,
          .broken fault (unfinished_of_length_lt_value header hisField hpart)⟩
      · next line₂ hdiscard =>
        rw [hdiscard] at hbody hresult
        have hannounced : value ([first] ++ field) = body.length := hvalue.trans hresult.symm
        refine ⟨field ++ body, hfield.trans hbody, ?_⟩
        have hfound := Found.oversized ⟨header, [first] ++ field, body, hisField, hannounced⟩
          (show maxPacketLength < body.length by rw [hresult]; exact hlong)
        rw [hresult] at hfound
        exact hfound
    · -- the packet fits: its body is read
      next hshort =>
      split
      · next fault line₂ hread =>
        obtain ⟨body, hbody, hpart, -⟩ := Line.readExact_error hread
        exact ⟨field ++ body, hfield.trans hbody, .broken _
          (unfinished_of_length_lt_value header hisField (by rw [hvalue]; exact hpart))⟩
      · next body line₂ hread =>
        have hbody := Line.length_readExact hread
        have hannounced : value ([first] ++ field) = body.length := hvalue.trans hbody.symm
        exact ⟨field ++ body, hfield.trans (Line.reads_readExact_ok hread),
          .packet ⟨header, [first] ++ field, body, hisField, hannounced⟩
            (show body.length ≤ maxPacketLength by omega)⟩

/-- After the wait was bounded nothing but reads happens, and they account for what was found. -/
theorem receive_reads (timeoutMs : UInt32) (line : Line σ) :
    ∃ octets, (line.setTimeout timeoutMs).2.Reads (receive timeoutMs line).2 octets
      ∧ Found (receive timeoutMs line).1 octets := by
  rw [receive]
  split
  · next line₁ htimeout =>
    rw [htimeout]
    exact ⟨[], Line.Reads.refl line₁, .broken _ (unfinished_of_length_lt (by simp))⟩
  · next line₁ htimeout =>
    rw [htimeout]
    split
    · next line₂ hread =>
      obtain ⟨octets, hreads, -, hsilence⟩ := Line.readExact_error hread
      rw [hsilence rfl] at hreads
      exact ⟨[], hreads, .silence⟩
    · next fault line₂ _ hread =>
      obtain ⟨octets, hreads, hlength, -⟩ := Line.readExact_error hread
      exact ⟨octets, hreads, .broken fault (unfinished_of_length_lt hlength)⟩
    · next header first line₂ hread =>
      obtain ⟨rest, hreads, hfound⟩ := receiveBody_found header first line₂
      exact ⟨_, (Line.reads_readExact_ok hread).trans hreads, hfound⟩
    · next octets line₂ hne hread =>
      -- two octets were asked for, so this branch is not taken
      have hlength := Line.length_readExact hread
      match octets, hlength with
      | [header, first], _ => exact absurd rfl (hne header first)

/-- **What is found is what came in.** -/
theorem receive_found (timeoutMs : UInt32) (line : Line σ) :
    ∃ bounded reads, (receive timeoutMs line).2.events
        = line.events ++ .timeoutSet timeoutMs bounded :: reads
      ∧ (∀ event ∈ reads, event.IsRead)
      ∧ Found (receive timeoutMs line).1 (Traffic.received reads) := by
  obtain ⟨octets, ⟨reads, hlog, hread, rfl⟩, hfound⟩ := receive_reads timeoutMs line
  refine ⟨(line.setTimeout timeoutMs).1, reads, ?_, hread, hfound⟩
  rw [hlog, Line.events_setTimeout, List.append_assoc, List.singleton_append]

end FieldLink.Mqtt.Inbound
