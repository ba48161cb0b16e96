/-
  FieldLink.Proofs.Modbus.SerialFrame
  ────────────────────────────────
  **A SERIAL FRAME IS ACCEPTED EXACTLY IF IT CAN BE BUILT.**

  Every octet string of some length is a body with a trailer behind it, and
  only the trailer decides: it has to be the checksum of the body, or, what
  is the same, the whole string has to leave the register empty.  So the
  frames that are accepted are those that are built, and a master on a
  serial line takes the same ones:

      stripChecksum_little     — the trailer decides
      stripChecksum_ok_iff     — accepted frames are bodies with their checksum
      accepted_iff_residue     — and leave nothing in the register
      stripChecksum_ok_iff_rtu — and are those that are built
      receiveRtu_ok_iff        — a master takes them and no others
      serial_frames_exact      — all of it, for every octet string
-/
import Mathlib.Data.List.Basic
import FieldLink.Proofs.Modbus.Reception
import FieldLink.Proofs.Modbus.Register
import FieldLink.Wire

namespace FieldLink.Modbus

namespace Frame

/-! ## §1. Bodies and trailers. -/

/-- The last two octets of a frame are its trailer. -/
theorem exists_trailer {frame : Octets} (h : 2 ≤ frame.length) :
    ∃ body trailer, frame = body ++ Octets.little trailer := by
  have hlast : (frame.drop (frame.length - 2)).length = 2 := by
    rw [List.length_drop]
    omega
  obtain ⟨low, high, hpair⟩ := List.length_eq_two.mp hlast
  refine ⟨frame.take (frame.length - 2), Octets.word high low, ?_⟩
  rw [Octets.little_word, ← hpair, List.take_append_drop]

theorem stripChecksum_short {frame : Octets} (h : frame.length < 5) :
    stripChecksum frame = .error .protocolViolation := by
  unfold stripChecksum
  rw [if_pos (show frame.length < minSerialFrameLength from h)]

/-- **The trailer decides**: it is compared with the checksum of the body. -/
theorem stripChecksum_little {body : Octets} (h : 3 ≤ body.length) (trailer : UInt16) :
    stripChecksum (body ++ Octets.little trailer)
      = if trailer = checksum body then .ok body
        else .error (.checksumMismatch trailer (checksum body)) := by
  have hlength : (body ++ Octets.little trailer).length = body.length + 2 := by
    rw [List.length_append, Octets.length_little]
  have hlong : ¬ (body ++ Octets.little trailer).length < minSerialFrameLength := by
    rw [hlength, minSerialFrameLength]
    omega
  unfold stripChecksum
  rw [if_neg hlong, hlength, Nat.add_sub_cancel, List.take_left, List.drop_left]
  show (if Octets.word _ _ = _ then _ else _) = _
  rw [Octets.word_big]

theorem withChecksum_inj {body body' : Octets} (h : withChecksum body = withChecksum body') :
    body = body' :=
  (List.append_inj' h rfl).1

/-- **An accepted frame is a body with its checksum behind it.** -/
theorem stripChecksum_ok_iff {frame body : Octets} :
    stripChecksum frame = .ok body ↔ 3 ≤ body.length ∧ frame = withChecksum body := by
  constructor
  · intro h
    have hframe := stripChecksum_ok h
    refine ⟨?_, hframe⟩
    by_contra hshort
    rw [stripChecksum_short] at h
    · cases h
    · rw [hframe, withChecksum, List.length_append, Octets.length_little]
      omega
  · rintro ⟨hlong, rfl⟩
    rw [withChecksum, stripChecksum_little hlong, if_pos rfl]

/-- A frame that is long enough is accepted, or it is refused for its checksum. -/
theorem stripChecksum_cases {frame : Octets} (h : 5 ≤ frame.length) :
    (checksum frame = 0 ∧ ∃ body, stripChecksum frame = .ok body)
      ∨ checksum frame ≠ 0 ∧ ∃ body trailer, frame = body ++ Octets.little trailer
        ∧ trailer ≠ checksum body
        ∧ stripChecksum frame = .error (.checksumMismatch trailer (checksum body)) := by
  obtain ⟨body, trailer, rfl⟩ := exists_trailer (show 2 ≤ frame.length by omega)
  rw [List.length_append, Octets.length_little] at h
  rw [stripChecksum_little (by omega), Ne, Checksum.checksum_little]
  by_cases heq : trailer = checksum body
  · exact .inl ⟨heq, body, if_pos heq⟩
  · exact .inr ⟨heq, body, trailer, rfl, heq, if_neg heq⟩

/-- A frame is refused for what it is, in one of two ways. -/
theorem stripChecksum_error {frame : Octets} {fault : Fault}
    (h : stripChecksum frame = .error fault) :
    fault = .protocolViolation ∨ ∃ carried computed, fault = .checksumMismatch carried computed := by
  by_cases hshort : frame.length < 5
  · rw [stripChecksum_short hshort] at h
    exact .inl (Except.error.inj h).symm
  · rcases stripChecksum_cases (Nat.not_lt.mp hshort) with
      ⟨-, body, hbody⟩ | ⟨-, body, trailer, -, -, hfault⟩
    · rw [hbody] at h
      cases h
    · exact .inr ⟨_, _, Except.error.inj (h.symm.trans hfault)⟩

/-- **An accepted frame leaves nothing in the register**, and every frame that does so is accepted
if it is long enough. -/
theorem accepted_iff_residue {frame : Octets} :
    (∃ body, stripChecksum frame = .ok body) ↔ 5 ≤ frame.length ∧ checksum frame = 0 := by
  constructor
  · rintro ⟨body, h⟩
    obtain ⟨hlong, rfl⟩ := stripChecksum_ok_iff.mp h
    refine ⟨?_, Checksum.checksum_little.mpr rfl⟩
    rw [withChecksum, List.length_append, Octets.length_little]
    omega
  · rintro ⟨hlong, hzero⟩
    rcases stripChecksum_cases hlong with ⟨-, haccepted⟩ | ⟨hnonzero, -⟩
    · exact haccepted
    · exact absurd hzero hnonzero

/-! ## §2. Frames that are built. -/

theorem rtu_ok_iff {unit function : UInt8} {data frame : Octets} :
    rtu unit function data = .ok frame
      ↔ data.length + 1 ≤ maxPduLength ∧ frame = withChecksum (unit :: function :: data) := by
  unfold rtu
  split
  · next hlong =>
    refine ⟨nofun, fun h => ?_⟩
    omega
  · next hfits =>
    rw [Except.ok.injEq, eq_comm]
    exact ⟨fun h => ⟨by omega, h⟩, And.right⟩

/-- **What is accepted is what is built.** -/
theorem stripChecksum_ok_iff_rtu {frame : Octets} (h : frame.length ≤ 256) (body : Octets) :
    stripChecksum frame = .ok body ↔ ∃ unit function data, data ≠ []
      ∧ rtu unit function data = .ok frame ∧ body = unit :: function :: data := by
  rw [stripChecksum_ok_iff]
  constructor
  · rintro ⟨hlong, rfl⟩
    rw [withChecksum, List.length_append, Octets.length_little] at h
    obtain ⟨unit, function, octet, data, rfl⟩ :
        ∃ unit function octet data, body = unit :: function :: octet :: data := by
      rcases body with - | ⟨unit, - | ⟨function, - | ⟨octet, data⟩⟩⟩
      · exact absurd hlong (by decide : ¬ 3 ≤ 0)
      · exact absurd hlong (by decide : ¬ 3 ≤ 1)
      · exact absurd hlong (by decide : ¬ 3 ≤ 2)
      · exact ⟨unit, function, octet, data, rfl⟩
    refine ⟨unit, function, octet :: data, List.cons_ne_nil octet data, ?_, rfl⟩
    refine rtu_ok_iff.mpr ⟨?_, rfl⟩
    simp only [List.length_cons, maxPduLength] at h ⊢
    omega
  · rintro ⟨unit, function, data, hdata, hbuilt, rfl⟩
    have hpos := List.length_pos_iff.mpr hdata
    refine ⟨?_, (rtu_ok_iff.mp hbuilt).2⟩
    rw [List.length_cons, List.length_cons]
    omega

end Frame

/-! ## §3. Frames that are received. -/

theorem Response.ofPdu_fits (response : Response) :
    Response.ofPdu response.unit response.pdu = .ok response :=
  dif_pos response.data_fits

section Responses

variable {σ : Type} [OctetStream σ]

/-- A serial frame is taken with one read, whatever becomes of it. -/
theorem receiveRtu_line {line line' : Line σ} {answer : Option Octets}
    (h : line.read maxSerialFrameLength = (answer, line')) :
    (Session.receiveRtu line).2 = line' := by
  unfold Session.receiveRtu
  rw [h]
  cases answer with
  | none => rfl
  | some frame =>
    cases frame with
    | nil => rfl
    | cons octet octets =>
      dsimp only
      split <;> rfl

/-- **A master on a serial line takes the frames that can be built, and no others**; nothing that it
reads is too long for it. -/
theorem receiveRtu_ok_iff {line line' : Line σ} {frame : Octets}
    (h : line.read maxSerialFrameLength = (some frame, line')) :
    (∀ response, (Session.receiveRtu line).1 = .ok response ↔ response.data ≠ []
        ∧ Frame.rtu response.unit response.function response.data = .ok frame)
      ∧ (Session.receiveRtu line).1 ≠ .error .capacityExceeded := by
  have hlength : frame.length ≤ 256 := Line.length_read_le h
  -- a frame that can be built is accepted, so a refusal shows that it cannot
  have haccepts : ∀ response : Response, response.data ≠ [] →
      Frame.rtu response.unit response.function response.data = .ok frame →
      Frame.stripChecksum frame = .ok (response.unit :: response.pdu) :=
    fun response hdata hbuilt => (Frame.stripChecksum_ok_iff_rtu hlength _).mpr
      ⟨_, _, _, hdata, hbuilt, rfl⟩
  unfold Session.receiveRtu
  rw [h]
  cases frame with
  | nil =>
    refine ⟨fun response => ⟨nofun, ?_⟩, nofun⟩
    rintro ⟨hdata, hbuilt⟩
    cases haccepts response hdata hbuilt
  | cons octet octets =>
    dsimp only
    cases hstrip : Frame.stripChecksum (octet :: octets) with
    | error fault =>
      refine ⟨fun response => ⟨nofun, ?_⟩, ?_⟩
      · rintro ⟨hdata, hbuilt⟩
        cases hstrip.symm.trans (haccepts response hdata hbuilt)
      · intro hfault
        obtain rfl := Except.error.inj hfault
        rcases Frame.stripChecksum_error hstrip with hcause | ⟨carried, computed, hcause⟩
        · cases hcause
        · cases hcause
    | ok body =>
      obtain ⟨unit, function, data, hdata, hbuilt, rfl⟩ :=
        (Frame.stripChecksum_ok_iff_rtu hlength body).mp hstrip
      have hfits : data.length + 1 ≤ maxPduLength := (Frame.rtu_ok_iff.mp hbuilt).1
      have hresponse := Response.ofPdu_fits ⟨unit, function, data, hfits⟩
      dsimp only [Response.pdu] at hresponse ⊢
      rw [hresponse]
      refine ⟨fun response => ⟨?_, ?_⟩, nofun⟩
      · intro hequal
        obtain rfl := Except.ok.inj hequal
        exact ⟨hdata, hbuilt⟩
      · rintro ⟨hdata', hbuilt'⟩
        have hbody := Except.ok.inj (hstrip.symm.trans (haccepts response hdata' hbuilt'))
        obtain ⟨unit', function', data', hfits'⟩ := response
        simp only [Response.pdu, List.cons.injEq] at hbody
        obtain ⟨rfl, rfl, rfl⟩ := hbody
        rfl

/-- On an open serial line a response is what one read gives, once the wait is bounded. -/
theorem receiveResponse_rtu {session : Session σ} (hopen : session.master.connection = some .rtu)
    {timeoutMs : UInt32} (hbounded : (session.line.setTimeout timeoutMs).1 = true) :
    (session.receiveResponse timeoutMs).1
      = (Session.receiveRtu (session.line.setTimeout timeoutMs).2).1 := by
  have hset : session.line.setTimeout timeoutMs
      = (true, (session.line.setTimeout timeoutMs).2) := Prod.ext hbounded rfl
  generalize (session.line.setTimeout timeoutMs).2 = line at hset ⊢
  unfold Session.receiveResponse
  rw [hopen, hset]
  dsimp only
  split
  · next response line' heq => rw [heq]
  · next fault line' heq =>
    rw [heq]
    split <;> rfl

end Responses

/-! ## §4. Everything about one frame. -/

/-- **Serial framing accepts exactly what it builds.**  An octet string of at most 256 octets is
accepted if and only if it is the frame of a device, a function and data that are not empty; these
are unique, and are what is given back.  It is the same to say that the string has five octets or
more and leaves nothing in the register.  Of the others, the shorter ones break the protocol, and
the longer ones carry a checksum other than the one computed.  A master whose serial line gives the
string with its next read, once the wait is bounded, receives a response from exactly those that are
accepted, and it is of their device, function and data. -/
theorem serial_frames_exact (frame : Octets) (h : frame.length ≤ 256) :
    (∀ body, Frame.stripChecksum frame = .ok body ↔ ∃ unit function data, data ≠ []
        ∧ Frame.rtu unit function data = .ok frame ∧ body = unit :: function :: data)
      ∧ (∀ unit unit' function function' data data',
        Frame.rtu unit function data = .ok frame → Frame.rtu unit' function' data' = .ok frame →
        unit = unit' ∧ function = function' ∧ data = data')
      ∧ ((∃ body, Frame.stripChecksum frame = .ok body) ↔ 5 ≤ frame.length ∧ checksum frame = 0)
      ∧ (frame.length < 5 → Frame.stripChecksum frame = .error .protocolViolation)
      ∧ (5 ≤ frame.length → checksum frame ≠ 0 → ∃ body carried,
        frame = body ++ Octets.little carried ∧ carried ≠ checksum body
          ∧ Frame.stripChecksum frame = .error (.checksumMismatch carried (checksum body)))
      ∧ ∀ {σ : Type} [OctetStream σ] (session : Session σ) (timeoutMs : UInt32),
        session.master.connection = some .rtu →
        (session.line.setTimeout timeoutMs).1 = true →
        ((session.line.setTimeout timeoutMs).2.read 256).1 = some frame →
        let answer := (session.receiveResponse timeoutMs).1
        ((∃ response, answer = .ok response) ↔ ∃ body, Frame.stripChecksum frame = .ok body)
          ∧ (∀ unit function data, Frame.stripChecksum frame = .ok (unit :: function :: data) →
            ∃ response, answer = .ok response ∧ response.unit = unit
              ∧ response.pdu = function :: data)
          ∧ answer ≠ .error .capacityExceeded := by
  refine ⟨Frame.stripChecksum_ok_iff_rtu h, ?_, Frame.accepted_iff_residue,
    Frame.stripChecksum_short, ?_, ?_⟩
  · -- ===== the parts are unique =====
    intro unit unit' function function' data data' hbuilt hbuilt'
    have hbody := Frame.withChecksum_inj
      ((Frame.rtu_ok_iff.mp hbuilt).2.symm.trans (Frame.rtu_ok_iff.mp hbuilt').2)
    simpa only [List.cons.injEq] using hbody
  · -- ===== a wrong checksum =====
    intro hlong hnonzero
    rcases Frame.stripChecksum_cases hlong with ⟨hzero, -⟩ | ⟨-, hrefused⟩
    · exact absurd hzero hnonzero
    · obtain ⟨body, trailer, hframe, hwrong, hfault⟩ := hrefused
      exact ⟨body, trailer, hframe, hwrong, hfault⟩
  · -- ===== a master on a serial line =====
    intro σ _ session timeoutMs hopen hbounded hread answer
    obtain ⟨htakes, hcapacity⟩ := receiveRtu_ok_iff (Prod.ext hread rfl)
    rw [← receiveResponse_rtu hopen hbounded] at htakes hcapacity
    have hfound : ∀ unit function data,
        Frame.stripChecksum frame = .ok (unit :: function :: data) →
        ∃ response, answer = .ok response ∧ response.unit = unit
          ∧ response.pdu = function :: data := by
      intro unit function data hstrip
      obtain ⟨unit', function', data', hdata, hbuilt, hbody⟩ :=
        (Frame.stripChecksum_ok_iff_rtu h _).mp hstrip
      simp only [List.cons.injEq] at hbody
      obtain ⟨rfl, rfl, rfl⟩ := hbody
      have hfits := (Frame.rtu_ok_iff.mp hbuilt).1
      exact ⟨⟨unit, function, data, hfits⟩, (htakes _).mpr ⟨hdata, hbuilt⟩, rfl, rfl⟩
    refine ⟨⟨?_, ?_⟩, hfound, hcapacity⟩
    · rintro ⟨response, hanswer⟩
      obtain ⟨hdata, hbuilt⟩ := (htakes response).mp hanswer
      exact ⟨_, (Frame.stripChecksum_ok_iff_rtu h _).mpr ⟨_, _, _, hdata, hbuilt, rfl⟩⟩
    · rintro ⟨body, hstrip⟩
      obtain ⟨unit, function, data, -, -, rfl⟩ := (Frame.stripChecksum_ok_iff_rtu h body).mp hstrip
      obtain ⟨response, hanswer, -⟩ := hfound unit function data hstrip
      exact ⟨response, hanswer⟩

namespace Specimen

/-- The answer of device 1 to a read of one register, which is 42. -/
def answered : Octets := [1, 3, 2, 0, 42, 0x39, 0x9B]

/-- A serial line on which it comes as one chunk. -/
def serial : Session Wire where
  master := { connection := some .rtu }
  line := { platform := { inbound := [.chunk answered] } }

end Specimen

/-- The frame is accepted, leaves nothing in the register and is received as a response. -/
theorem serial_frames_exact_specimen :
    Specimen.answered.length ≤ 256
      ∧ (∃ unit function data, data ≠ [] ∧ Frame.rtu unit function data = .ok Specimen.answered)
      ∧ checksum Specimen.answered = 0 ∧ Specimen.serial.master.connection = some .rtu
      ∧ (Specimen.serial.line.setTimeout 10).1 = true
      ∧ ((Specimen.serial.line.setTimeout 10).2.read 256).1 = some Specimen.answered
      ∧ ∃ response, (Specimen.serial.receiveResponse 10).1 = .ok response ∧ response.unit = 1
        ∧ response.pdu = [3, 2, 0, 42] := by
  have hstrip : Frame.stripChecksum Specimen.answered = .ok [1, 3, 2, 0, 42] := by
    decide +kernel
  obtain ⟨hbuilt, -, hresidue, -, -, hreceived⟩ :=
    serial_frames_exact Specimen.answered (by decide)
  obtain ⟨unit, function, data, hdata, hframe, -⟩ := (hbuilt _).mp hstrip
  obtain ⟨-, hresponse, -⟩ := hreceived Specimen.serial 10 rfl rfl rfl
  exact ⟨by decide, ⟨unit, function, data, hdata, hframe⟩, (hresidue.mp ⟨_, hstrip⟩).2, rfl, rfl,
    rfl, hresponse 1 3 [2, 0, 42] hstrip⟩

end FieldLink.Modbus
