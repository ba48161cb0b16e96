/-
  FieldLink.Proofs.Modbus.Refusal
  ────────────────────────────────
  **REQUESTS OUT OF RANGE NEVER REACH THE LINE.**

  The range of a request is checked in several places: a read counts its
  items itself, the data of a write count theirs, and registers that are
  given as words pass a buffer of their own first.  Behind these checks
  stand the size of a unit and the size of a frame.  `Operation.refusal?`
  says in numbers what all the checks come to; whatever passes them fits
  into everything behind them, so that only the line can stop it:

      apply_refused            — what is out of range changes nothing
      request?_of_unrefused    — what is in range is asked for
      Framing.length_frame_le  — what is asked for fits into a frame
      exchange_attempts        — one frame is tried, and no size is in the way
      refusals_before_effects  — all of it, on every session
-/
import FieldLink.Proofs.Modbus.Attribution
import FieldLink.Proofs.Modbus.Numbering
import FieldLink.Proofs.Modbus.Values

namespace FieldLink.Modbus

/-! ## §1. Ranges. -/

/-- The fault in a number of items, of which there has to be one and there may be `most`. -/
def countFault (most count : Nat) : Option Fault :=
  if 1 ≤ count ∧ count ≤ most then none else some .invalidArgument

/-- The fault in a number of octets that are to be written as registers. -/
def octetsFault (count : Nat) : Option Fault :=
  if count = 0 ∨ count % 2 = 1 ∨ 246 < count then some .invalidArgument else none

theorem countFault_eq_none_iff {most count : Nat} :
    countFault most count = none ↔ 1 ≤ count ∧ count ≤ most := by
  unfold countFault
  split
  · next hrange => exact iff_of_true rfl hrange
  · next hrange => exact iff_of_false nofun hrange

theorem countFault_eq_some {most count : Nat} {fault : Fault}
    (h : countFault most count = some fault) :
    ¬ (1 ≤ count ∧ count ≤ most) ∧ fault = .invalidArgument :=
  (Option.ite_none_left_eq_some.mp h).imp_right fun hfault => (Option.some.inj hfault).symm

theorem octetsFault_eq_none_iff {count : Nat} :
    octetsFault count = none ↔ ¬ (count = 0 ∨ count % 2 = 1 ∨ 246 < count) := by
  unfold octetsFault
  split
  · next hrange => exact iff_of_false nofun (not_not_intro hrange)
  · next hrange => exact iff_of_true rfl hrange

theorem octetsFault_eq_some {count : Nat} {fault : Fault} (h : octetsFault count = some fault) :
    (count = 0 ∨ count % 2 = 1 ∨ 246 < count) ∧ fault = .invalidArgument :=
  (Option.ite_none_right_eq_some.mp h).imp_right fun hfault => (Option.some.inj hfault).symm

/-- The fault of a call on a table whose arguments are out of range. -/
def Operation.refusal? {σ : Type} : Operation σ → Option Fault
  | .read .coils _ quantity | .read .discreteInputs _ quantity => countFault 2000 quantity.toNat
  | .read .holdingRegisters _ quantity | .read .inputRegisters _ quantity =>
    countFault 125 quantity.toNat
  | .writeCoils _ coils => countFault 1968 coils.length
  | .writeRegisters _ registers => countFault 123 registers.length
  | .write .coils _ values => countFault 1968 values.length
  | .write .holdingRegisters _ values => octetsFault values.length
  | .write .discreteInputs .. | .write .inputRegisters .. => some .unsupported
  | _ => none

/-- A read is refused for its number of items. -/
theorem Operation.refusal?_read {σ : Type} (table : DataTable) (address quantity : UInt16) :
    (.read table address quantity : Operation σ).refusal?
      = countFault table.maxRead quantity.toNat := by
  cases table <;> rfl

/-- The number of items to be read is out of range. -/
theorem quantity_out_iff {quantity : UInt16} {most : Nat} :
    quantity = 0 ∨ most < quantity.toNat
      ↔ ¬ (1 ≤ quantity.toNat ∧ quantity.toNat ≤ most) := by
  rw [← UInt16.toNat_inj, show (0 : UInt16).toNat = 0 from rfl]
  omega

namespace Request

theorem writeRegisters_refused {octets : Octets}
    (h : octets.length = 0 ∨ octets.length % 2 = 1 ∨ 246 < octets.length) (address : UInt16) :
    writeRegisters address octets = .error .invalidArgument := by
  refine if_pos ?_
  rw [← List.length_eq_zero_iff, maxWriteRegisters]
  omega

theorem exists_writeRegisters {octets : Octets}
    (h : ¬ (octets.length = 0 ∨ octets.length % 2 = 1 ∨ 246 < octets.length)) (address : UInt16) :
    ∃ data, writeRegisters address octets = .ok data := by
  refine ⟨_, if_neg ?_⟩
  rw [← List.length_eq_zero_iff, maxWriteRegisters]
  omega

end Request

/-! ## §2. Requests out of range. -/

section Refused

variable {σ : Type} [OctetStream σ] {session : Session σ}

/-- Of registers that are given as words, more than fit into their buffer are more than fit into a
request. -/
theorem writeRegisters_refused (address : UInt16) {registers : List UInt16}
    (h : ¬ (1 ≤ registers.length ∧ registers.length ≤ 123)) :
    session.writeRegisters address registers = (.error .invalidArgument, session) := by
  have hlength := Response.length_flatMap_big registers
  unfold Session.writeRegisters
  dsimp only
  split
  · rfl
  · show session.confirm writeRegistersFunction (Request.writeRegisters address _) = _
    rw [Request.writeRegisters_refused (by omega)]
    rfl

variable [Dialer σ] [SerialBus σ]

/-- **What is out of range is refused, and nothing else happens.** -/
theorem apply_refused {operation : Operation σ} {fault : Fault}
    (h : operation.refusal? = some fault) : session.apply operation = (.error fault, session) := by
  cases operation with
  | read table address quantity =>
    rw [Operation.refusal?_read] at h
    obtain ⟨hrange, rfl⟩ := countFault_eq_some h
    rw [Session.apply, Session.read, if_pos (quantity_out_iff.mpr hrange)]
    rfl
  | writeCoils address coils =>
    obtain ⟨hrange, rfl⟩ := countFault_eq_some h
    rw [Session.apply, Session.writeCoils, Request.writeCoils_refused hrange]
    rfl
  | writeRegisters address registers =>
    obtain ⟨hrange, rfl⟩ := countFault_eq_some h
    rw [Session.apply, writeRegisters_refused address hrange]
    rfl
  | write table address values =>
    cases table with
    | coils =>
      obtain ⟨hrange, rfl⟩ := countFault_eq_some h
      have hlength : (values.map fun value => decide (value ≠ 0)).length = values.length :=
        List.length_map _
      rw [← hlength] at hrange
      show Session.replying _ (session.confirm writeCoilsFunction (Request.writeCoils ..)) = _
      rw [Request.writeCoils_refused hrange]
      rfl
    | holdingRegisters =>
      obtain ⟨hrange, rfl⟩ := octetsFault_eq_some h
      show Session.replying _ (session.confirm writeRegistersFunction
        (Request.writeRegisters ..)) = _
      rw [Request.writeRegisters_refused hrange]
      rfl
    | discreteInputs | inputRegisters =>
      obtain rfl := Option.some.inj h
      rfl
  | _ => cases h

end Refused

/-! ## §3. Requests in range. -/

/-- **What is in range is asked for.** -/
theorem request?_of_unrefused {σ : Type} {operation : Operation σ} (hrequest : operation.IsRequest)
    (h : operation.refusal? = none) : operation.request? ≠ none := by
  -- data that can be built are asked for
  have hbuilt : ∀ {function : UInt8} {result : Except Fault Octets},
      (∃ data, result = .ok data) → result.toOption.map (function, ·) ≠ none := by
    rintro function result ⟨data, rfl⟩
    exact Option.some_ne_none _
  cases operation with
  | read table address quantity =>
    rw [Operation.refusal?_read] at h
    have hrange := countFault_eq_none_iff.mp h
    rw [Operation.request?, if_neg fun hout => quantity_out_iff.mp hout hrange]
    exact Option.some_ne_none _
  | writeCoils address coils =>
    exact hbuilt ⟨_, Request.writeCoils_eq (countFault_eq_none_iff.mp h) address⟩
  | writeRegisters address registers =>
    have hrange := countFault_eq_none_iff.mp h
    have hlength := Response.length_flatMap_big registers
    have hfits : ¬ maxPduLength - 1 < (registers.flatMap Octets.big).length := by
      rw [hlength, maxPduLength]
      omega
    rw [Operation.request?, if_neg hfits]
    exact hbuilt (Request.exists_writeRegisters (by omega) address)
  | write table address values =>
    cases table with
    | coils =>
      have hlength : (values.map fun value => decide (value ≠ 0)).length = values.length :=
        List.length_map _
      have hrange := countFault_eq_none_iff.mp h
      rw [← hlength] at hrange
      exact hbuilt ⟨_, Request.writeCoils_eq hrange address⟩
    | holdingRegisters =>
      exact hbuilt (Request.exists_writeRegisters (octetsFault_eq_none_iff.mp h) address)
    | discreteInputs | inputRegisters => cases h
  | _ => exact hrequest.elim

namespace Framing

/-- Most octets that a frame can have. -/
def mostOctets : Framing → Nat
  | .tcp => 260
  | .rtu => 256

/-- **A frame is never too long** for its transport. -/
theorem length_frame_le {framing : Framing} {transaction : UInt16} {unit function : UInt8}
    {data frame : Octets} (h : framing.frame transaction unit function data = .ok frame) :
    frame.length ≤ framing.mostOctets := by
  cases framing with
  | tcp =>
    obtain ⟨hfits, rfl⟩ := Frame.tcp_ok_iff.mp h
    simp only [List.length_append, List.length_cons, List.length_nil, Octets.length_big,
      maxPduLength, mostOctets] at hfits ⊢
    omega
  | rtu =>
    obtain ⟨hfits, rfl⟩ := Frame.rtu_ok_iff.mp h
    simp only [Frame.withChecksum, List.length_append, List.length_cons, Octets.length_little,
      maxPduLength, mostOctets] at hfits ⊢
    omega

end Framing

section Attempts

variable {σ : Type} [OctetStream σ] {session : Session σ} {framing : Framing}

/-- The verdict on a response finds fault with it or is the exception that it is. -/
theorem Response.verdict_error {response : Response} {function unit : UInt8} {fault : Fault}
    (h : response.verdict function unit = .error fault) :
    fault.IsFromLine ∨ ∃ failed code, fault = .deviceException failed code := by
  cases hflag : response.isException with
  | true =>
    rw [Response.verdict_exception hflag] at h
    exact .inr ⟨_, _, (Except.error.inj h).symm⟩
  | false =>
    rw [Response.verdict_regular hflag] at h
    split at h
    · cases h
    · obtain rfl := Except.error.inj h
      exact .inl trivial

/-- **A request that has a frame makes one attempt at it**, and fails only at the line or for what
the device answers. -/
theorem exchange_attempts (hopen : session.master.connection = some framing) {function : UInt8}
    {data frame : Octets}
    (hframe : framing.frame (session.master.transaction + 1) session.master.unit function data
      = .ok frame) :
    (∃ events, (session.exchange function data).2.line.events = session.line.events ++ events
        ∧ WrittenOnce frame events)
      ∧ ∀ fault, (session.exchange function data).1 = .error fault →
        fault.IsFromLine ∨ ∃ failed code, fault = .deviceException failed code := by
  have hsending := sendRequest_sending frame ⟨session.master.numbered framing, session.line⟩
  rw [exchange_eq hopen hframe]
  split
  · -- ===== the frame did not go out =====
    next fault after hsend =>
    obtain ⟨rfl, -⟩ := sendRequest_error (numbered_open hopen session.line) hsend
    rw [hsend] at hsending
    cases hsending with
    | lost hlog honce hinherits =>
      refine ⟨⟨_, hlog, honce⟩, fun fault hfault => ?_⟩
      obtain rfl := Except.error.inj hfault
      exact .inl trivial
  · -- ===== it did, and a response is awaited =====
    next sent hsend =>
    rw [hsend] at hsending
    cases hsending with
    | @delivered line written hlog hwritten =>
      have hsilent := (receiveResponse_receiving defaultTimeoutMs
        (⟨session.master.numbered framing, line⟩ : Session σ)).passive.silent
      refine ⟨WrittenOnce.of_silent hlog (.inl hwritten) hsilent, fun fault hfault => ?_⟩
      dsimp only at hfault
      cases hresult : (Session.receiveResponse defaultTimeoutMs
          (⟨session.master.numbered framing, line⟩ : Session σ)).1 with
      | error fault' =>
        rw [hresult] at hfault
        obtain rfl := Except.error.inj hfault
        exact .inl (receiveResponse_isFromLine (numbered_open hopen line) hresult)
      | ok response =>
        rw [hresult] at hfault
        exact Response.verdict_error hfault

end Attempts

/-! ## §4. Calls on a table. -/

/-- A request fails as its exchange does. -/
theorem replying_error_iff {α σ : Type} {reply : α → Reply} {outcome : Except Fault α × Session σ}
    {fault : Fault} :
    (Session.replying reply outcome).1 = .error fault ↔ outcome.1 = .error fault := by
  unfold Session.replying
  cases outcome.1 with
  | error cause =>
    constructor
    · intro h
      rw [Except.error.inj h]
    · intro h
      rw [Except.error.inj h]
      rfl
  | ok value => exact ⟨nofun, nofun⟩

/-- What the line does and what a device answers is never reported as a request out of range or as
one that is too long. -/
theorem not_refusal_of_exchange {fault : Fault}
    (h : fault.IsFromLine ∨ ∃ failed code, fault = .deviceException failed code) :
    ¬ IsRefusal fault ∧ fault ≠ .capacityExceeded := by
  rcases h with hline | ⟨failed, code, rfl⟩
  · refine ⟨?_, ?_⟩
    · rintro (rfl | rfl)
      · exact hline
      · exact hline
    · rintro rfl
      exact hline
  · refine ⟨?_, nofun⟩
    rintro (heq | heq) <;> cases heq

section Calls

variable {σ : Type} [OctetStream σ] [Dialer σ] [SerialBus σ]

/-- **Requests are refused for their range, first of all and without effect.**  On every session a
call on a table is refused as its range says: reads of up to 2000 bits or 125 registers, writes of
up to 1968 coils, of up to 123 registers, and of up to 246 octets of whole registers are in range,
and a table that can only be read is not written.  A refusal leaves the session as it is, whether a
connection is open or not, and these two faults are reported for nothing else.  A call that is in
range needs a connection.  On an open one it makes one attempt at one frame, which has at most 260
octets over TCP and 256 on a serial line, and it never fails for a size. -/
theorem refusals_before_effects (session : Session σ) {operation : Operation σ}
    (hrequest : operation.IsRequest) :
    (∀ fault, operation.refusal? = some fault → session.apply operation = (.error fault, session))
      ∧ (∀ fault, fault = .invalidArgument ∨ fault = .unsupported →
        ((session.apply operation).1 = .error fault ↔ operation.refusal? = some fault))
      ∧ (operation.refusal? = none → session.master.connection = none →
        session.apply operation = (.error .notOpen, session))
      ∧ ∀ framing, operation.refusal? = none → session.master.connection = some framing →
        ∃ function data frame events, operation.Asks function data
          ∧ framing.frame (session.master.transaction + 1) session.master.unit function data
            = .ok frame
          ∧ frame.length ≤ framing.mostOctets
          ∧ (session.apply operation).2.line.events = session.line.events ++ events
          ∧ WrittenOnce frame events
          ∧ (session.apply operation).1 ≠ .error .capacityExceeded := by
  -- ===== what is in range is one request =====
  have hmade : operation.refusal? = none → ∃ function data, operation.Asks function data
      ∧ session.apply operation
        = Session.replying operation.replyTo (session.exchange function data) := by
    intro hrange
    cases apply_request session hrequest with
    | refused hfault hnone heq => exact absurd hnone (request?_of_unrefused hrequest hrange)
    | made hasks hsome heq => exact ⟨_, _, hasks, heq⟩
  have hclosed : operation.refusal? = none → session.master.connection = none →
      session.apply operation = (.error .notOpen, session) := by
    intro hrange hnone
    obtain ⟨function, data, -, heq⟩ := hmade hrange
    rw [heq, Session.exchange, buildRequest_none hnone]
    rfl
  -- ===== whose frame is tried once =====
  have htried : ∀ framing, operation.refusal? = none →
      session.master.connection = some framing → ∃ function data frame events,
        operation.Asks function data
          ∧ framing.frame (session.master.transaction + 1) session.master.unit function data
            = .ok frame
          ∧ (session.apply operation).2.line.events = session.line.events ++ events
          ∧ WrittenOnce frame events
          ∧ ∀ fault, (session.apply operation).1 = .error fault →
            ¬ IsRefusal fault ∧ fault ≠ .capacityExceeded := by
    intro framing hrange hopen
    obtain ⟨function, data, hasks, heq⟩ := hmade hrange
    obtain ⟨frame, hframe⟩ := framing.exists_frame (session.master.transaction + 1)
      session.master.unit function (Nat.succ_le_succ hasks.length_le)
    obtain ⟨⟨events, hlog, honce⟩, hfault⟩ := exchange_attempts hopen hframe
    refine ⟨function, data, frame, events, hasks, hframe, ?_, honce, fun fault hresult => ?_⟩
    · rw [heq]
      exact hlog
    · rw [heq, replying_error_iff] at hresult
      exact not_refusal_of_exchange (hfault fault hresult)
  refine ⟨fun fault => apply_refused, fun fault hfault => ⟨fun hresult => ?_, fun h => ?_⟩,
    hclosed, fun framing hrange hopen => ?_⟩
  · -- ===== only what is out of range is refused =====
    cases hrange : operation.refusal? with
    | some cause =>
      rw [apply_refused hrange] at hresult
      rw [Except.error.inj hresult]
    | none =>
      cases hopen : session.master.connection with
      | none =>
        rw [hclosed hrange hopen] at hresult
        rcases hfault with rfl | rfl <;> cases hresult
      | some framing =>
        obtain ⟨-, -, -, -, -, -, -, -, hcause⟩ := htried framing hrange hopen
        exact absurd hfault (hcause fault hresult).1
  · rw [apply_refused h]
  · obtain ⟨function, data, frame, events, hasks, hframe, hlog, honce, hcause⟩ :=
      htried framing hrange hopen
    exact ⟨function, data, frame, events, hasks, hframe, Framing.length_frame_le hframe, hlog,
      honce, fun hresult => (hcause _ hresult).2 rfl⟩

end Calls

namespace Specimen

/-- A connection whose far end takes a few octets at a time and says nothing. -/
def listening : Session Wire where
  master := { connection := some .tcp, transaction := 7 }
  line := { platform := { writeChunk := some 100 } }

end Specimen

/-- One item more than there may be is refused, and the most that there may be go out in a frame
that is not too long. -/
theorem refusals_before_effects_specimen :
    let longRead : Operation Wire := .read .coils 0 2001
    let fullWrite : Operation Wire := .writeCoils 0 (List.replicate 1968 true)
    longRead.IsRequest ∧ longRead.refusal? = some .invalidArgument
      ∧ Specimen.listening.apply longRead = (.error .invalidArgument, Specimen.listening)
      ∧ fullWrite.IsRequest ∧ fullWrite.refusal? = none
      ∧ Specimen.listening.master.connection = some .tcp
      ∧ ∃ frame events, frame.length ≤ 260
        ∧ (Specimen.listening.apply fullWrite).2.line.events
          = Specimen.listening.line.events ++ events
        ∧ WrittenOnce frame events := by
  intro longRead fullWrite
  have hlong : longRead.refusal? = some .invalidArgument := by decide +kernel
  have hfull : fullWrite.refusal? = none := by decide +kernel
  obtain ⟨hrefused, -⟩ := refusals_before_effects Specimen.listening
    (show longRead.IsRequest from trivial)
  obtain ⟨-, -, -, htried⟩ := refusals_before_effects Specimen.listening
    (show fullWrite.IsRequest from trivial)
  obtain ⟨-, -, frame, events, -, -, hlength, hlog, honce, -⟩ := htried .tcp hfull rfl
  exact ⟨trivial, hlong, hrefused _ hlong, trivial, hfull, rfl, frame, events, hlength, hlog, honce⟩

end FieldLink.Modbus
