/-
  FieldLink.Proofs.Modbus.Attribution
  ────────────────────────────────
  **WHAT AN EXCEPTION IS ATTRIBUTED TO.**

  Before a master judges a response, it has checked its frame: over TCP the
  number of the request, on a serial line the checksum.  Function and device
  are compared only after exceptions have been set aside, so these two
  checks never see one.  An exception is therefore reported exactly as it
  came in.  It names the function that was asked for if it is the answer to
  that function, and the device that it came from is not looked at:

      exchange_answered                — every request, with the verdict on its answer
      exceptions_reported_as_received  — what is reported, from the log alone
      foreign_exceptions_reported      — an exception that belongs to another request
-/
import FieldLink.Proofs.Modbus.Recognition

namespace FieldLink.Modbus

/-! ## §1. Functions and their exceptions. -/

/-- The function of an exception is its code without the flag. -/
theorem unflagged_eq_iff {function asked : UInt8} (hflag : function &&& 0x80 ≠ 0)
    (hasked : asked &&& 0x80 = 0) : function &&& 0x7F = asked ↔ function = asked ||| 0x80 := by
  have hjoin : ∀ bits : BitVec 8, (⟨bits⟩ : UInt8) &&& 0x80 ≠ 0 →
      (⟨bits⟩ : UInt8) &&& 0x7F ||| 0x80 = ⟨bits⟩ := by decide +kernel
  have hpart : ∀ bits : BitVec 8, (⟨bits⟩ : UInt8) &&& 0x80 = 0 →
      ((⟨bits⟩ : UInt8) ||| 0x80) &&& 0x7F = ⟨bits⟩ := by decide +kernel
  constructor
  · rintro rfl
    exact (hjoin function.toBitVec hflag).symm
  · rintro rfl
    exact hpart asked.toBitVec hasked

theorem Response.exception?_of_isException {response : Response} (h : response.isException = true) :
    response.exception?
      = some (.deviceException (response.function &&& 0x7F) (response.data.headD 0)) :=
  if_pos h

/-- An exception is reported as it comes. -/
theorem Response.verdict_exception {response : Response} (h : response.isException = true)
    (function unit : UInt8) :
    response.verdict function unit
      = .error (.deviceException (response.function &&& 0x7F) (response.data.headD 0)) := by
  unfold Response.verdict
  rw [Response.exception?_of_isException h]

/-- Any other response has to belong to the request. -/
theorem Response.verdict_regular {response : Response} (h : response.isException = false)
    (function unit : UInt8) :
    response.verdict function unit
      = if response.function = function ∧ response.unit = unit then .ok response
        else .error .protocolViolation := by
  unfold Response.verdict
  rw [Response.exception?_eq_none h]

namespace Operation

variable {σ : Type}

/-- A call asks for one function with one string of data. -/
theorem Asks.unique {operation : Operation σ} {function function' : UInt8} {data data' : Octets}
    (h : operation.Asks function data) (h' : operation.Asks function' data') :
    function = function' ∧ data = data' := by
  cases h with
  | read =>
    cases h'
    exact ⟨rfl, rfl⟩
  | writeCoils hdata | writeSwitches hdata | writeRegisters hdata | writeOctets hdata =>
    cases h' with
    | _ hdata' => exact ⟨rfl, Except.ok.inj (hdata.symm.trans hdata')⟩

/-- The functions that are asked for do not carry the flag of an exception. -/
theorem Asks.regular {operation : Operation σ} {function : UInt8} {data : Octets}
    (h : operation.Asks function data) : function &&& 0x80 = 0 := by
  cases h with
  | read table => cases table <;> decide
  | writeCoils | writeSwitches => decide
  | writeRegisters | writeOctets => decide

end Operation

/-! ## §2. Faults without an answer. -/

/-- The cause is not that a device answered with an exception. -/
def IsLocal : Fault → Prop
  | .deviceException .. => False
  | _ => True

/-- No exception comes from the line. -/
theorem IsLocal.of_line {fault : Fault} (h : fault.IsFromLine) : IsLocal fault := by
  cases fault with
  | deviceException => exact h.elim
  | _ => trivial

/-- What receiving gives: a response, which has data if it came on a serial line, or a fault that is
no exception. -/
inductive Obtained (framing : Framing) : Except Fault Response → Prop where
  /-- A response. -/
  | response {response : Response} (hdata : framing = .rtu → response.data ≠ []) :
      Obtained framing (.ok response)
  /-- A fault. -/
  | fault {fault : Fault} (hlocal : IsLocal fault) : Obtained framing (.error fault)

section Receiving

variable {σ : Type} [OctetStream σ]

/-- A response that came on a serial line has data. -/
theorem receiveRtu_data {line : Line σ} {response : Response}
    (h : (Session.receiveRtu line).1 = .ok response) : response.data ≠ [] := by
  rcases hread : line.read maxSerialFrameLength with ⟨_ | frame, line'⟩
  · rw [Session.receiveRtu, hread] at h
    cases h
  · exact (((receiveRtu_ok_iff hread).1 response).mp h).1

theorem receiveResponse_obtained {session : Session σ} {framing : Framing}
    (hopen : session.master.connection = some framing) (timeoutMs : UInt32) :
    Obtained framing (session.receiveResponse timeoutMs).1 := by
  cases hresult : (session.receiveResponse timeoutMs).1 with
  | error fault => exact .fault (.of_line (receiveResponse_isFromLine hopen hresult))
  | ok response =>
    refine .response ?_
    rintro rfl
    cases hbounded : (session.line.setTimeout timeoutMs).1 with
    | true =>
      rw [receiveResponse_rtu hopen hbounded] at hresult
      exact receiveRtu_data hresult
    | false =>
      have hset : session.line.setTimeout timeoutMs
          = (false, (session.line.setTimeout timeoutMs).2) := Prod.ext hbounded rfl
      rw [Session.receiveResponse, hopen, hset] at hresult
      cases hresult

end Receiving

/-! ## §3. A request and what came in. -/

section Requests

variable {σ : Type} [OctetStream σ]

/-- **A request ends without a response, or with the verdict on the one whose frame came in.** -/
theorem exchange_answered {session : Session σ} {framing : Framing}
    (hopen : session.master.connection = some framing) (function : UInt8) (data : Octets) :
    (∃ fault, (session.exchange function data).1 = .error fault ∧ IsLocal fault)
      ∨ ∃ frame response written reads,
        framing.frame (session.master.transaction + 1) session.master.unit function data = .ok frame
        ∧ (session.exchange function data).2.line.events
          = session.line.events ++ (written ++ .timeoutSet defaultTimeoutMs true :: reads)
        ∧ Delivered frame written
        ∧ Accepted framing (session.master.transaction + 1) response reads
        ∧ (framing = .rtu → response.data ≠ [])
        ∧ (session.exchange function data).1 = response.verdict function session.master.unit := by
  cases hframe : framing.frame (session.master.transaction + 1) session.master.unit function
      data with
  | error fault =>
    obtain ⟨rfl, -⟩ := Framing.frame_error hframe
    refine .inl ⟨.capacityExceeded, ?_, trivial⟩
    rw [Session.exchange, buildRequest_some hopen, hframe]
  | ok frame =>
    rw [exchange_eq hopen hframe]
    have hsending := sendRequest_sending frame ⟨session.master.numbered framing, session.line⟩
    split
    · next fault after hsend =>
      obtain ⟨rfl, -⟩ := sendRequest_error (numbered_open hopen session.line) hsend
      exact .inl ⟨_, rfl, trivial⟩
    · next sent hsend =>
      rw [hsend] at hsending
      cases hsending with
      | @delivered line written hlog hwritten =>
        have hreceiving := receiveResponse_receiving defaultTimeoutMs
          (⟨session.master.numbered framing, line⟩ : Session σ)
        have hobtained := receiveResponse_obtained (numbered_open hopen line) defaultTimeoutMs
        generalize Session.receiveResponse defaultTimeoutMs
          (⟨session.master.numbered framing, line⟩ : Session σ) = outcome at hreceiving hobtained ⊢
        cases hreceiving with
        | refused =>
          cases hobtained with
          | fault hlocal => exact .inl ⟨_, rfl, hlocal⟩
        | @accepted response line' framing' reads hconnection hreads haccepted =>
          obtain rfl := Option.some.inj ((numbered_open hopen line).symm.trans hconnection)
          cases hobtained with
          | response hdata =>
            dsimp only at hlog hreads
            rw [hlog, List.append_assoc] at hreads
            refine .inr ⟨frame, response, written, reads, rfl, hreads, hwritten,
              haccepted.numbered, hdata, ?_⟩
            show response.verdict function (session.master.numbered framing).unit = _
            rw [Master.numbered_unit]

variable [Dialer σ] [SerialBus σ]

/-- The call wrote a request for this function, and behind it the frame of this response came in,
with the number of the request over TCP and with data on a serial line. -/
inductive Operation.Answered (session : Session σ) (operation : Operation σ) (asked : UInt8)
    (response : Response) : Prop where
  /-- The events of the call show both. -/
  | answered {framing : Framing} {data frame : Octets} {written reads : List Event}
      (hasks : operation.Asks asked data) (hopen : session.master.connection = some framing)
      (hframe : framing.frame (session.master.transaction + 1) session.master.unit asked data
        = .ok frame)
      (hlog : (session.apply operation).2.line.events
        = session.line.events ++ (written ++ .timeoutSet defaultTimeoutMs true :: reads))
      (hwritten : Delivered frame written)
      (haccepted : Accepted framing (session.master.transaction + 1) response reads)
      (hdata : framing = .rtu → response.data ≠ []) : Answered session operation asked response

/-- **The verdict on what came in is the result of the call.** -/
theorem Operation.Answered.result {session : Session σ} {operation : Operation σ} {asked : UInt8}
    {response : Response} (h : operation.Answered session asked response) :
    (session.apply operation).1
      = (response.verdict asked session.master.unit).map operation.replyTo := by
  obtain ⟨hasks, hopen, hframe, hlog, hwritten, haccepted, hdata⟩ := h
  cases apply_request session hasks.isRequest with
  | refused hfault hnone heq =>
    -- a call that was refused has no events
    rw [heq] at hlog
    have hempty := List.append_cancel_left ((List.append_nil _).trans hlog)
    simp at hempty
  | made hasks' hsome heq =>
    obtain ⟨rfl, rfl⟩ := hasks.unique hasks'
    rw [heq] at hlog ⊢
    show Except.map operation.replyTo (session.exchange asked _).1 = _
    rw [exchange_told hopen hframe hlog hwritten haccepted hdata]

/-- An answer that carries the flag is of the function that was asked for if it is its exception. -/
theorem Operation.Answered.unflagged_iff {session : Session σ} {operation : Operation σ}
    {asked : UInt8} {response : Response} (h : operation.Answered session asked response)
    (hflag : response.isException = true) :
    response.function &&& 0x7F = asked ↔ response.function = asked ||| 0x80 := by
  obtain ⟨hasks, -, -, -, -, -, -⟩ := h
  exact unflagged_eq_iff (of_decide_eq_true hflag) hasks.regular

/-- **A call that reports an exception was answered.** -/
theorem answered_of_exception {session : Session σ} {operation : Operation σ}
    (h : operation.IsRequest) {function code : UInt8}
    (hresult : (session.apply operation).1 = .error (.deviceException function code)) :
    ∃ asked response, operation.Answered session asked response := by
  cases apply_request session h with
  | refused hfault hnone heq =>
    rw [heq] at hresult
    obtain rfl := Except.error.inj hresult
    rcases hfault with hfault | hfault <;> cases hfault
  | @made asked data hasks hsome heq =>
    have hexchange : (session.exchange asked data).1 = .error (.deviceException function code) := by
      rw [heq] at hresult
      cases hresponse : (session.exchange asked data).1 with
      | ok response =>
        rw [Session.replying, hresponse] at hresult
        cases hresult
      | error fault =>
        rw [Session.replying, hresponse] at hresult
        exact congrArg _ (Except.error.inj hresult)
    cases hopen : session.master.connection with
    | none =>
      rw [Session.exchange, buildRequest_none hopen] at hexchange
      cases hexchange
    | some framing =>
      rcases exchange_answered hopen asked data with
        ⟨fault, hfault, hlocal⟩
        | ⟨frame, response, written, reads, hframe, hlog, hwritten, haccepted, hdata, -⟩
      · obtain rfl := Except.error.inj (hexchange.symm.trans hfault)
        exact hlocal.elim
      · refine ⟨asked, response, .answered hasks hopen hframe ?_ hwritten haccepted hdata⟩
        rw [heq]
        exact hlog

/-! ## §4. What is reported. -/

/-- **An exception is reported exactly as it came in.**  A call on a table reports one if and only
if it was answered with one, in a frame that carries the number of the request over TCP; function
and code are those of the answer.  So the function that is reported is the one that was asked for
exactly if the answer is of this function, and which device it came from is not looked at.  An
answer that is no exception has to be of this function and from the addressed device.  As long as
exceptions come from the addressed device and for the function of the request, one that is reported
names this function and is from this device. -/
theorem exceptions_reported_as_received (session : Session σ) {operation : Operation σ}
    (h : operation.IsRequest) :
    let result := (session.apply operation).1
    (∀ function code, result = .error (.deviceException function code)
      ↔ ∃ asked response, operation.Answered session asked response
        ∧ response.isException = true ∧ function = response.function &&& 0x7F
        ∧ code = response.data.headD 0)
      ∧ (∀ asked response, operation.Answered session asked response →
        (response.isException = true →
          ((∃ code, result = .error (.deviceException asked code))
            ↔ response.function = asked ||| 0x80))
        ∧ (response.isException = false →
          result = if response.function = asked ∧ response.unit = session.master.unit
            then .ok (operation.replyTo response) else .error .protocolViolation))
      ∧ ((∀ asked response, operation.Answered session asked response →
          response.isException = true →
          response.function = asked ||| 0x80 ∧ response.unit = session.master.unit) →
        ∀ function code, result = .error (.deviceException function code) →
          ∃ response, operation.Answered session function response
            ∧ response.isException = true ∧ response.unit = session.master.unit) := by
  intro result
  have hexception : ∀ {asked response}, operation.Answered session asked response →
      response.isException = true → result
        = .error (.deviceException (response.function &&& 0x7F) (response.data.headD 0)) := by
    intro asked response hanswered hflag
    rw [show result = _ from hanswered.result, Response.verdict_exception hflag]
    rfl
  have hregular : ∀ {asked response}, operation.Answered session asked response →
      response.isException = false →
      result = if response.function = asked ∧ response.unit = session.master.unit
        then .ok (operation.replyTo response) else .error .protocolViolation := by
    intro asked response hanswered hflag
    rw [show result = _ from hanswered.result, Response.verdict_regular hflag]
    split <;> rfl
  have hreported : ∀ {function code}, result = .error (.deviceException function code) →
      ∃ asked response, operation.Answered session asked response
        ∧ response.isException = true ∧ function = response.function &&& 0x7F
        ∧ code = response.data.headD 0 := by
    intro function code hresult
    obtain ⟨asked, response, hanswered⟩ := answered_of_exception h hresult
    cases hflag : response.isException with
    | true =>
      have hsame := (hexception hanswered hflag).symm.trans hresult
      simp only [Except.error.injEq, Fault.deviceException.injEq] at hsame
      exact ⟨asked, response, hanswered, hflag, hsame.1.symm, hsame.2.symm⟩
    | false =>
      have hother := (hregular hanswered hflag).symm.trans hresult
      split at hother <;> cases hother
  refine ⟨fun function code => ⟨hreported, ?_⟩, fun asked response hanswered => ⟨?_, ?_⟩, ?_⟩
  · rintro ⟨asked, response, hanswered, hflag, rfl, rfl⟩
    exact hexception hanswered hflag
  · intro hflag
    rw [hexception hanswered hflag, ← hanswered.unflagged_iff hflag]
    simp
  · exact hregular hanswered
  · -- ===== where every exception belongs to the request =====
    intro hown function code hresult
    obtain ⟨asked, response, hanswered, hflag, hfunction, -⟩ := hreported hresult
    obtain ⟨hflagged, hunit⟩ := hown asked response hanswered hflag
    rw [(hanswered.unflagged_iff hflag).mpr hflagged] at hfunction
    rw [hfunction]
    exact ⟨response, hanswered, hflag, hunit⟩

end Requests

namespace Specimen

/-- A server that answers a read of holding registers with their exception. -/
def refusing : Session Wire where
  master := { connection := some .tcp }
  line := { platform := { inbound := [.chunk [0, 1, 0, 0, 0, 2, 1, 0x83, 2]] } }

/-- A server that answers first with the exception of another function, and then with the one of
another device. -/
def astray : Session Wire where
  master := { connection := some .tcp }
  line := { platform := { inbound := [
    .chunk [0, 1, 0, 0, 0, 2, 1, 0x84, 2],
    .chunk [0, 2, 0, 0, 0, 2, 9, 0x83, 2]] } }

end Specimen

/-- The refusal of a read is reported with its function, and there is an answer that it comes
from. -/
theorem exceptions_reported_as_received_specimen :
    let operation : Operation Wire := .read .holdingRegisters 0 1
    operation.IsRequest
      ∧ (Specimen.refusing.apply operation).1 = .error (.deviceException 3 2)
      ∧ ∃ asked response, operation.Answered Specimen.refusing asked response
        ∧ response.isException = true ∧ response.function &&& 0x7F = 3 := by
  intro operation
  have hresult : (Specimen.refusing.apply operation).1 = .error (.deviceException 3 2) := by
    decide +kernel
  obtain ⟨hreported, -⟩ := exceptions_reported_as_received Specimen.refusing
    (show operation.IsRequest from trivial)
  obtain ⟨asked, response, hanswered, hflag, hfunction, -⟩ := (hreported 3 2).mp hresult
  exact ⟨trivial, hresult, asked, response, hanswered, hflag, hfunction.symm⟩

/-- **Exceptions of another function and of another device are reported**: two reads ask device 1
for function 3; the first one reports an exception for function 4, and the second one an exception
that device 9 sent. -/
theorem foreign_exceptions_reported :
    let operation : Operation Wire := .read .holdingRegisters 0 1
    let next := (Specimen.astray.apply operation).2
    (∀ function data, operation.Asks function data → function = 3)
      ∧ Specimen.astray.master.unit = 1 ∧ next.master.unit = 1
      ∧ (Specimen.astray.apply operation).1 = .error (.deviceException 4 2)
      ∧ (next.apply operation).1 = .error (.deviceException 3 2)
      ∧ ∃ response, operation.Answered next 3 response ∧ response.isException = true
        ∧ response.unit = 9 := by
  intro operation next
  refine ⟨?_, rfl, by decide +kernel, by decide +kernel, by decide +kernel,
    ⟨9, 0x83, [2], by decide⟩, ?_, by decide, rfl⟩
  · intro function data hasks
    have hread : Operation.Asks (.read .holdingRegisters 0 1 : Operation Wire) function data :=
      hasks
    cases hread
    rfl
  · have hframe : Framing.frame .tcp (next.master.transaction + 1) next.master.unit 3
        (Request.read 0 1) = .ok [0, 2, 0, 0, 0, 5, 1, 3, 0, 0, 0, 1] := by decide +kernel
    have hlog : (next.apply operation).2.line.events = next.line.events
        ++ ([.sent [0, 2, 0, 0, 0, 5, 1, 3, 0, 0, 0, 1], .flushed true]
          ++ .timeoutSet defaultTimeoutMs true
            :: [.received [0, 2, 0, 0, 0, 2, 9], .received [0x83, 2]]) := by decide +kernel
    refine .answered (.read .holdingRegisters 0 1) (by decide +kernel) hframe hlog
      ⟨[_], rfl, rfl⟩ ⟨?_, fun _ => by decide +kernel, nofun⟩ nofun
    exact List.forall_mem_cons.mpr ⟨trivial, List.forall_mem_singleton.mpr trivial⟩

end FieldLink.Modbus
