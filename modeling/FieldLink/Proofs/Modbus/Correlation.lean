/-
  FieldLink.Proofs.Modbus.Correlation
  ────────────────────────────────
  **NO FOREIGN ANSWER IS TAKEN FOR SUCCESS.**

  A call on a table writes one frame, once, and then takes one response.
  It succeeds only if the response came in the framing of the open
  connection, from the device that was addressed, for the function that was
  asked for, and over TCP with the number of the request.  What was left
  over on the stream from an earlier request has another number:

      apply_once         — an operation writes one frame at most, and once
      no_foreign_answer  — what a success in a run has passed
-/
import FieldLink.Proofs.Modbus.History
import FieldLink.Wire

namespace FieldLink.Modbus

section Runs

variable {σ : Type} [OctetStream σ] [Dialer σ] [SerialBus σ]

/-! ## §1. Frames that are written. -/

/-- What an operation may write, if it writes anything: the frame that is given to it, or the frame
of its own request. -/
inductive Operation.Sends (session : Session σ) : Operation σ → Octets → Prop where
  /-- The frame is given. -/
  | given (frame : Octets) : Sends session (.sendRequest frame) frame
  /-- The frame is built. -/
  | built {operation : Operation σ} {framing : Framing} {function : UInt8} {data frame : Octets}
      (hasks : operation.Asks function data)
      (hconnection : session.master.connection = some framing)
      (hframe : framing.frame (session.master.transaction + 1) session.master.unit function data
        = .ok frame) : Sends session operation frame

/-- **Every operation writes one frame at most, and that once.** -/
theorem apply_once (session : Session σ) (operation : Operation σ) :
    ∃ events, (session.apply operation).2.line.events = session.line.events ++ events
      ∧ ((∀ event ∈ events, ¬ event.IsWrite)
        ∨ ∃ frame, operation.Sends session frame ∧ WrittenOnce frame events) := by
  have hquiet : ∀ {after : Session σ}, Silent session.line after.line →
      ∃ events, after.line.events = session.line.events ++ events
        ∧ ((∀ event ∈ events, ¬ event.IsWrite)
          ∨ ∃ frame, operation.Sends session frame ∧ WrittenOnce frame events) := by
    intro after hsilent
    obtain ⟨events, hlog, hunwritten⟩ := hsilent
    exact ⟨events, hlog, .inl hunwritten⟩
  have happlying := apply_applying session operation
  generalize session.apply operation = outcome at happlying ⊢
  cases happlying with
  | attempted hopens hattempting => exact hquiet hattempting.silent
  | passed hopens hpassive hfault => exact hquiet hpassive.silent
  | requested hasks hexchanging =>
    rcases hexchanging.once with
      hsilent | ⟨framing, frame, events, hconnection, hframe, hlog, honce⟩
    · exact hquiet hsilent
    · exact ⟨events, hlog, .inr ⟨frame, .built hasks hconnection hframe, honce⟩⟩
  | @given frame outcome hsending =>
    rcases hsending.once with hsilent | ⟨events, hlog, honce⟩
    · exact hquiet hsilent
    · exact ⟨events, hlog, .inr ⟨frame, .given frame, honce⟩⟩

/-! ## §2. Answers in a run. -/

/-- **No foreign answer is taken for success**, by any call on a table, whatever master a run has
left and whatever the platform does.  A call that succeeds has written its frame in the framing of
the last connection that was opened, with the device that is addressed, the function and the data of
the call, and over TCP with the next number; and the response that it took is of the same device and
function, and came in a frame of the same framing: over TCP with protocol 0, its true length and the
same number, over a serial line with a checksum that is right.  No request is written twice, in the
call or at any other time of the run. -/
theorem no_foreign_answer (line : Line σ) (operations : List (Operation σ))
    {operation : Operation σ} (h : operation.IsRequest) :
    let start : Session σ := ⟨{}, line⟩
    let session := start.run operations
    let master := session.master
    let after := (session.apply operation).2
    (∀ reply, (session.apply operation).1 = .ok reply →
      ∃ framing function data frame response written reads, operation.Asks function data
        ∧ Opened (start.history operations) framing
        ∧ (framing = .tcp →
          Frame.tcp (master.transaction + 1) master.unit function data = .ok frame)
        ∧ (framing = .rtu → Frame.rtu master.unit function data = .ok frame)
        ∧ after.master = master.numbered framing
        ∧ after.line.events
          = session.line.events ++ (written ++ .timeoutSet defaultTimeoutMs true :: reads)
        ∧ Delivered frame written ∧ (∀ event ∈ reads, event.IsRead)
        ∧ reply = operation.replyTo response ∧ response.unit = master.unit
        ∧ response.function = function ∧ response.isException = false
        ∧ (framing = .tcp → 1 ≤ response.pdu.length ∧ response.pdu.length ≤ 253
          ∧ Traffic.received reads = Octets.big (master.transaction + 1) ++ [0, 0]
            ++ Octets.big (UInt16.ofNat response.pdu.length) ++ response.unit :: response.pdu)
        ∧ (framing = .rtu →
          reads = [.received (Frame.withChecksum (response.unit :: response.pdu))]))
      ∧ ∀ exchange ∈ start.history (operations ++ [operation]),
        ∃ events, exchange.after.line.events = exchange.before.line.events ++ events
          ∧ ((∀ event ∈ events, ¬ event.IsWrite)
            ∨ ∃ frame, exchange.operation.Sends exchange.before frame
              ∧ WrittenOnce frame events) := by
  intro start session master after
  refine ⟨?_, fun exchange _ => apply_once exchange.before exchange.operation⟩
  intro reply hok
  have happlying := apply_applying session operation
  generalize houtcome : session.apply operation = outcome at happlying hok
  have hafter : after = outcome.2 := congrArg Prod.snd houtcome
  rw [hafter]
  cases happlying with
  | attempted hopens =>
    rw [h.opens?_eq] at hopens
    cases hopens
  | given => exact h.elim
  | passed hopens hpassive hfault =>
    obtain ⟨fault, herror⟩ := hfault h
    rw [herror] at hok
    cases hok
  | @requested _ function data outcome hasks hexchanging =>
    cases hexchanging with
    | unwritten => cases hok
    | unanswered => cases hok
    | answered hconnection hframe hmaster hlog hwritten hunit hfunction hregular haccepted =>
      refine ⟨_, function, data, _, _, _, _, hasks,
        opened_of_connection line operations hconnection, ?_, ?_, hmaster, hlog, hwritten,
        haccepted.isRead, (Except.ok.inj hok).symm, hunit, hfunction, hregular,
        haccepted.over_tcp, haccepted.over_rtu⟩
      · rintro rfl
        exact hframe
      · rintro rfl
        exact hframe

end Runs

namespace Specimen

def server : Remote := ⟨"plant", 502⟩

/-- A server that first answers a request that was never made, and then the second one that is. -/
def line : Line Wire where
  platform :=
    { inbound := [
        .chunk [0, 9, 0, 0, 0, 4, 1, 3, 2, 0, 5],
        .chunk [0, 2, 0, 0, 0, 4, 1, 3, 2, 0, 6]] }

end Specimen

/-- The first of two reads refuses an answer with another number; the second one takes the answer
with its own, and this is from device 1 for function 3. -/
theorem no_foreign_answer_specimen :
    let start : Session Wire := ⟨{}, Specimen.line⟩
    let operations : List (Operation Wire) :=
      [.connectTcp Specimen.server, .read .holdingRegisters 0 1]
    let session := start.run operations
    let operation : Operation Wire := .read .holdingRegisters 0 1
    operation.IsRequest ∧ session.master = { connection := some .tcp, transaction := 1 }
      ∧ ∃ response, (session.apply operation).1 = .ok (.response response)
        ∧ response.unit = 1 ∧ response.function = 3 ∧ response.data = [2, 0, 6] := by
  intro start operations session operation
  obtain ⟨hsuccess, -⟩ := no_foreign_answer Specimen.line operations
    (show operation.IsRequest from trivial)
  have hdata : ((session.apply operation).1.toOption.map fun reply =>
      match reply with
      | .response response => response.data
      | _ => []) = some [2, 0, 6] := by
    decide +kernel
  cases hreply : (session.apply operation).1 with
  | error fault =>
    rw [hreply] at hdata
    cases hdata
  | ok reply =>
    obtain ⟨framing, function, data, frame, response, written, reads, hasks, -, -, -, -, -, -, -,
      hresponse, hunit, hfunction, -⟩ := hsuccess reply hreply
    have hthree : function = 3 := by
      have hread : Operation.Asks (.read .holdingRegisters 0 1 : Operation Wire) function data :=
        hasks
      cases hread
      rfl
    rw [hreply, hresponse] at hdata
    refine ⟨trivial, by decide +kernel, response, congrArg Except.ok hresponse, ?_,
      hfunction.trans hthree, Option.some.inj hdata⟩
    rw [hunit]
    decide +kernel

end FieldLink.Modbus
