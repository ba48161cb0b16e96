/-
  FieldLink.Proofs.Modbus.Recognition
  ────────────────────────────────
  **WHAT CAME IN DECIDES WHAT IS RECEIVED.**

  A response that is accepted is the frame that came in; here is the way
  back.  If the reads of a call amount to the frame of a response, then this
  response is what the call received, whatever the platform is: no other
  frame has these octets, and a call that lost its connection would have
  closed it behind its reads.  So the log of a request tells how it ended:

      Frame.tcp_inj        — no two frames over TCP have the same octets
      receiveResponse_told — the response that the reads amount to
      exchange_told        — the verdict on it, at the end of a request
-/
import FieldLink.Proofs.Modbus.Answer
import FieldLink.Proofs.Modbus.Breakdown

namespace FieldLink.Modbus

/-! ## §1. Frames and their parts. -/

/-- **A frame over TCP has one reading.** -/
theorem Frame.tcp_inj {number number' : UInt16} {response response' : Response} {frame : Octets}
    (h : Frame.tcp number response.unit response.function response.data = .ok frame)
    (h' : Frame.tcp number' response'.unit response'.function response'.data = .ok frame) :
    number = number' ∧ response = response' := by
  obtain ⟨-, hframe⟩ := Frame.tcp_ok_iff.mp h
  obtain ⟨-, hframe'⟩ := Frame.tcp_ok_iff.mp h'
  -- the header has its fixed length, and behind it stand the unit and the data
  obtain ⟨hheader, hbody⟩ := List.append_inj (hframe.symm.trans hframe') rfl
  have hnumber : Octets.big number = Octets.big number' := by
    rw [List.append_assoc, List.append_assoc] at hheader
    exact (List.append_inj hheader rfl).1
  refine ⟨Octets.big_inj hnumber, ?_⟩
  obtain ⟨unit, function, data, hfits⟩ := response
  obtain ⟨unit', function', data', hfits'⟩ := response'
  simp only [List.cons.injEq] at hbody
  obtain ⟨rfl, rfl, rfl⟩ := hbody
  rfl

/-! ## §2. Events of a call that kept its connection. -/

/-- Where the connection was only used, it was not closed. -/
theorem not_isUse_closing {before used closing : List Event} {worked : Bool}
    (hused : ∀ event ∈ used, event.IsUse)
    (h : before ++ used = before ++ (closing ++ [.closed worked])) : False := by
  have hmem : Event.closed worked ∈ used := by
    rw [List.append_cancel_left h]
    simp
  exact hused _ hmem

section Told

variable {σ : Type} [OctetStream σ]

/-! ## §3. Receiving. -/

/-- A frame that came with one read on a serial line is received. -/
theorem receiveRtu_told {line : Line σ} {response : Response} (hdata : response.data ≠ [])
    (hlog : (Session.receiveRtu line).2.events
      = line.events ++ [.received (Frame.withChecksum (response.unit :: response.pdu))]) :
    (Session.receiveRtu line).1 = .ok response := by
  rcases hread : line.read maxSerialFrameLength with ⟨answer, line'⟩
  have hevent := Line.events_read maxSerialFrameLength line
  rw [receiveRtu_line hread] at hlog
  rw [hread, hlog] at hevent
  have hsame := List.append_cancel_left hevent
  cases answer with
  | none => cases hsame
  | some frame =>
    simp only [Line.readEvent, List.cons.injEq, Event.received.injEq, and_true] at hsame
    obtain rfl := hsame
    exact ((receiveRtu_ok_iff hread).1 response).mpr
      ⟨hdata, Frame.rtu_ok_iff.mpr ⟨response.data_fits, rfl⟩⟩

/-- **The reads of a call decide what it receives**: the response whose frame they are, unless the
frame has another number than the last request over TCP. -/
theorem receiveResponse_told {session : Session σ} {framing : Framing}
    (hopen : session.master.connection = some framing) {timeoutMs : UInt32} {number : UInt16}
    {response : Response} {reads : List Event}
    (hlog : (session.receiveResponse timeoutMs).2.line.events
      = session.line.events ++ (.timeoutSet timeoutMs true :: reads))
    (haccepted : Accepted framing number response reads)
    (hdata : framing = .rtu → response.data ≠ []) :
    (session.receiveResponse timeoutMs).1
      = if framing = .rtu ∨ number = session.master.transaction then .ok response
        else .error .protocolViolation := by
  have hset := Line.events_setTimeout timeoutMs session.line
  have hused : ∀ event ∈ Event.timeoutSet timeoutMs true :: reads, event.IsUse :=
    List.forall_mem_cons.mpr ⟨trivial, fun event hevent => (haccepted.isRead event hevent).isUse⟩
  -- a connection that was lost would have been closed
  have hlost : ∀ {line : Line σ} {used : List Event},
      line.events = session.line.events ++ used →
      (Session.hangUp { session with line := line }).line.events
        ≠ session.line.events ++ (.timeoutSet timeoutMs true :: reads) := by
    intro line used hline hgone
    obtain ⟨worked, hclosing⟩ := @hangUp_events _ _ framing { session with line := line } hopen
    rw [hclosing, hline, List.append_assoc] at hgone
    exact not_isUse_closing hused hgone.symm
  unfold Session.receiveResponse at hlog ⊢
  rw [hopen] at hlog ⊢
  dsimp only at hlog ⊢
  split at hlog
  · next line hwait =>
    rw [hwait] at hset
    exact absurd hlog (hlost hset)
  · next line hwait =>
    rw [hwait] at hset
    cases framing with
    | tcp =>
      dsimp only at hlog ⊢
      obtain ⟨octets, hreads⟩ := receiveTcp_reads line
      split at hlog
      · next fault line' heq =>
        rw [heq] at hreads
        obtain ⟨reads', hlog', -, -⟩ := hreads
        rw [hset, List.append_assoc] at hlog'
        exact absurd hlog (hlost hlog')
      · next number' response' line' heq =>
        obtain ⟨hpos, hle, reads', hlog', hisRead, hoctets⟩ := receiveTcp_ok heq
        have hframe' : Frame.tcp number' response'.unit response'.function response'.data
            = .ok (Traffic.received reads') :=
          Frame.tcp_ok_iff.mpr ⟨response'.data_fits, hoctets⟩
        have hline : line'.events
            = session.line.events ++ (.timeoutSet timeoutMs true :: reads) := by
          split at hlog <;> exact hlog
        rw [hlog', hset, List.append_assoc] at hline
        obtain ⟨-, rfl⟩ := List.cons.inj (List.append_cancel_left hline)
        obtain ⟨rfl, rfl⟩ := Frame.tcp_inj hframe' haccepted.frame_eq
        by_cases hnumber : number' = session.master.transaction
        · rw [if_pos hnumber, if_pos (.inr hnumber)]
        · rw [if_neg hnumber, if_neg (by simpa using hnumber)]
    | rtu =>
      dsimp only at hlog ⊢
      rw [if_pos (.inl rfl)]
      obtain ⟨octets, reads', hlog', -, -⟩ := receiveRtu_reads line
      -- with the connection still open, the log shows the one read and the frame that it gave
      have htold : (Session.receiveRtu line).2.events
          = session.line.events ++ (.timeoutSet timeoutMs true :: reads) →
          (Session.receiveRtu line).1 = .ok response := by
        intro hkept
        refine receiveRtu_told (hdata rfl) ?_
        rw [hkept, hset, haccepted.over_rtu rfl, List.append_assoc]
        rfl
      split at hlog
      · next response' line' heq =>
        rw [heq] at htold
        obtain rfl := Except.ok.inj (htold hlog)
        rfl
      · next fault line' heq =>
        rw [heq] at htold hlog'
        rw [hset, List.append_assoc] at hlog'
        split at hlog
        · exact absurd hlog (hlost hlog')
        · cases htold hlog

/-! ## §4. A whole request. -/

/-- How a response to a request is judged: an exception is reported as it comes, and every other
response has to be of the same function and from the addressed device. -/
def Response.verdict (function unit : UInt8) (response : Response) : Except Fault Response :=
  match response.exception? with
  | some fault => .error fault
  | none =>
    if response.function = function ∧ response.unit = unit then .ok response
    else .error .protocolViolation

/-- A frame that did not go out has cost the connection. -/
theorem sendRequest_error {session after : Session σ} {framing : Framing}
    (hopen : session.master.connection = some framing) {frame : Octets} {fault : Fault}
    (h : session.sendRequest frame = (.error fault, after)) :
    fault = .writeFailed
      ∧ ∃ used worked, after.line.events = session.line.events ++ (used ++ [.closed worked]) := by
  unfold Session.sendRequest at h
  rw [if_pos (by rw [Master.isConnected, hopen]; rfl)] at h
  split at h
  · cases h
  · next fault' line hwrite =>
    obtain ⟨hfault, rfl⟩ := Prod.mk.inj h
    obtain ⟨rfl, used, hlog, -⟩ := Line.writeAll_error_event hwrite
    obtain ⟨worked, hclosing⟩ := @hangUp_events _ _ framing { session with line := line } hopen
    rw [hlog, List.append_assoc] at hclosing
    exact ⟨(Except.error.inj hfault).symm, used, worked, hclosing⟩

/-- A request is framed and sent, a response is awaited, and the verdict on it is the result. -/
theorem exchange_eq {session : Session σ} {framing : Framing}
    (hopen : session.master.connection = some framing) {function : UInt8} {data frame : Octets}
    (hframe : framing.frame (session.master.transaction + 1) session.master.unit function data
      = .ok frame) :
    session.exchange function data
      = match Session.sendRequest frame ⟨session.master.numbered framing, session.line⟩ with
        | (.error fault, after) => (.error fault, after)
        | (.ok (), sent) =>
          ((sent.receiveResponse defaultTimeoutMs).1.bind fun response =>
            response.verdict function (sent.receiveResponse defaultTimeoutMs).2.master.unit,
          (sent.receiveResponse defaultTimeoutMs).2) := by
  unfold Session.exchange
  rw [buildRequest_some hopen, hframe]
  dsimp only
  rcases Session.sendRequest frame ⟨session.master.numbered framing, session.line⟩ with
    ⟨fault | done, sent⟩
  · rfl
  · dsimp only
    rcases sent.receiveResponse defaultTimeoutMs with ⟨fault | response, after⟩
    · rfl
    · unfold Except.bind Response.verdict
      dsimp only
      cases response.exception? with
      | some fault => rfl
      | none =>
        dsimp only
        split <;> rfl

/-- **The log of a request decides how it ended**: if its frame went out whole and the frame of a
response came in, with the number of the request, then with the verdict on that response. -/
theorem exchange_told {session : Session σ} {framing : Framing}
    (hopen : session.master.connection = some framing) {function : UInt8} {data frame : Octets}
    (hframe : framing.frame (session.master.transaction + 1) session.master.unit function data
      = .ok frame) {response : Response} {written reads : List Event}
    (hlog : (session.exchange function data).2.line.events
      = session.line.events ++ (written ++ .timeoutSet defaultTimeoutMs true :: reads))
    (hwritten : Delivered frame written)
    (haccepted : Accepted framing (session.master.transaction + 1) response reads)
    (hdata : framing = .rtu → response.data ≠ []) :
    (session.exchange function data).1 = response.verdict function session.master.unit := by
  have hused : ∀ event ∈ written ++ .timeoutSet defaultTimeoutMs true :: reads, event.IsUse :=
    List.forall_mem_append.mpr ⟨hwritten.isUse, List.forall_mem_cons.mpr
      ⟨trivial, fun event hevent => (haccepted.isRead event hevent).isUse⟩⟩
  rw [exchange_eq hopen hframe] at hlog ⊢
  have hsending := sendRequest_sending frame ⟨session.master.numbered framing, session.line⟩
  split at hlog
  · -- ===== a frame that did not go out would have cost the connection =====
    next fault after hsend =>
    obtain ⟨-, used, worked, hclosing⟩ := sendRequest_error (numbered_open hopen session.line) hsend
    exact (not_isUse_closing hused (hlog.symm.trans hclosing)).elim
  · next sent hsend =>
    rw [hsend] at hsending
    cases hsending with
    | @delivered line written' hlog' hwritten' =>
      dsimp only at hlog hlog' ⊢
      have hreceiving := receiveResponse_receiving defaultTimeoutMs
        (⟨session.master.numbered framing, line⟩ : Session σ)
      -- ===== behind the frame the reads are those of the response =====
      obtain ⟨rest, hrest, -⟩ := hreceiving.passive.silent
      dsimp only at hrest
      rw [hrest, hlog', List.append_assoc] at hlog
      rw [hwritten'.rest_eq hwritten (List.append_cancel_left hlog)] at hrest
      have hreceived := receiveResponse_told (numbered_open hopen line) hrest haccepted hdata
      rw [if_pos (by cases framing <;> simp [Master.numbered])] at hreceived
      -- ===== and the verdict is on that response =====
      generalize Session.receiveResponse defaultTimeoutMs
        (⟨session.master.numbered framing, line⟩ : Session σ) = outcome at hreceived hreceiving ⊢
      cases hreceiving with
      | refused => cases hreceived
      | accepted =>
        rw [Except.ok.inj hreceived]
        show Response.verdict function (session.master.numbered framing).unit response = _
        rw [Master.numbered_unit]

end Told

end FieldLink.Modbus
