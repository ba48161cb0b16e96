/-
  FieldLink.Proofs.Modbus.Breakdown
  ────────────────────────────────
  **WHEN A MASTER GIVES ITS CONNECTION UP.**

  A master keeps its connection through every answer that it does not want,
  and gives it up when the octet stream failed it or has come out of step.
  Which of the two it was can be told by the events of the call alone:
  `Breakdown` lists the reasons, each with the cause that is reported for
  it.  A call closes its connection exactly if one of them is there:

      Breakdown.behind      — what went well before is of no account
      receiveTcp_breakdown  — a frame over TCP that did not come whole
      receiveRtu_breakdown  — a serial line that gave nothing
      apply_conduct         — every call on an open connection
      closes_iff_breakdown  — closing and its reasons
-/
import FieldLink.Proofs.Line.Failure
import FieldLink.Proofs.Modbus.Calls
import FieldLink.Proofs.Modbus.SerialFrame
import FieldLink.Wire

namespace FieldLink.Modbus

/-! ## §1. Reasons to give a connection up. -/

/-- Octets over TCP that break off within a frame; `part` is what there is of its header or, behind
a header that is accepted, of its unit. -/
inductive CutOff : Octets → Octets → Prop where
  /-- Within the header. -/
  | header {part : Octets} (hshort : part.length < tcpHeaderLength) : CutOff part part
  /-- Within the unit that a header announces. -/
  | unit {octets part : Octets} {header : Frame.Header}
      (hheader : Frame.header octets = .ok header) (hshort : part.length < header.length) :
      CutOff (octets ++ part) part

/-- A header that announces another protocol, no unit, or a unit that is too long. -/
def IsBadHeader : Octets → Prop
  | [_, _, p₁, p₀, l₁, l₀, _] =>
    Octets.word p₁ p₀ ≠ 0 ∨ (Octets.word l₁ l₀).toNat = 0 ∨ 253 < (Octets.word l₁ l₀).toNat
  | _ => False

/-- Why a connection cannot be used any more, with the cause that is reported; `used` are the
events of one call on it. -/
inductive Breakdown (framing : Framing) (used : List Event) : Fault → Prop where
  /-- Octets could not be written or pushed out. -/
  | write {event : Event} (hmem : event ∈ used) (hfailed : event.IsFailedWrite) :
      Breakdown framing used .writeFailed
  /-- The wait for an answer could not be bounded. -/
  | wait {timeoutMs : UInt32} (hmem : .timeoutSet timeoutMs false ∈ used) :
      Breakdown framing used .readFailed
  /-- Over TCP the last read gave nothing, and a frame was not complete. -/
  | cutOff {part : Octets} {shortfall : Shortfall} (htcp : framing = .tcp)
      (hcut : CutOff (Traffic.received used) part)
      (hlast : used.getLast? = some shortfall.event) :
      Breakdown framing used (shortfall.fault part)
  /-- Over TCP a header came that is none. -/
  | badHeader (htcp : framing = .tcp) (hbad : IsBadHeader (Traffic.received used)) :
      Breakdown framing used .protocolViolation
  /-- The one read of a serial line gave nothing. -/
  | nothingRead (shortfall : Shortfall) (hrtu : framing = .rtu)
      (hlast : used.getLast? = some shortfall.event) :
      Breakdown framing used (shortfall.fault [])

theorem Frame.length_of_header {octets : Octets} {header : Frame.Header}
    (h : Frame.header octets = .ok header) : octets.length = tcpHeaderLength := by
  rw [(Frame.header_ok h).1]
  rfl

/-- A header is refused for what it announces. -/
theorem Frame.header_refused {octets : Octets} {fault : Fault}
    (hlength : octets.length = tcpHeaderLength) (h : Frame.header octets = .error fault) :
    IsBadHeader octets ∧ fault = .protocolViolation := by
  match octets, hlength with
  | [t₁, t₀, p₁, p₀, l₁, l₀, unit], _ =>
    unfold Frame.header at h
    dsimp only at h
    split at h
    · next hbad => exact ⟨hbad, (Except.error.inj h).symm⟩
    · cases h

/-- A serial frame is refused for what it is, never for a failure of the line. -/
theorem Frame.stripChecksum_kind {frame : Octets} {fault : Fault}
    (h : Frame.stripChecksum frame = .error fault) : fault.kind ≠ .transport := by
  rcases Frame.stripChecksum_error h with rfl | ⟨carried, computed, rfl⟩
  · decide
  · show Fault.Kind.protocol ≠ .transport
    decide

theorem Response.ofPdu_kind {unit : UInt8} {pdu : Octets} {fault : Fault}
    (h : Response.ofPdu unit pdu = .error fault) : fault.kind ≠ .transport := by
  rcases Response.ofPdu_error h with rfl | rfl <;> decide

theorem IsBadHeader.length_eq {octets : Octets} (h : IsBadHeader octets) :
    octets.length = tcpHeaderLength := by
  unfold IsBadHeader at h
  split at h
  · rfl
  · exact h.elim

/-- A frame that came whole was not cut off, wherever one looks for the cut. -/
theorem not_cutOff_of_whole {octets pdu part : Octets} {header : Frame.Header}
    (hheader : Frame.header octets = .ok header) (hlength : pdu.length = header.length) :
    ¬ CutOff (octets ++ pdu) part := by
  intro hcut
  generalize hall : octets ++ pdu = all at hcut
  have hoctets := Frame.length_of_header hheader
  cases hcut with
  | header hshort =>
    rw [← hall, List.length_append] at hshort
    omega
  | unit hheader' hshort =>
    -- both headers have their seven octets, so they are one header
    have hsame := hoctets.trans (Frame.length_of_header hheader').symm
    obtain ⟨rfl, rfl⟩ := List.append_inj hall hsame
    obtain rfl := Except.ok.inj (hheader.symm.trans hheader')
    omega

namespace Breakdown

variable {framing : Framing} {before used : List Event} {fault : Fault}

/-- The last event of a stretch that ends with a read is no earlier one. -/
theorem last_behind (h : ∀ event ∈ before, event.IsSmooth) (shortfall : Shortfall) :
    (before ++ used).getLast? = some shortfall.event
      ↔ used.getLast? = some shortfall.event := by
  rw [List.getLast?_append]
  cases hlast : used.getLast? with
  | some event => exact Iff.rfl
  | none =>
    refine ⟨fun hbefore => ?_, nofun⟩
    have hsmooth := h shortfall.event (List.mem_of_getLast? hbefore)
    exact absurd shortfall.event_isRead hsmooth.not_isRead

/-- **What went well before is no reason**, and takes none away. -/
theorem behind (h : ∀ event ∈ before, event.IsSmooth) :
    Breakdown framing (before ++ used) fault ↔ Breakdown framing used fault := by
  have hreceived : Traffic.received (before ++ used) = Traffic.received used := by
    rw [Traffic.received_append, Traffic.received_smooth h, List.nil_append]
  constructor
  · intro hbroken
    cases hbroken with
    | write hmem hfailed =>
      rcases List.mem_append.mp hmem with hbefore | hused
      · exact absurd hfailed (h _ hbefore).not_isFailedWrite
      · exact .write hused hfailed
    | wait hmem =>
      rcases List.mem_append.mp hmem with hbefore | hused
      · exact absurd (h _ hbefore) Bool.false_ne_true
      · exact .wait hused
    | cutOff htcp hcut hlast =>
      rw [hreceived] at hcut
      exact .cutOff htcp hcut ((last_behind h _).mp hlast)
    | badHeader htcp hbad =>
      rw [hreceived] at hbad
      exact .badHeader htcp hbad
    | nothingRead shortfall hrtu hlast =>
      exact .nothingRead shortfall hrtu ((last_behind h _).mp hlast)
  · intro hbroken
    cases hbroken with
    | write hmem hfailed => exact .write (List.mem_append_right _ hmem) hfailed
    | wait hmem => exact .wait (List.mem_append_right _ hmem)
    | cutOff htcp hcut hlast =>
      rw [← hreceived] at hcut
      exact .cutOff htcp hcut ((last_behind h _).mpr hlast)
    | badHeader htcp hbad =>
      rw [← hreceived] at hbad
      exact .badHeader htcp hbad
    | nothingRead shortfall hrtu hlast =>
      exact .nothingRead shortfall hrtu ((last_behind h _).mpr hlast)

theorem not_nil : ¬ Breakdown framing [] fault := by
  intro h
  cases h with
  | write hmem => cases hmem
  | wait hmem => cases hmem
  | cutOff _ _ hlast => cases hlast
  | badHeader _ hbad => exact hbad
  | nothingRead _ _ hlast => cases hlast

/-- While all goes well there is no reason. -/
theorem not_smooth (h : ∀ event ∈ used, event.IsSmooth) : ¬ Breakdown framing used fault := by
  rw [← List.append_nil used, behind h]
  exact not_nil

/-- Among reads there is neither a write nor a wait that could have failed. -/
theorem of_reads (h : ∀ event ∈ used, event.IsRead) (hbroken : Breakdown framing used fault) :
    (framing = .tcp ∧ ((∃ part, CutOff (Traffic.received used) part)
        ∨ IsBadHeader (Traffic.received used)))
      ∨ framing = .rtu ∧ ∃ shortfall : Shortfall, used.getLast? = some shortfall.event := by
  cases hbroken with
  | @write event hmem hfailed =>
    have hread := h _ hmem
    cases event with
    | received | readFailed => exact hfailed.elim
    | _ => exact hread.elim
  | wait hmem => exact (h _ hmem).elim
  | cutOff htcp hcut hlast => exact .inl ⟨htcp, .inl ⟨_, hcut⟩⟩
  | badHeader htcp hbad => exact .inl ⟨htcp, .inr hbad⟩
  | nothingRead shortfall hrtu hlast => exact .inr ⟨hrtu, _, hlast⟩

theorem isFromLine (h : Breakdown framing used fault) : fault.IsFromLine := by
  cases h with
  | write | wait | badHeader => trivial
  | cutOff => exact Shortfall.fault_isFromLine _ _
  | nothingRead shortfall => exact shortfall.fault_isFromLine []

end Breakdown

/-! ## §2. Receiving. -/

section Receiving

variable {σ : Type} [OctetStream σ]

/-- **A frame over TCP comes whole, or its reads say why not.** -/
theorem receiveTcp_breakdown (line : Line σ) :
    ∃ reads, (Session.receiveTcp line).2.events = line.events ++ reads
      ∧ (∀ event ∈ reads, event.IsRead)
      ∧ match (Session.receiveTcp line).1 with
        | .ok _ => ∀ fault, ¬ Breakdown .tcp reads fault
        | .error fault => Breakdown .tcp reads fault ∧ fault ≠ .capacityExceeded := by
  unfold Session.receiveTcp
  split
  · -- ===== the header is cut off =====
    next fault line₁ hread =>
    obtain ⟨reads, hlog, hisRead, hwanting, shortfall, hlast, rfl⟩ := Line.readExact_gaveUp hread
    refine ⟨reads, hlog, hisRead, .cutOff rfl (.header hwanting) hlast, ?_⟩
    intro hfault
    rcases shortfall.fault_cases (Traffic.received reads) with h | h | h <;>
      · rw [h] at hfault
        cases hfault
  · next octets line₁ hread =>
    obtain ⟨reads, hlog, hisRead, rfl⟩ := Line.reads_readExact_ok hread
    have hlength := Line.length_readExact hread
    split
    · -- ===== the header is none =====
      next fault hheader =>
      obtain ⟨hbad, rfl⟩ := Frame.header_refused hlength hheader
      exact ⟨reads, hlog, hisRead, .badHeader rfl hbad, by decide⟩
    · next header hheader =>
      split
      · -- ===== the unit is cut off =====
        next fault line₂ hread' =>
        obtain ⟨reads', hlog', hisRead', hwanting, shortfall, hlast, rfl⟩ :=
          Line.readExact_gaveUp hread'
        rw [hlog, List.append_assoc] at hlog'
        refine ⟨_, hlog', List.forall_mem_append.mpr ⟨hisRead, hisRead'⟩,
          .cutOff rfl ?_ ?_, ?_⟩
        · rw [Traffic.received_append]
          exact .unit hheader hwanting
        · rw [List.getLast?_append, hlast]
          rfl
        · intro hfault
          rcases shortfall.fault_cases (Traffic.received reads') with h | h | h <;>
            · rw [h] at hfault
              cases hfault
      · -- ===== the unit is complete =====
        next pdu line₂ hread' =>
        obtain ⟨reads', hlog', hisRead', rfl⟩ := Line.reads_readExact_ok hread'
        have hlength' := Line.length_readExact hread'
        obtain ⟨-, hpos, hle⟩ := Frame.header_ok hheader
        have hboth := List.forall_mem_append.mpr ⟨hisRead, hisRead'⟩
        rw [hlog, List.append_assoc] at hlog'
        refine ⟨_, hlog', hboth, ?_⟩
        -- a unit that is not empty and fits is a response
        obtain ⟨function, data, hpdu⟩ : ∃ function data,
            Traffic.received reads' = function :: data :=
          List.exists_cons_of_length_pos (by omega)
        have hfits : data.length + 1 ≤ maxPduLength := by
          rw [hpdu, List.length_cons] at hlength'
          omega
        have hresponse := Response.ofPdu_fits ⟨header.unit, function, data, hfits⟩
        dsimp only [Response.pdu] at hresponse
        rw [hpdu, hresponse]
        intro fault hbroken
        rcases hbroken.of_reads hboth with ⟨-, ⟨part, hcut⟩ | hbad⟩ | ⟨hrtu, -⟩
        · rw [Traffic.received_append] at hcut
          exact not_cutOff_of_whole hheader hlength' hcut
        · have hseven := hbad.length_eq
          rw [Traffic.received_append, List.length_append] at hseven
          omega
        · cases hrtu

/-- **A serial line gives something, or its one read says that it does not.** -/
theorem receiveRtu_breakdown (line : Line σ) :
    ∃ reads, (Session.receiveRtu line).2.events = line.events ++ reads
      ∧ (∀ event ∈ reads, event.IsRead)
      ∧ (Session.receiveRtu line).1 ≠ .error .capacityExceeded
      ∧ ((∃ fault, (Session.receiveRtu line).1 = .error fault ∧ fault.kind = .transport
            ∧ Breakdown .rtu reads fault)
        ∨ (∀ fault, (Session.receiveRtu line).1 = .error fault → fault.kind ≠ .transport)
          ∧ ∀ fault, ¬ Breakdown .rtu reads fault) := by
  have hlog := Line.events_read maxSerialFrameLength line
  rcases hread : line.read maxSerialFrameLength with ⟨answer, line'⟩
  rw [hread] at hlog
  have hline := receiveRtu_line hread
  match answer with
  | none =>
    -- ===== silence =====
    have hresult : (Session.receiveRtu line).1 = .error .timedOut := by
      rw [Session.receiveRtu, hread]
    rw [hline, hresult]
    exact ⟨_, hlog, List.forall_mem_singleton.mpr trivial, nofun,
      .inl ⟨_, rfl, rfl, .nothingRead .failed rfl rfl⟩⟩
  | some [] =>
    -- ===== the peer has closed =====
    have hresult : (Session.receiveRtu line).1 = .error .connectionClosed := by
      rw [Session.receiveRtu, hread]
    rw [hline, hresult]
    exact ⟨_, hlog, List.forall_mem_singleton.mpr trivial, nofun,
      .inl ⟨_, rfl, rfl, .nothingRead .closed rfl rfl⟩⟩
  | some (octet :: octets) =>
    -- ===== something came, right or wrong =====
    have hisRead : ∀ event ∈ [Event.received (octet :: octets)], event.IsRead :=
      List.forall_mem_singleton.mpr trivial
    rw [hline]
    refine ⟨_, hlog, hisRead, (receiveRtu_ok_iff hread).2, .inr ⟨?_, ?_⟩⟩
    · intro fault hfault
      unfold Session.receiveRtu at hfault
      rw [hread] at hfault
      dsimp only at hfault
      split at hfault
      · next fault' hstrip =>
        obtain rfl := Except.error.inj hfault
        exact Frame.stripChecksum_kind hstrip
      · obtain rfl := Except.error.inj hfault
        exact nofun
      · exact Response.ofPdu_kind hfault
    · intro fault hbroken
      rcases hbroken.of_reads hisRead with ⟨htcp, -⟩ | ⟨-, shortfall, hlast⟩
      · cases htcp
      · cases shortfall <;> cases hlast

/-- A serial line is to blame for whatever keeps a frame from being taken off it. -/
theorem receiveRtu_isFromLine {line : Line σ} {fault : Fault}
    (h : (Session.receiveRtu line).1 = .error fault) : fault.IsFromLine := by
  obtain ⟨reads, -, -, hcapacity, -⟩ := receiveRtu_breakdown line
  rw [h] at hcapacity
  unfold Session.receiveRtu at h
  split at h
  · obtain rfl := Except.error.inj h
    trivial
  · obtain rfl := Except.error.inj h
    trivial
  · split at h
    · next hstrip =>
      obtain rfl := Except.error.inj h
      rcases Frame.stripChecksum_error hstrip with rfl | ⟨carried, computed, rfl⟩ <;> trivial
    · obtain rfl := Except.error.inj h
      trivial
    · rcases Response.ofPdu_error h with rfl | rfl
      · trivial
      · exact absurd rfl hcapacity

/-- **On an open connection the line is to blame** for every response that is not received. -/
theorem receiveResponse_isFromLine {session : Session σ} {framing : Framing}
    (hopen : session.master.connection = some framing) {timeoutMs : UInt32} {fault : Fault}
    (h : (session.receiveResponse timeoutMs).1 = .error fault) : fault.IsFromLine := by
  unfold Session.receiveResponse at h
  rw [hopen] at h
  dsimp only at h
  split at h
  · obtain rfl := Except.error.inj h
    trivial
  · next line hwait =>
    cases framing with
    | tcp =>
      obtain ⟨reads, -, -, hcause⟩ := receiveTcp_breakdown line
      dsimp only at h
      split at h
      · next fault' line' heq =>
        obtain rfl := Except.error.inj h
        rw [heq] at hcause
        exact hcause.1.isFromLine
      · split at h
        · cases h
        · obtain rfl := Except.error.inj h
          trivial
    | rtu =>
      dsimp only at h
      split at h
      · cases h
      · next fault' line' heq =>
        have hfault : fault' = fault := by
          split at h <;> exact Except.error.inj h
        rw [← hfault]
        exact receiveRtu_isFromLine (congrArg Prod.fst heq)

end Receiving

/-! ## §3. Calls. -/

/-- The operation is a call on the open connection. -/
def Operation.IsCall {σ : Type} : Operation σ → Prop
  | .buildRequest .. | .sendRequest _ | .receiveResponse _ | .read .. | .write ..
  | .writeCoils .. | .writeRegisters .. => True
  | _ => False

section Conducts

variable {σ : Type}

/-- What a call does to the open connection, which was used since `line`. -/
inductive Conduct {α : Type} (framing : Framing) (line : Line σ) :
    Except Fault α × Session σ → Prop where
  /-- There was no reason to give it up, so it is still open. -/
  | kept {result : Except Fault α} {after : Session σ} {used : List Event}
      (hlog : after.line.events = line.events ++ used) (hused : ∀ event ∈ used, event.IsUse)
      (hopen : after.master.connection = some framing)
      (hsound : ∀ fault, ¬ Breakdown framing used fault) : Conduct framing line (result, after)
  /-- There was one, which is reported, and nothing but the closing came after it. -/
  | lost {fault : Fault} {after : Session σ} {used : List Event} {worked : Bool}
      (hlog : after.line.events = line.events ++ (used ++ [.closed worked]))
      (hused : ∀ event ∈ used, event.IsUse) (hclosed : after.master.connection = none)
      (hbroken : Breakdown framing used fault) : Conduct framing line (.error fault, after)

namespace Conduct

variable {α β : Type} {framing : Framing} {line line' : Line σ}

/-- A fault is passed on as it is. -/
theorem error {fault : Fault} {after : Session σ}
    (h : Conduct framing line ((.error fault, after) : Except Fault α × Session σ)) :
    Conduct framing line ((.error fault, after) : Except Fault β × Session σ) := by
  cases h with
  | kept hlog hused hopen hsound => exact .kept hlog hused hopen hsound
  | lost hlog hused hclosed hbroken => exact .lost hlog hused hclosed hbroken

theorem replying {outcome : Except Fault α × Session σ} (reply : α → Reply)
    (h : Conduct framing line outcome) : Conduct framing line (Session.replying reply outcome) := by
  cases h with
  | kept hlog hused hopen hsound => exact .kept hlog hused hopen hsound
  | lost hlog hused hclosed hbroken => exact .lost hlog hused hclosed hbroken

/-- Nothing happened at all. -/
theorem unused {result : Except Fault α} {after : Session σ} (hline : after.line = line)
    (hopen : after.master.connection = some framing) : Conduct framing line (result, after) := by
  have hlog : after.line.events = line.events ++ [] := by rw [hline, List.append_nil]
  exact .kept hlog nofun hopen fun _ => Breakdown.not_nil

/-- A call may begin with what goes well. -/
theorem behind {outcome : Except Fault α × Session σ} {smooth : List Event}
    (hlog : line'.events = line.events ++ smooth) (hsmooth : ∀ event ∈ smooth, event.IsSmooth)
    (h : Conduct framing line' outcome) : Conduct framing line outcome := by
  have hsteady : ∀ event ∈ smooth, event.IsUse := fun event hevent => (hsmooth event hevent).isUse
  cases h with
  | @kept result after used hlog' hused hopen hsound =>
    rw [hlog, List.append_assoc] at hlog'
    refine .kept hlog' (List.forall_mem_append.mpr ⟨hsteady, hused⟩) hopen fun fault hbroken => ?_
    exact hsound fault ((Breakdown.behind hsmooth).mp hbroken)
  | @lost fault after used worked hlog' hused hclosed hbroken =>
    rw [hlog, List.append_assoc, ← List.append_assoc smooth] at hlog'
    exact .lost hlog' (List.forall_mem_append.mpr ⟨hsteady, hused⟩) hclosed
      ((Breakdown.behind hsmooth).mpr hbroken)

end Conduct

variable [OctetStream σ] {framing : Framing}

/-- An open connection is closed with one event. -/
theorem hangUp_events {session : Session σ} (hopen : session.master.connection = some framing) :
    ∃ worked, session.hangUp.line.events = session.line.events ++ [.closed worked] := by
  have hconnected : session.master.isConnected = true := by
    rw [Master.isConnected, hopen]
    rfl
  unfold Session.hangUp
  rw [if_pos hconnected]
  exact ⟨_, Line.events_close session.line⟩

/-- With a reason the connection is closed once, and the cause is reported. -/
theorem lose_conduct {α : Type} {session : Session σ} {line : Line σ} {used : List Event}
    {fault : Fault} (hopen : session.master.connection = some framing)
    (hlog : session.line.events = line.events ++ used) (hused : ∀ event ∈ used, event.IsUse)
    (hbroken : Breakdown framing used fault) :
    Conduct framing line (Session.lose fault session : Except Fault α × Session σ) := by
  obtain ⟨worked, hclosing⟩ := hangUp_events hopen
  rw [hlog, List.append_assoc] at hclosing
  exact .lost hclosing hused (hangUp_connection session) hbroken

/-- A frame that went out left no failure behind. -/
theorem sendRequest_ok_smooth {session after : Session σ} {frame : Octets}
    (h : session.sendRequest frame = (.ok (), after)) :
    after.master = session.master ∧ ∃ events, after.line.events = session.line.events ++ events
      ∧ ∀ event ∈ events, event.IsSmooth := by
  unfold Session.sendRequest at h
  split at h
  · split at h
    · next line hwrite =>
      obtain ⟨-, rfl⟩ := Prod.mk.inj h
      exact ⟨rfl, Line.writeAll_ok_smooth hwrite⟩
    · cases h
  · cases h

theorem sendRequest_conduct (session : Session σ) (hopen : session.master.connection = some framing)
    (frame : Octets) : Conduct framing session.line (session.sendRequest frame) := by
  have hconnected : session.master.isConnected = true := by
    rw [Master.isConnected, hopen]
    rfl
  unfold Session.sendRequest
  rw [if_pos hconnected]
  split
  · next line hwrite =>
    obtain ⟨events, hlog, hsmooth⟩ := Line.writeAll_ok_smooth hwrite
    exact .kept hlog (fun event hevent => (hsmooth event hevent).isUse) hopen
      fun _ => Breakdown.not_smooth hsmooth
  · next fault line hwrite =>
    obtain ⟨rfl, events, hlog, hused, event, hmem, hfailed⟩ := Line.writeAll_error_event hwrite
    exact lose_conduct hopen hlog hused (.write hmem hfailed)

/-- **A response that does not come costs the connection only if the stream is the reason.** -/
theorem receiveResponse_conduct {session : Session σ}
    (hopen : session.master.connection = some framing) (timeoutMs : UInt32) :
    Conduct framing session.line (session.receiveResponse timeoutMs) := by
  have hset := Line.events_setTimeout timeoutMs session.line
  unfold Session.receiveResponse
  rw [hopen]
  dsimp only
  split
  · next line hwait =>
    rw [hwait] at hset
    exact lose_conduct hopen hset
      (List.forall_mem_singleton.mpr trivial) (.wait (List.mem_singleton.mpr rfl))
  · next line hwait =>
    rw [hwait] at hset
    refine .behind hset (List.forall_mem_singleton.mpr rfl) ?_
    cases framing with
    | tcp =>
      obtain ⟨reads, hlog, hisRead, hcause⟩ := receiveTcp_breakdown line
      have hused : ∀ event ∈ reads, event.IsUse := fun event hevent => (hisRead event hevent).isUse
      dsimp only
      split
      · next fault line' heq =>
        rw [heq] at hlog hcause
        exact lose_conduct hopen hlog hused hcause.1
      · next transaction response line' heq =>
        rw [heq] at hlog hcause
        split
        · exact .kept hlog hused hopen hcause
        · exact .kept hlog hused hopen hcause
    | rtu =>
      obtain ⟨reads, hlog, hisRead, -, hcause⟩ := receiveRtu_breakdown line
      have hused : ∀ event ∈ reads, event.IsUse := fun event hevent => (hisRead event hevent).isUse
      dsimp only
      split
      · next response line' heq =>
        rw [heq] at hlog hcause
        rcases hcause with ⟨fault, hfault, -⟩ | ⟨-, hsound⟩
        · cases hfault
        · exact .kept hlog hused hopen hsound
      · next fault line' heq =>
        rw [heq] at hlog hcause
        rcases hcause with ⟨fault', hfault, hkind, hbroken⟩ | ⟨hkind, hsound⟩
        · obtain rfl := Except.error.inj hfault
          rw [if_pos hkind]
          exact lose_conduct hopen hlog hused hbroken
        · rw [if_neg (hkind fault rfl)]
          exact .kept hlog hused hopen hsound

/-- **No response is too long to be received**, on either transport. -/
theorem receiveResponse_ne_capacityExceeded (timeoutMs : UInt32) (session : Session σ) :
    (session.receiveResponse timeoutMs).1 ≠ .error .capacityExceeded := by
  cases hopen : session.master.connection with
  | none =>
    rw [Session.receiveResponse, hopen]
    exact nofun
  | some framing => exact fun h => receiveResponse_isFromLine hopen h

theorem exchange_conduct {session : Session σ} (hopen : session.master.connection = some framing)
    (function : UInt8) (data : Octets) :
    Conduct framing session.line (session.exchange function data) := by
  have hnumbered : (session.master.numbered framing).connection = some framing := by
    rw [Master.numbered_connection, hopen]
  rw [Session.exchange, buildRequest_some hopen]
  cases framing.frame (session.master.transaction + 1) session.master.unit function data with
  | error fault => exact .unused rfl hnumbered
  | ok frame =>
    have hsending := sendRequest_conduct ⟨session.master.numbered framing, session.line⟩ hnumbered
      frame
    dsimp only
    split
    · next fault after hsend =>
      rw [hsend] at hsending
      exact hsending.error
    · next sent hsend =>
      -- the frame went out, so the rest of the call decides
      obtain ⟨hmaster, events, hlog, hsmooth⟩ := sendRequest_ok_smooth hsend
      have hstill : sent.master.connection = some framing := by
        rw [hmaster]
        exact hnumbered
      refine .behind hlog hsmooth ?_
      have hreceiving := receiveResponse_conduct hstill defaultTimeoutMs
      split
      · next fault after hreceive =>
        rw [hreceive] at hreceiving
        exact hreceiving.error
      · next response after hreceive =>
        rw [hreceive] at hreceiving
        cases hreceiving with
        | kept hlog' hused hopen' hsound =>
          split
          · exact .kept hlog' hused hopen' hsound
          · split <;> exact .kept hlog' hused hopen' hsound

variable [Dialer σ] [SerialBus σ]

/-- **Every call on an open connection** keeps it, or gives it up for a reason. -/
theorem apply_conduct {session : Session σ} (hopen : session.master.connection = some framing)
    {operation : Operation σ} (hcall : operation.IsCall) :
    Conduct framing session.line (session.apply operation) := by
  by_cases hrequest : operation.IsRequest
  · cases apply_request session hrequest with
    | refused hfault hnone heq =>
      rw [heq]
      exact .unused rfl hopen
    | @made function data hasks hsome heq =>
      rw [heq]
      exact (exchange_conduct hopen function data).replying _
  · cases operation with
    | buildRequest function data =>
      rw [Session.apply, buildRequest_some hopen]
      refine .unused rfl ?_
      exact (Master.numbered_connection framing session.master).trans hopen
    | sendRequest frame => exact (sendRequest_conduct session hopen frame).replying _
    | receiveResponse timeoutMs => exact (receiveResponse_conduct hopen timeoutMs).replying _
    | read | write | writeCoils | writeRegisters => exact absurd trivial hrequest
    | _ => exact hcall.elim

end Conducts

/-! ## §4. Closing and its reasons. -/

section Closings

variable {σ : Type} [OctetStream σ] [Dialer σ] [SerialBus σ]

/-- **A call closes the connection exactly if the connection broke down.**  On an open connection
every call leaves events of its use behind, and after them either nothing, with the same connection
open, or one closing, with none open.  The closing is there if and only if those events show a
failed write or flush, a wait that could not be bounded, a frame over TCP that did not come whole, a
header over TCP that is none, or a read of a serial line that gave nothing; the call then reports
the cause that goes with it.  On any session a response is never refused for its size. -/
theorem closes_iff_breakdown (session : Session σ) :
    (∀ (framing : Framing) (operation : Operation σ),
      session.master.connection = some framing → operation.IsCall →
      let after := (session.apply operation).2
      ∃ used closing, after.line.events = session.line.events ++ (used ++ closing)
        ∧ (∀ event ∈ used, event.IsUse)
        ∧ (closing = [] ∧ after.master.connection = some framing
          ∨ (∃ worked, closing = [.closed worked]) ∧ after.master.connection = none)
        ∧ (closing ≠ [] ↔ ∃ fault, Breakdown framing used fault)
        ∧ (closing ≠ [] → ∃ fault, Breakdown framing used fault
          ∧ (session.apply operation).1 = .error fault))
      ∧ ∀ timeoutMs, (session.receiveResponse timeoutMs).1 ≠ .error .capacityExceeded := by
  refine ⟨?_, fun timeoutMs => receiveResponse_ne_capacityExceeded timeoutMs session⟩
  intro framing operation hopen hcall after
  have hconduct := apply_conduct hopen hcall
  rcases houtcome : session.apply operation with ⟨result, after'⟩
  rw [houtcome] at hconduct
  obtain rfl : after = after' := congrArg Prod.snd houtcome
  cases hconduct with
  | kept hlog hused hopen' hsound =>
    refine ⟨_, [], ?_, hused, .inl ⟨rfl, hopen'⟩, ?_, absurd rfl⟩
    · rw [List.append_nil]
      exact hlog
    · refine ⟨absurd rfl, ?_⟩
      rintro ⟨fault, hbroken⟩
      exact absurd hbroken (hsound fault)
  | lost hlog hused hclosed hbroken =>
    exact ⟨_, _, hlog, hused, .inr ⟨⟨_, rfl⟩, hclosed⟩,
      ⟨fun _ => ⟨_, hbroken⟩, fun _ => List.cons_ne_nil _ _⟩, fun _ => ⟨_, hbroken, rfl⟩⟩

end Closings

namespace Specimen

/-- A server whose answer breaks off within its header. -/
def brokenOff : Session Wire where
  master := { connection := some .tcp }
  line := { platform := { inbound := [.chunk [0, 1, 0], .failure] } }

end Specimen

/-- The request goes out, three octets come, and the connection is given up. -/
theorem closes_iff_breakdown_specimen :
    let operation : Operation Wire := .read .holdingRegisters 0 1
    let after := (Specimen.brokenOff.apply operation).2
    Specimen.brokenOff.master.connection = some .tcp ∧ operation.IsCall
      ∧ (Specimen.brokenOff.apply operation).1 = .error .readFailed
      ∧ after.master.connection = none
      ∧ ∃ used, Breakdown .tcp used .readFailed
        ∧ after.line.events = used ++ [.closed true] := by
  intro operation after
  have hreply : (Specimen.brokenOff.apply operation).1 = .error .readFailed := by decide +kernel
  have hgone : after.master.connection = none := by decide +kernel
  have hlast : after.line.events.getLast? = some (.closed true) := by decide +kernel
  obtain ⟨used, closing, hlog, -, hends, -, hcause⟩ :=
    (closes_iff_breakdown Specimen.brokenOff).1 .tcp operation rfl trivial
  rcases hends with ⟨-, hstill⟩ | ⟨⟨worked, rfl⟩, -⟩
  · cases hgone.symm.trans hstill
  · obtain ⟨fault, hbroken, hfault⟩ := hcause (List.cons_ne_nil _ _)
    obtain rfl := Except.error.inj (hreply.symm.trans hfault)
    refine ⟨rfl, trivial, hreply, hgone, used, hbroken, ?_⟩
    have hevents : after.line.events = used ++ [.closed worked] := hlog
    rw [hevents, List.getLast?_concat] at hlast
    rw [hevents, Option.some.inj hlast]

end FieldLink.Modbus
