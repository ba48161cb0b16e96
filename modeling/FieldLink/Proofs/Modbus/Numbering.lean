/-
  FieldLink.Proofs.Modbus.Numbering
  ────────────────────────────────
  **HOW REQUESTS OVER TCP ARE NUMBERED.**

  The number of the last request over TCP belongs to the master and not to
  its connection: it survives every closing and opening, and only the
  framing of a request over TCP takes the next one.  It takes it before it
  looks at the size, so an attempt that fails for its size uses a number up
  although no frame carries it.  What is counted is therefore the attempts:

      transaction_kept,
      transaction_taken   — one exchange takes the next number, or none
      requests_numbered   — the attempts of a run, its frames and answers
      oversized_takes_number — a number that no frame carries
-/
import FieldLink.Proofs.Modbus.Correlation
import FieldLink.Proofs.Modbus.Packing
import FieldLink.Proofs.Modbus.Recognition

namespace FieldLink.Modbus

/-! ## §1. Numbers in frames. -/

/-- The number that a frame over TCP carries in its first two octets. -/
def Frame.number : Octets → UInt16
  | high :: low :: _ => Octets.word high low
  | _ => 0

theorem Frame.number_tcp {transaction : UInt16} {unit function : UInt8} {data frame : Octets}
    (h : Frame.tcp transaction unit function data = .ok frame) :
    Frame.number frame = transaction := by
  obtain ⟨-, rfl⟩ := Frame.tcp_ok_iff.mp h
  exact Octets.word_big transaction

/-! ## §2. What keeps the number. -/

section Keeping

variable {σ : Type} [OctetStream σ]

theorem hangUp_transaction (session : Session σ) :
    session.hangUp.master.transaction = session.master.transaction := by
  unfold Session.hangUp
  split <;> rfl

theorem connectTcp_transaction [Dialer σ] (remote : Remote) (session : Session σ) :
    (session.connectTcp remote).2.master.transaction = session.master.transaction := by
  unfold Session.connectTcp
  split
  · rfl
  · dsimp only
    split <;> exact hangUp_transaction session

theorem connectRtu_transaction [SerialBus σ] (path : String) (config : Serial.Config)
    (session : Session σ) :
    (session.connectRtu path config).2.master.transaction = session.master.transaction := by
  unfold Session.connectRtu
  split
  · rfl
  · dsimp only
    split
    · exact hangUp_transaction session
    · split
      · exact hangUp_transaction session
      · split
        · exact hangUp_transaction session
        · split <;> exact hangUp_transaction session

theorem disconnect_transaction (session : Session σ) :
    session.disconnect.2.master.transaction = session.master.transaction := by
  unfold Session.disconnect
  split
  · exact hangUp_transaction session
  · rfl

theorem sendRequest_transaction (frame : Octets) (session : Session σ) :
    (session.sendRequest frame).2.master.transaction = session.master.transaction := by
  unfold Session.sendRequest
  split
  · split
    · rfl
    · exact hangUp_transaction _
  · rfl

theorem receiveResponse_transaction (timeoutMs : UInt32) (session : Session σ) :
    (session.receiveResponse timeoutMs).2.master.transaction = session.master.transaction := by
  unfold Session.receiveResponse
  split
  · rfl
  · split
    · exact hangUp_transaction _
    · split
      · split
        · exact hangUp_transaction _
        · split <;> rfl
      · split
        · rfl
        · split
          · exact hangUp_transaction _
          · rfl

/-- Behind the framing of a request nothing takes a number. -/
theorem exchange_transaction (function : UInt8) (data : Octets) (session : Session σ) :
    (session.exchange function data).2.master.transaction
      = (session.buildRequest function data).2.master.transaction := by
  unfold Session.exchange
  split
  · next fault built hbuild => rw [hbuild]
  · next frame built hbuild =>
    rw [hbuild]
    have hsent := sendRequest_transaction frame built
    split
    · next fault sent hsend =>
      rw [hsend] at hsent
      exact hsent
    · next sent hsend =>
      rw [hsend] at hsent
      have hreceived := receiveResponse_transaction defaultTimeoutMs sent
      split
      · next fault received hreceive =>
        rw [hreceive] at hreceived
        exact hreceived.trans hsent
      · next response received hreceive =>
        rw [hreceive] at hreceived
        split
        · exact hreceived.trans hsent
        · split <;> exact hreceived.trans hsent

end Keeping

/-! ## §3. Attempts. -/

/-- What an operation hands on to be framed: what it is given, or what a call on a table asks
for. -/
def Operation.handed? {σ : Type} : Operation σ → Option (UInt8 × Octets)
  | .buildRequest function data => some (function, data)
  | operation => operation.request?

namespace Operation

variable {σ : Type}

theorem handed?_request {operation : Operation σ} (h : operation.IsRequest) :
    operation.handed? = operation.request? := by
  cases operation with
  | read | write | writeCoils | writeRegisters => rfl
  | _ => exact h.elim

end Operation

/-- Registers that are accepted fit into a frame. -/
theorem Request.length_writeRegisters {address : UInt16} {octets data : Octets}
    (h : Request.writeRegisters address octets = .ok data) : data.length ≤ 252 := by
  unfold Request.writeRegisters at h
  split at h
  · cases h
  · next hrange =>
    rw [maxWriteRegisters] at hrange
    obtain rfl := Except.ok.inj h
    show octets.length + 5 ≤ 252
    omega

/-- What a call on a table asks for fits into a frame. -/
theorem Operation.Asks.length_le {σ : Type} {operation : Operation σ} {function : UInt8}
    {data : Octets} (h : operation.Asks function data) : data.length ≤ 252 := by
  cases h with
  | read => exact Nat.le_of_ble_eq_true rfl
  | writeCoils hdata | writeSwitches hdata =>
    exact Nat.le_succ_of_le (Request.length_writeCoils hdata)
  | writeRegisters hdata | writeOctets hdata => exact Request.length_writeRegisters hdata

section Framed

variable {σ : Type}

theorem buildRequest_transaction (function : UInt8) (data : Octets) (session : Session σ) :
    (session.buildRequest function data).2.master.transaction
      = if session.master.connection = some .tcp then session.master.transaction + 1
        else session.master.transaction := by
  unfold Session.buildRequest
  split
  · next hclosed => rw [hclosed, if_neg nofun]
  · next hopen => rw [hopen, if_pos rfl]
  · next hopen => rw [hopen, if_neg (by decide)]

/-- What the framing of a request over TCP gave, if the exchange came to it. -/
def Exchange.attempt? (exchange : Exchange σ) : Option (Except Fault Octets) :=
  if exchange.before.master.connection = some .tcp then
    exchange.operation.handed?.map fun request =>
      (exchange.before.buildRequest request.1 request.2).1
  else none

/-- The frame over TCP that was built in the exchange. -/
def Exchange.frame? (exchange : Exchange σ) : Option Octets :=
  exchange.attempt?.bind Except.toOption

/-- The attempts at a frame over TCP in a history. -/
def attempts (history : List (Exchange σ)) : List (Except Fault Octets) :=
  history.filterMap Exchange.attempt?

/-- The frames over TCP that were built in a history. -/
def frames (history : List (Exchange σ)) : List Octets := history.filterMap Exchange.frame?

theorem attempts_concat (history : List (Exchange σ)) (last : Exchange σ) :
    attempts (history ++ [last]) = attempts history ++ last.attempt?.toList := by
  rw [attempts, List.filterMap_append]
  cases h : last.attempt? <;> simp [attempts, h]

/-- Where no attempt was too long, every attempt gave a frame. -/
theorem attempts_eq_frames {history : List (Exchange σ)}
    (h : ∀ exchange ∈ history, ∀ fault, exchange.attempt? ≠ some (.error fault)) :
    attempts history = (frames history).map .ok := by
  induction history with
  | nil => rfl
  | cons first history ih =>
    obtain ⟨hfirst, hrest⟩ := List.forall_mem_cons.mp h
    have hlater : history.filterMap Exchange.attempt?
        = (history.filterMap Exchange.frame?).map .ok := ih hrest
    rw [attempts, frames]
    cases hattempt : first.attempt? with
    | none =>
      have hnone : first.frame? = none := by rw [Exchange.frame?, hattempt, Option.bind_none]
      rw [List.filterMap_cons_none hattempt, List.filterMap_cons_none hnone, hlater]
    | some result =>
      cases result with
      | error fault => exact absurd hattempt (hfirst fault)
      | ok frame =>
        have hsome : first.frame? = some frame := by rw [Exchange.frame?, hattempt]; rfl
        rw [List.filterMap_cons_some hattempt, List.filterMap_cons_some hsome, hlater,
          List.map_cons]

/-- The master has counted the attempts, and each frame carries the place of its own. -/
structure Numbered (master : Master) (history : List (Exchange σ)) : Prop where
  /-- The number of the last attempt. -/
  transaction_eq : master.transaction = UInt16.ofNat (attempts history).length
  /-- The number of each frame. -/
  number_eq : ∀ {n frame}, (attempts history)[n]? = some (.ok frame) →
    Frame.number frame = UInt16.ofNat (n + 1)

/-- The frames carry their own places, and the master has the number of the last one. -/
theorem Numbered.frames {master : Master} {history : List (Exchange σ)}
    (h : Numbered master history)
    (hwhole : ∀ exchange ∈ history, ∀ fault, exchange.attempt? ≠ some (.error fault)) :
    (∀ n frame, (Modbus.frames history)[n]? = some frame →
        Frame.number frame = UInt16.ofNat (n + 1))
      ∧ master.transaction = ((Modbus.frames history).getLast?.map Frame.number).getD 0 := by
  have hattempts := attempts_eq_frames hwhole
  have hnumber : ∀ n frame, (Modbus.frames history)[n]? = some frame →
      Frame.number frame = UInt16.ofNat (n + 1) := by
    intro n frame hframe
    refine h.number_eq ?_
    rw [hattempts, List.getElem?_map, hframe]
    rfl
  refine ⟨hnumber, ?_⟩
  rw [h.transaction_eq, hattempts, List.length_map]
  cases hlast : (Modbus.frames history).getLast? with
  | none =>
    rw [List.getLast?_eq_none_iff.mp hlast]
    rfl
  | some frame =>
    have hplace := hlast
    rw [List.getLast?_eq_getElem?] at hplace
    obtain ⟨hn, -⟩ := List.getElem?_eq_some_iff.mp hplace
    rw [Option.map_some, Option.getD_some, hnumber _ frame hplace,
      show (Modbus.frames history).length - 1 + 1 = (Modbus.frames history).length by omega]

end Framed

section Attempts

variable {σ : Type} [OctetStream σ] [Dialer σ] [SerialBus σ]

/-- Nothing but an attempt takes a number. -/
theorem apply_transaction (session : Session σ) (operation : Operation σ) :
    (session.apply operation).2.master.transaction
      = match operation.handed? with
        | some request => (session.buildRequest request.1 request.2).2.master.transaction
        | none => session.master.transaction := by
  by_cases hrequest : operation.IsRequest
  · rw [Operation.handed?_request hrequest]
    cases apply_request session hrequest with
    | refused hfault hnone heq => rw [hnone, heq]
    | made hasks hsome heq =>
      rw [hsome, heq]
      exact exchange_transaction _ _ session
  · cases operation with
    | connectTcp remote => exact connectTcp_transaction remote session
    | connectRtu path config => exact connectRtu_transaction path config session
    | disconnect => exact disconnect_transaction session
    | sendRequest frame => exact sendRequest_transaction frame session
    | receiveResponse timeoutMs => exact receiveResponse_transaction timeoutMs session
    | setUnit | outside | buildRequest => rfl
    | _ => exact absurd trivial hrequest

namespace Exchange

/-- **Without an attempt the number stays.** -/
theorem transaction_kept {exchange : Exchange σ} (h : exchange.attempt? = none) :
    exchange.after.master.transaction = exchange.before.master.transaction := by
  show (exchange.before.apply exchange.operation).2.master.transaction = _
  rw [apply_transaction]
  unfold attempt? at h
  cases hhanded : exchange.operation.handed? with
  | none => rfl
  | some request =>
    dsimp only
    rw [buildRequest_transaction, if_neg]
    intro hopen
    rw [if_pos hopen, hhanded] at h
    cases h

/-- **An attempt takes the next number**, whether its frame is built or not. -/
theorem transaction_taken {exchange : Exchange σ} {result : Except Fault Octets}
    (h : exchange.attempt? = some result) :
    exchange.after.master.transaction = exchange.before.master.transaction + 1
      ∧ exchange.before.master.connection = some .tcp
      ∧ ∃ function data, exchange.operation.handed? = some (function, data)
        ∧ result = Frame.tcp (exchange.before.master.transaction + 1) exchange.before.master.unit
          function data := by
  unfold attempt? at h
  split at h
  · next hopen =>
    obtain ⟨⟨function, data⟩, hhanded, hresult⟩ := Option.map_eq_some_iff.mp h
    refine ⟨?_, hopen, function, data, hhanded, ?_⟩
    · show (exchange.before.apply exchange.operation).2.master.transaction = _
      rw [apply_transaction, hhanded]
      dsimp only
      rw [buildRequest_transaction, if_pos hopen]
    · rw [← hresult, buildRequest_some hopen]
      rfl
  · cases h

/-- **Only what is given to be framed can be too long for a frame.** -/
theorem attempt_error {exchange : Exchange σ} {fault : Fault}
    (h : exchange.attempt? = some (.error fault)) :
    fault = .capacityExceeded ∧ exchange.before.master.connection = some .tcp
      ∧ ∃ function data, exchange.operation = .buildRequest function data ∧ 252 < data.length := by
  obtain ⟨-, hopen, function, data, hhanded, hresult⟩ := transaction_taken h
  have hframing : Framing.frame .tcp (exchange.before.master.transaction + 1)
      exchange.before.master.unit function data = .error fault := hresult.symm
  obtain ⟨rfl, hlong⟩ := Framing.frame_error hframing
  refine ⟨rfl, hopen, function, data, ?_, hlong⟩
  by_cases hrequest : exchange.operation.IsRequest
  · rw [Operation.handed?_request hrequest] at hhanded
    cases apply_request exchange.before hrequest with
    | refused hfault hnone heq => cases hnone.symm.trans hhanded
    | made hasks hsome heq =>
      obtain ⟨rfl, rfl⟩ := Prod.mk.inj (Option.some.inj (hsome.symm.trans hhanded))
      exact absurd hlong (Nat.not_lt.mpr hasks.length_le)
  · cases hoperation : exchange.operation with
    | buildRequest =>
      rw [hoperation] at hhanded
      obtain ⟨rfl, rfl⟩ := Prod.mk.inj (Option.some.inj hhanded)
      rfl
    | read | write | writeCoils | writeRegisters =>
      rw [hoperation] at hrequest
      exact absurd trivial hrequest
    | _ =>
      rw [hoperation] at hhanded
      cases hhanded

end Exchange

/-! ## §4. Runs. -/

/-- **One more exchange keeps the count.** -/
theorem Numbered.concat {history : List (Exchange σ)} (last : Exchange σ)
    (h : Numbered last.before.master history) :
    Numbered last.after.master (history ++ [last]) := by
  obtain ⟨hcount, hnumber⟩ := h
  cases hattempt : last.attempt? with
  | none =>
    have hsame : attempts (history ++ [last]) = attempts history := by
      rw [attempts_concat, hattempt, Option.toList_none, List.append_nil]
    refine ⟨?_, fun hframe => hnumber (hsame ▸ hframe)⟩
    rw [hsame, Exchange.transaction_kept hattempt, hcount]
  | some result =>
    obtain ⟨hnext, -, function, data, -, hresult⟩ := Exchange.transaction_taken hattempt
    have hplace : last.before.master.transaction + 1
        = UInt16.ofNat ((attempts history).length + 1) := by
      rw [hcount]
      exact (UInt16.ofNat_add _ _).symm
    have hmore : attempts (history ++ [last]) = attempts history ++ [result] := by
      rw [attempts_concat, hattempt, Option.toList_some]
    rw [hplace] at hnext hresult
    constructor
    · rw [hmore, List.length_append, hnext]
      rfl
    · intro n frame hframe
      rw [hmore, List.getElem?_append] at hframe
      split at hframe
      · exact hnumber hframe
      · next hlater =>
        -- it is the last one
        obtain ⟨hn, hlast⟩ := List.getElem?_eq_some_iff.mp hframe
        rw [List.getElem_singleton, hresult] at hlast
        rw [List.length_singleton] at hn
        rw [Frame.number_tcp hlast, show n = (attempts history).length by omega]

theorem run_numbered (line : Line σ) (operations : List (Operation σ)) :
    Numbered ((⟨{}, line⟩ : Session σ).run operations).master
      ((⟨{}, line⟩ : Session σ).history operations) :=
  Endpoint.history_induction (motive := fun history session => Numbered session.master history)
    ⟨rfl, nofun⟩ Numbered.concat operations

/-- Numbers come back only after all the others. -/
theorem ofNat_ne_ofNat {i j : Nat} (h : i < j) (hnear : j < i + 65536) :
    UInt16.ofNat (i + 1) ≠ UInt16.ofNat (j + 1) := by
  intro hsame
  have hvalue := congrArg UInt16.toNat hsame
  rw [UInt16.toNat_ofNat', UInt16.toNat_ofNat'] at hvalue
  omega

/-- **The number of a request over TCP is the number of attempts**, in every run of a master, over
any connections and whatever the platform does.  The master has the number of attempts so far, and
the frame of an attempt carries its own place; both are counted with sixteen bits.  Only an attempt
takes a number, and one fails only for data that are given to be framed and are too long.  As long
as none has failed, the frames are numbered without a gap, two of them carry different numbers
unless 65536 or more lie between them, and the master has the number of the last one, or 0.  A
response over TCP is accepted if and only if the reads of the call are its frame with the number of
the master; a frame with another number breaks the protocol. -/
theorem requests_numbered (line : Line σ) (operations : List (Operation σ)) :
    let start : Session σ := ⟨{}, line⟩
    let session := start.run operations
    let history := start.history operations
    session.master.transaction = UInt16.ofNat (attempts history).length
      ∧ (∀ n frame, (attempts history)[n]? = some (.ok frame) →
        Frame.number frame = UInt16.ofNat (n + 1))
      ∧ (∀ exchange ∈ history, exchange.attempt? = none →
        exchange.after.master.transaction = exchange.before.master.transaction)
      ∧ (∀ exchange ∈ history, ∀ fault, exchange.attempt? = some (.error fault) →
        fault = .capacityExceeded ∧ exchange.before.master.connection = some .tcp
          ∧ ∃ function data, exchange.operation = .buildRequest function data
            ∧ 252 < data.length)
      ∧ ((∀ exchange ∈ history, ∀ fault, exchange.attempt? ≠ some (.error fault)) →
        (∀ n frame, (frames history)[n]? = some frame →
            Frame.number frame = UInt16.ofNat (n + 1))
          ∧ session.master.transaction = ((frames history).getLast?.map Frame.number).getD 0
          ∧ ∀ i j frame frame', i < j → j < i + 65536 → (frames history)[i]? = some frame →
            (frames history)[j]? = some frame' → Frame.number frame ≠ Frame.number frame')
      ∧ (session.master.connection = some .tcp → ∀ timeoutMs,
        (∀ response, (session.receiveResponse timeoutMs).1 = .ok response →
          ∃ reads, (session.receiveResponse timeoutMs).2.line.events
              = session.line.events ++ (.timeoutSet timeoutMs true :: reads)
            ∧ Accepted .tcp session.master.transaction response reads)
        ∧ ∀ number response reads, (session.receiveResponse timeoutMs).2.line.events
            = session.line.events ++ (.timeoutSet timeoutMs true :: reads) →
          Accepted .tcp number response reads →
          (session.receiveResponse timeoutMs).1
            = if number = session.master.transaction then .ok response
              else .error .protocolViolation) := by
  intro start session history
  have hnumbered : Numbered session.master history := run_numbered line operations
  refine ⟨hnumbered.transaction_eq, fun n frame => hnumbered.number_eq,
    fun exchange _ => Exchange.transaction_kept, fun exchange _ fault => Exchange.attempt_error,
    fun hwhole => ?_, fun hopen timeoutMs => ⟨?_, ?_⟩⟩
  · obtain ⟨hplaces, hlast⟩ := hnumbered.frames hwhole
    refine ⟨hplaces, hlast, fun i j frame frame' hij hnear hi hj => ?_⟩
    rw [hplaces i frame hi, hplaces j frame' hj]
    exact ofNat_ne_ofNat hij hnear
  · intro response hresponse
    have hreceiving := receiveResponse_receiving timeoutMs session
    generalize session.receiveResponse timeoutMs = outcome at hreceiving hresponse ⊢
    cases hreceiving with
    | refused => cases hresponse
    | accepted hconnection hlog haccepted =>
      obtain rfl := Option.some.inj (hopen.symm.trans hconnection)
      obtain rfl := Except.ok.inj hresponse
      exact ⟨_, hlog, haccepted⟩
  · intro number response reads hlog haccepted
    rw [receiveResponse_told hopen hlog haccepted nofun]
    simp

end Attempts

namespace Specimen

/-- A server that takes what is sent and says nothing. -/
def silent : Session Wire where
  line := { platform := {} }

/-- A connection is opened, and a unit that is too long is given to be framed. -/
def oversized : List (Operation Wire) :=
  [.connectTcp server, .buildRequest 3 (List.replicate 253 0)]

end Specimen

/-- Two requests over two connections are the first and the second one. -/
theorem requests_numbered_specimen :
    let operations : List (Operation Wire) := [.connectTcp Specimen.server,
      .buildRequest 3 [0, 0, 0, 1], .disconnect, .connectTcp Specimen.server,
      .read .coils 0 1]
    attempts (Specimen.silent.history operations)
        = [.ok [0, 1, 0, 0, 0, 5, 1, 3, 0, 0, 0, 1], .ok [0, 2, 0, 0, 0, 5, 1, 1, 0, 0, 0, 1]]
      ∧ (Specimen.silent.run operations).master.transaction = 2 := by
  intro operations
  have hattempts : attempts (Specimen.silent.history operations)
      = [.ok [0, 1, 0, 0, 0, 5, 1, 3, 0, 0, 0, 1], .ok [0, 2, 0, 0, 0, 5, 1, 1, 0, 0, 0, 1]] := by
    decide +kernel
  obtain ⟨hcount, -⟩ := requests_numbered Specimen.silent.line operations
  rw [show attempts (Session.history ⟨{}, Specimen.silent.line⟩ operations) = _ from hattempts]
    at hcount
  exact ⟨hattempts, hcount⟩

/-- **A request that is refused for its size takes a number**: no frame has been built, and the
master is at number 1; the first frame that is built then carries number 2. -/
theorem oversized_takes_number :
    let session := Specimen.silent.run Specimen.oversized
    let next : Operation Wire := .buildRequest 3 [0, 0, 0, 1]
    frames (Specimen.silent.history Specimen.oversized) = []
      ∧ session.master.transaction = 1
      ∧ frames (Specimen.silent.history (Specimen.oversized ++ [next]))
        = [[0, 2, 0, 0, 0, 5, 1, 3, 0, 0, 0, 1]] := by
  decide +kernel

end FieldLink.Modbus
