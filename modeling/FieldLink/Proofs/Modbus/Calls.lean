/-
  FieldLink.Proofs.Modbus.Calls
  ────────────────────────────────
  **WHAT THE CALLS OF A MASTER CAN COME TO.**

  Each call ends in one of a few ways, and each way is a constructor here:
  with the result, what became of the connection, and what was written.
  Whoever wants to know what a call keeps looks at these ways and never at
  the call:

      connectTcp_attempting,
      connectRtu_attempting — a new connection, or a fault
      sendRequest_sending   — a frame written once, or not at all
      exchange_exchanging   — every way in which a request can end
      apply_request         — the calls on a table are such requests
      apply_applying        — every way in which an operation can end
-/
import FieldLink.Proofs.Modbus.Reception
import FieldLink.Modbus.Operation

namespace FieldLink.Modbus

/-! ## §1. Opening a connection. -/

/-- The framing of the connection that an operation is to open. -/
def Operation.opens? {σ : Type} : Operation σ → Option Framing
  | .connectTcp _ => some .tcp
  | .connectRtu .. => some .rtu
  | _ => none

section Attempts

variable {σ : Type}

/-- What an attempt to connect comes to. -/
inductive Attempting (framing : Framing) (session : Session σ) :
    Except Fault Unit × Session σ → Prop where
  /-- A new connection is open. -/
  | connected {after : Session σ} (hsilent : Silent session.line after.line)
      (hopen : after.master.connection = some framing) :
      Attempting framing session (.ok (), after)
  /-- None is, but perhaps the old one. -/
  | failed {fault : Fault} {after : Session σ} (hpassive : Passive session after) :
      Attempting framing session (.error fault, after)

/-- An attempt writes nothing. -/
theorem Attempting.silent {framing : Framing} {session : Session σ}
    {outcome : Except Fault Unit × Session σ} (h : Attempting framing session outcome) :
    Silent session.line outcome.2.line := by
  cases h with
  | connected hsilent hopen => exact hsilent
  | failed hpassive => exact hpassive.silent

variable [OctetStream σ]

/-- Without the old connection there is none, whatever happens on the line. -/
theorem hungUp_passive (session : Session σ) {line : Line σ}
    (h : Silent session.hangUp.line line) : Passive session { session.hangUp with line := line } :=
  (hangUp_passive session).trans (.of_silent h)

theorem connectTcp_attempting [Dialer σ] (remote : Remote) (session : Session σ) :
    Attempting .tcp session (session.connectTcp remote) := by
  unfold Session.connectTcp
  split
  · exact .failed (.refl session)
  · next address haddress =>
    have hdial : Silent session.hangUp.line (session.hangUp.line.dial address).2 :=
      .of_event (Line.events_dial address session.hangUp.line) id
    dsimp only
    split
    · next line heq =>
      rw [heq] at hdial
      exact .failed (hungUp_passive session hdial)
    · next line heq =>
      rw [heq] at hdial
      exact .connected ((hangUp_passive session).silent.trans hdial) rfl

theorem connectRtu_attempting [SerialBus σ] (path : String) (config : Serial.Config)
    (session : Session σ) : Attempting .rtu session (session.connectRtu path config) := by
  unfold Session.connectRtu
  split
  · exact .failed (.refl session)
  · have hlist : Silent session.hangUp.line session.hangUp.line.enumerate.2 :=
      .of_event (Line.events_enumerate session.hangUp.line) id
    dsimp only
    split
    · next line heq =>
      rw [heq] at hlist
      exact .failed (hungUp_passive session hlist)
    · next devices line heq =>
      rw [heq] at hlist
      split
      · exact .failed (hungUp_passive session hlist)
      · next device hfound =>
        have hdevice := hlist.trans (.of_event (Line.events_openDevice device line) id)
        split
        · next line' heq' =>
          rw [heq'] at hdevice
          exact .failed (hungUp_passive session hdevice)
        · next line' heq' =>
          rw [heq'] at hdevice
          have hconfigure := hdevice.trans (.of_event (Line.events_configure config line') id)
          split
          · next fault line'' heq'' =>
            rw [heq''] at hconfigure
            exact .failed (hungUp_passive session
              (hconfigure.trans (.of_event (Line.events_close line'') id)))
          · next line'' heq'' =>
            rw [heq''] at hconfigure
            exact .connected ((hangUp_passive session).silent.trans hconfigure) rfl

end Attempts

/-! ## §2. Sending a frame. -/

section Frames

variable {σ : Type}

/-- One attempt was made at this frame, and nothing was written after it. -/
def WrittenOnce (frame : Octets) (events : List Event) : Prop :=
  ∃ attempt rest, events = attempt ++ rest ∧ (Delivered frame attempt ∨ Interrupted frame attempt)
    ∧ ∀ event ∈ rest, ¬ event.IsWrite

/-- An attempt stays the only one while nothing is written. -/
theorem WrittenOnce.of_silent {frame : Octets} {first second third : Line σ}
    {attempt : List Event} (hlog : second.events = first.events ++ attempt)
    (hattempt : Delivered frame attempt ∨ Interrupted frame attempt) (h : Silent second third) :
    ∃ events, third.events = first.events ++ events ∧ WrittenOnce frame events := by
  obtain ⟨rest, hrest, hunwritten⟩ := h
  rw [hlog, List.append_assoc] at hrest
  exact ⟨_, hrest, attempt, rest, rfl, hattempt, hunwritten⟩

/-- What sending a frame comes to. -/
inductive Sending (frame : Octets) (session : Session σ) :
    Except Fault Unit × Session σ → Prop where
  /-- There was no connection. -/
  | refused (hclosed : session.master.connection = none) :
      Sending frame session (.error .notOpen, session)
  /-- All of it went out. -/
  | delivered {line : Line σ} {events : List Event}
      (hlog : line.events = session.line.events ++ events) (hsent : Delivered frame events) :
      Sending frame session (.ok (), { session with line := line })
  /-- It did not, and the connection was closed. -/
  | lost {fault : Fault} {after : Session σ} {events : List Event}
      (hlog : after.line.events = session.line.events ++ events)
      (honce : WrittenOnce frame events) (hinherits : session.Inherits after) :
      Sending frame session (.error fault, after)

theorem Sending.inherits {frame : Octets} {session : Session σ}
    {outcome : Except Fault Unit × Session σ} (h : Sending frame session outcome) :
    session.Inherits outcome.2 := by
  cases h with
  | refused hclosed => exact .of_eq rfl
  | delivered hlog hsent => exact .of_eq rfl
  | lost hlog honce hinherits => exact hinherits

/-- **A frame is written once at most**, whatever comes of it. -/
theorem Sending.once {frame : Octets} {session : Session σ}
    {outcome : Except Fault Unit × Session σ} (h : Sending frame session outcome) :
    Silent session.line outcome.2.line
      ∨ ∃ events, outcome.2.line.events = session.line.events ++ events
        ∧ WrittenOnce frame events := by
  cases h with
  | refused hclosed => exact .inl (.refl _)
  | delivered hlog hsent =>
    exact .inr ⟨_, hlog, _, [], (List.append_nil _).symm, .inl hsent, nofun⟩
  | lost hlog honce hinherits => exact .inr ⟨_, hlog, honce⟩

variable [OctetStream σ]

theorem sendRequest_sending (frame : Octets) (session : Session σ) :
    Sending frame session (session.sendRequest frame) := by
  unfold Session.sendRequest
  split
  · split
    · next line hwrite =>
      obtain ⟨events, hlog, hsent⟩ := Line.writeAll_ok hwrite
      exact .delivered hlog hsent
    · next fault line hwrite =>
      obtain ⟨-, attempt, hlog, hsent⟩ := Line.writeAll_error hwrite
      have hgone := hangUp_passive { session with line := line }
      obtain ⟨events, hevents, honce⟩ := WrittenOnce.of_silent hlog (.inr hsent) hgone.silent
      exact .lost hevents honce hgone.inherits
  · next hclosed =>
    rw [Master.isConnected, Option.not_isSome_iff_eq_none] at hclosed
    exact .refused hclosed

end Frames

/-! ## §3. A request and its response. -/

/-- The frame of a request: over TCP with its number, over a serial line without one. -/
def Framing.frame (framing : Framing) (transaction : UInt16) (unit function : UInt8)
    (data : Octets) : Except Fault Octets :=
  match framing with
  | .tcp => Frame.tcp transaction unit function data
  | .rtu => Frame.rtu unit function data

/-- The master once it has framed a request. -/
def Master.numbered (framing : Framing) (master : Master) : Master :=
  match framing with
  | .tcp => { master with transaction := master.transaction + 1 }
  | .rtu => master

@[simp] theorem Master.numbered_connection (framing : Framing) (master : Master) :
    (master.numbered framing).connection = master.connection := by
  cases framing <;> rfl

@[simp] theorem Master.numbered_unit (framing : Framing) (master : Master) :
    (master.numbered framing).unit = master.unit := by
  cases framing <;> rfl

/-- Only over TCP the number of a request matters. -/
theorem Accepted.numbered {framing : Framing} {master : Master} {response : Response}
    {reads : List Event}
    (h : Accepted framing (master.numbered framing).transaction response reads) :
    Accepted framing (master.transaction + 1) response reads := by
  cases framing with
  | tcp => exact h
  | rtu => exact ⟨h.isRead, nofun, h.over_rtu⟩

/-- Without an exception the highest bit of the function code is clear. -/
theorem Response.isException_of_exception? {response : Response}
    (h : response.exception? = none) : response.isException = false := by
  unfold Response.exception? at h
  split at h
  · cases h
  · next hregular => exact eq_false_of_ne_true hregular

section Exchanges

variable {σ : Type}

theorem buildRequest_none {session : Session σ} (h : session.master.connection = none)
    (function : UInt8) (data : Octets) :
    session.buildRequest function data = (.error .notOpen, session) := by
  unfold Session.buildRequest
  rw [h]

theorem buildRequest_some {session : Session σ} {framing : Framing}
    (h : session.master.connection = some framing) (function : UInt8) (data : Octets) :
    session.buildRequest function data
      = (framing.frame (session.master.transaction + 1) session.master.unit function data,
        { session with master := session.master.numbered framing }) := by
  unfold Session.buildRequest
  rw [h]
  cases framing <;> rfl

/-- A master that has framed a request has its connection open as before, on any line. -/
theorem numbered_open {session : Session σ} {framing : Framing}
    (hopen : session.master.connection = some framing) (line : Line σ) :
    (⟨session.master.numbered framing, line⟩ : Session σ).master.connection = some framing :=
  (Master.numbered_connection framing session.master).trans hopen

theorem buildRequest_passive (function : UInt8) (data : Octets) (session : Session σ) :
    Passive session (session.buildRequest function data).2 := by
  cases hconnection : session.master.connection with
  | none =>
    rw [buildRequest_none hconnection]
    exact .refl session
  | some framing =>
    rw [buildRequest_some hconnection]
    exact ⟨.refl _, .of_eq (Master.numbered_connection framing session.master)⟩

/-- What a request comes to. -/
inductive Exchanging (function : UInt8) (data : Octets) (session : Session σ) :
    Except Fault Response × Session σ → Prop where
  /-- Nothing was written. -/
  | unwritten {fault : Fault} {after : Session σ} (hpassive : Passive session after) :
      Exchanging function data session (.error fault, after)
  /-- Its frame was written, all of it or a part, and no response was accepted. -/
  | unanswered {fault : Fault} {after : Session σ} {framing : Framing} {frame : Octets}
      {events : List Event} (hconnection : session.master.connection = some framing)
      (hframe : framing.frame (session.master.transaction + 1) session.master.unit function data
        = .ok frame)
      (hlog : after.line.events = session.line.events ++ events)
      (honce : WrittenOnce frame events) (hinherits : session.Inherits after) :
      Exchanging function data session (.error fault, after)
  /-- Its frame was written, and a response was accepted. -/
  | answered {response : Response} {after : Session σ} {framing : Framing} {frame : Octets}
      {written reads : List Event} (hconnection : session.master.connection = some framing)
      (hframe : framing.frame (session.master.transaction + 1) session.master.unit function data
        = .ok frame)
      (hmaster : after.master = session.master.numbered framing)
      (hlog : after.line.events
        = session.line.events ++ (written ++ .timeoutSet defaultTimeoutMs true :: reads))
      (hwritten : Delivered frame written) (hunit : response.unit = session.master.unit)
      (hfunction : response.function = function) (hregular : response.isException = false)
      (haccepted : Accepted framing (session.master.transaction + 1) response reads) :
      Exchanging function data session (.ok response, after)

theorem Exchanging.inherits {function : UInt8} {data : Octets} {session : Session σ}
    {outcome : Except Fault Response × Session σ} (h : Exchanging function data session outcome) :
    session.Inherits outcome.2 := by
  cases h with
  | unwritten hpassive => exact hpassive.inherits
  | unanswered hconnection hframe hlog honce hinherits => exact hinherits
  | answered hconnection hframe hmaster =>
    refine .of_eq ?_
    rw [hmaster, Master.numbered_connection]

/-- **The frame of a request is written once at most**, whatever comes of it. -/
theorem Exchanging.once {function : UInt8} {data : Octets} {session : Session σ}
    {outcome : Except Fault Response × Session σ} (h : Exchanging function data session outcome) :
    Silent session.line outcome.2.line
      ∨ ∃ framing frame events, session.master.connection = some framing
        ∧ framing.frame (session.master.transaction + 1) session.master.unit function data
          = .ok frame
        ∧ outcome.2.line.events = session.line.events ++ events ∧ WrittenOnce frame events := by
  cases h with
  | unwritten hpassive => exact .inl hpassive.silent
  | unanswered hconnection hframe hlog honce =>
    exact .inr ⟨_, _, _, hconnection, hframe, hlog, honce⟩
  | answered hconnection hframe hmaster hlog hwritten hunit hfunction hregular haccepted =>
    refine .inr ⟨_, _, _, hconnection, hframe, hlog, _, _, rfl, .inl hwritten, ?_⟩
    exact List.forall_mem_cons.mpr
      ⟨id, fun event hevent => (haccepted.isRead event hevent).isAside.not_isWrite⟩

variable [OctetStream σ]

/-- **Every way in which a request can end.** -/
theorem exchange_exchanging (function : UInt8) (data : Octets) (session : Session σ) :
    Exchanging function data session (session.exchange function data) := by
  cases hconnection : session.master.connection with
  | none =>
    rw [Session.exchange, buildRequest_none hconnection]
    exact .unwritten (.refl session)
  | some framing =>
    have hbuilt := buildRequest_passive function data session
    rw [buildRequest_some hconnection] at hbuilt
    rw [Session.exchange, buildRequest_some hconnection]
    cases hframe : framing.frame (session.master.transaction + 1) session.master.unit function
      data with
    | error fault => exact .unwritten hbuilt
    | ok frame =>
      -- ===== the frame is written =====
      have hsending := sendRequest_sending frame ⟨session.master.numbered framing, session.line⟩
      dsimp only
      split
      · next fault after hsend =>
        rw [hsend] at hsending
        cases hsending with
        | refused => exact .unwritten hbuilt
        | lost hlog honce hinherits =>
          exact .unanswered hconnection hframe hlog honce (hbuilt.inherits.trans hinherits)
      · next sent hsend =>
        rw [hsend] at hsending
        cases hsending with
        | @delivered line written hlog hwritten =>
          -- ===== a response is awaited =====
          have hreceiving := receiveResponse_receiving defaultTimeoutMs
            ⟨session.master.numbered framing, line⟩
          have hnumbered : session.Inherits ⟨session.master.numbered framing, line⟩ :=
            .of_eq (Master.numbered_connection framing session.master)
          have hinherits := hnumbered.trans hreceiving.passive.inherits
          -- whatever comes of it, the frame stays the only one that was written
          obtain ⟨events, hevents, honce⟩ :=
            WrittenOnce.of_silent hlog (.inl hwritten) hreceiving.passive.silent
          split
          · next fault after hreceive =>
            rw [hreceive] at hevents hinherits
            exact .unanswered hconnection hframe hevents honce hinherits
          · next response after hreceive =>
            rw [hreceive] at hreceiving hevents hinherits
            split
            · exact .unanswered hconnection hframe hevents honce hinherits
            · next hregular =>
              split
              · next hown =>
                -- ===== it is the one that was asked for =====
                cases hreceiving with
                | accepted hopen hreads haccepted =>
                  rw [Master.numbered_connection, hconnection] at hopen
                  obtain rfl := Option.some.inj hopen
                  dsimp only at hlog hreads
                  rw [hlog, List.append_assoc] at hreads
                  rw [Master.numbered_unit] at hown
                  exact .answered hconnection hframe rfl hreads hwritten hown.2 hown.1
                    (Response.isException_of_exception? hregular) haccepted.numbered
              · exact .unanswered hconnection hframe hevents honce hinherits

end Exchanges

/-! ## §4. Calls on a table. -/

namespace Operation

variable {σ : Type}

/-- The operation is a call on a table. -/
def IsRequest : Operation σ → Prop
  | .read .. | .write .. | .writeCoils .. | .writeRegisters .. => True
  | _ => False

/-- The call asks for this function with this data. -/
inductive Asks : Operation σ → UInt8 → Octets → Prop where
  /-- A read names the function of its table, the first address and the number of items. -/
  | read (table : DataTable) (address quantity : UInt16) :
      Asks (.read table address quantity) table.readFunction (Request.read address quantity)
  /-- Coils are written as they are given. -/
  | writeCoils {address : UInt16} {coils : List Bool} {data : Octets}
      (hdata : Request.writeCoils address coils = .ok data) :
      Asks (.writeCoils address coils) writeCoilsFunction data
  /-- Coils that are given as octets are on if the octet is not zero. -/
  | writeSwitches {address : UInt16} {values data : Octets}
      (hdata : Request.writeCoils address (values.map (· ≠ 0)) = .ok data) :
      Asks (.write .coils address values) writeCoilsFunction data
  /-- Registers are written as the words that are given. -/
  | writeRegisters {address : UInt16} {registers : List UInt16} {data : Octets}
      (hdata : Request.writeRegisters address (registers.flatMap Octets.big) = .ok data) :
      Asks (.writeRegisters address registers) writeRegistersFunction data
  /-- Registers that are given as octets are written as they are. -/
  | writeOctets {address : UInt16} {values data : Octets}
      (hdata : Request.writeRegisters address values = .ok data) :
      Asks (.write .holdingRegisters address values) writeRegistersFunction data

/-- What a call on a table asks for, unless it is refused for its arguments. -/
def request? : Operation σ → Option (UInt8 × Octets)
  | .read table address quantity =>
    if quantity = 0 ∨ table.maxRead < quantity.toNat then none
    else some (table.readFunction, Request.read address quantity)
  | .writeCoils address coils =>
    (Request.writeCoils address coils).toOption.map (writeCoilsFunction, ·)
  | .write .coils address values =>
    (Request.writeCoils address (values.map (· ≠ 0))).toOption.map (writeCoilsFunction, ·)
  | .write .holdingRegisters address values =>
    (Request.writeRegisters address values).toOption.map (writeRegistersFunction, ·)
  | .writeRegisters address registers =>
    let octets := registers.flatMap Octets.big
    if maxPduLength - 1 < octets.length then none
    else (Request.writeRegisters address octets).toOption.map (writeRegistersFunction, ·)
  | _ => none

/-- What the call replies to an accepted response: a read gives it back. -/
def replyTo : Operation σ → Response → Reply
  | .read .., response => .response response
  | _, _ => .done

/-- A call on a table is not to open a connection. -/
theorem IsRequest.opens?_eq {operation : Operation σ} (h : operation.IsRequest) :
    operation.opens? = none := by
  cases operation with
  | read | write | writeCoils | writeRegisters => rfl
  | _ => exact h.elim

theorem Asks.isRequest {operation : Operation σ} {function : UInt8} {data : Octets}
    (h : operation.Asks function data) : operation.IsRequest := by
  cases h <;> trivial

end Operation

section Calls

variable {σ : Type} [OctetStream σ] [Dialer σ] [SerialBus σ]

/-- A call on a table was refused for its arguments. -/
def IsRefusal (fault : Fault) : Prop := fault = .invalidArgument ∨ fault = .unsupported

/-- What a call on a table comes to: it is refused for its arguments, or it is one request. -/
inductive Requesting (session : Session σ) (operation : Operation σ) : Prop where
  /-- Nothing was done. -/
  | refused {fault : Fault} (hfault : IsRefusal fault) (hnone : operation.request? = none)
      (heq : session.apply operation = (.error fault, session)) : Requesting session operation
  /-- The request was made. -/
  | made {function : UInt8} {data : Octets} (hasks : operation.Asks function data)
      (hsome : operation.request? = some (function, data))
      (heq : session.apply operation
        = Session.replying operation.replyTo (session.exchange function data)) :
      Requesting session operation

/-- Data that can be built are sent, and the confirmation is forgotten. -/
theorem confirm_request {session : Session σ} {operation : Operation σ} {function : UInt8}
    {data : Except Fault Octets}
    (happly : session.apply operation
      = Session.replying (fun _ => .done) (session.confirm function data))
    (hreply : operation.replyTo = fun _ => .done)
    (hrequest : operation.request? = data.toOption.map (function, ·))
    (hfault : ∀ {fault : Fault}, data = .error fault → fault = .invalidArgument)
    (hasks : ∀ {octets : Octets}, data = .ok octets → operation.Asks function octets) :
    Requesting session operation := by
  unfold Session.confirm at happly
  cases data with
  | error fault => exact .refused (.inl (hfault rfl)) hrequest happly
  | ok octets =>
    refine .made (hasks rfl) hrequest ?_
    rw [happly, hreply]
    dsimp only
    split
    · next fault after heq =>
      rw [heq]
      rfl
    · next response after heq =>
      rw [heq]
      rfl

theorem Request.writeCoils_error {address : UInt16} {coils : List Bool} {fault : Fault}
    (h : Request.writeCoils address coils = .error fault) : fault = .invalidArgument := by
  unfold Request.writeCoils at h
  split at h
  · exact (Except.error.inj h).symm
  · cases h

theorem Request.writeRegisters_error {address : UInt16} {octets : Octets} {fault : Fault}
    (h : Request.writeRegisters address octets = .error fault) : fault = .invalidArgument := by
  unfold Request.writeRegisters at h
  split at h
  · exact (Except.error.inj h).symm
  · cases h

/-- **A call on a table is refused, or it is one request.** -/
theorem apply_request (session : Session σ) {operation : Operation σ} (h : operation.IsRequest) :
    Requesting session operation := by
  cases operation with
  | read table address quantity =>
    by_cases hrange : quantity = 0 ∨ table.maxRead < quantity.toNat
    · refine .refused (.inl rfl) (if_pos hrange) ?_
      rw [Session.apply, Session.read, if_pos hrange]
      rfl
    · refine .made (.read table address quantity) (if_neg hrange) ?_
      rw [Session.apply, Session.read, if_neg hrange]
      rfl
  | writeCoils address coils =>
    exact confirm_request rfl rfl rfl Request.writeCoils_error .writeCoils
  | write table address values =>
    cases table with
    | coils => exact confirm_request rfl rfl rfl Request.writeCoils_error .writeSwitches
    | holdingRegisters =>
      exact confirm_request rfl rfl rfl Request.writeRegisters_error .writeOctets
    | discreteInputs => exact .refused (.inr rfl) rfl rfl
    | inputRegisters => exact .refused (.inr rfl) rfl rfl
  | writeRegisters address registers =>
    by_cases hlong : maxPduLength - 1 < (registers.flatMap Octets.big).length
    · refine .refused (.inl rfl) (if_pos hlong) ?_
      rw [Session.apply, Session.writeRegisters, if_pos hlong]
      rfl
    · refine confirm_request ?_ rfl (if_neg hlong) Request.writeRegisters_error .writeRegisters
      rw [Session.apply, Session.writeRegisters, if_neg hlong]
      rfl
  | _ => exact h.elim

/-! ## §5. All operations. -/

/-- What an operation comes to. -/
inductive Applying (session : Session σ) :
    Operation σ → Except Fault Reply × Session σ → Prop where
  /-- It was an attempt to connect. -/
  | attempted {operation : Operation σ} {framing : Framing}
      {outcome : Except Fault Unit × Session σ} (hopens : operation.opens? = some framing)
      (hattempting : Attempting framing session outcome) :
      Applying session operation (Session.replying (fun _ => .done) outcome)
  /-- It was a request. -/
  | requested {operation : Operation σ} {function : UInt8} {data : Octets}
      {outcome : Except Fault Response × Session σ} (hasks : operation.Asks function data)
      (hexchanging : Exchanging function data session outcome) :
      Applying session operation (Session.replying operation.replyTo outcome)
  /-- A frame was given to be sent. -/
  | given {frame : Octets} {outcome : Except Fault Unit × Session σ}
      (hsending : Sending frame session outcome) :
      Applying session (.sendRequest frame) (Session.replying (fun _ => .done) outcome)
  /-- It wrote nothing and opened nothing; as a call on a table it failed. -/
  | passed {operation : Operation σ} {outcome : Except Fault Reply × Session σ}
      (hopens : operation.opens? = none) (hpassive : Passive session outcome.2)
      (hfault : operation.IsRequest → ∃ fault, outcome.1 = .error fault) :
      Applying session operation outcome

/-- **Every way in which an operation can end.** -/
theorem apply_applying (session : Session σ) (operation : Operation σ) :
    Applying session operation (session.apply operation) := by
  by_cases hrequest : operation.IsRequest
  · cases apply_request session hrequest with
    | @refused fault hfault hnone heq =>
      rw [heq]
      exact .passed hrequest.opens?_eq (.refl session) fun _ => ⟨fault, rfl⟩
    | @made function data hasks hsome heq =>
      rw [heq]
      exact .requested hasks (exchange_exchanging function data session)
  · cases operation with
    | connectTcp remote => exact .attempted rfl (connectTcp_attempting remote session)
    | connectRtu path config => exact .attempted rfl (connectRtu_attempting path config session)
    | sendRequest frame => exact .given (sendRequest_sending frame session)
    | disconnect =>
      have hclosed : Passive session session.disconnect.2 := by
        unfold Session.disconnect
        split
        · exact hangUp_passive session
        · exact .refl session
      exact .passed rfl hclosed nofun
    | setUnit unit => exact .passed rfl ⟨.refl _, .of_eq rfl⟩ nofun
    | buildRequest function data =>
      exact .passed rfl (buildRequest_passive function data session) nofun
    | receiveResponse timeoutMs =>
      exact .passed rfl (receiveResponse_receiving timeoutMs session).passive nofun
    | outside change => exact .passed rfl ⟨.refl _, .of_eq rfl⟩ nofun
    | _ => exact absurd trivial hrequest

end Calls

end FieldLink.Modbus
