/-
  FieldLink.Proofs.Modbus.Reception
  ────────────────────────────────
  **A RESPONSE THAT IS ACCEPTED IS WHAT CAME IN.**

  Each transport takes its framing off before anything else looks at a
  response.  What it gives back tells all the octets that it was taken
  from: they are the frame of that response, with nothing before or behind
  it, and every check of the frame has been passed.

      header_ok                 — the seven octets of a TCP header
      stripChecksum_ok          — a serial frame and its checksum
      receiveTcp_ok             — a response over TCP, with its number
      receiveRtu_ok             — a response over a serial line
      receiveResponse_receiving — either of them, on the open connection
-/
import FieldLink.Proofs.Line.Writes
import FieldLink.Modbus.Session

namespace FieldLink.Modbus

/-! ## §1. Frames. -/

/-- A header that is accepted has protocol 0, and the unit behind it is neither empty nor too
long. -/
theorem Frame.header_ok {octets : Octets} {header : Frame.Header}
    (h : Frame.header octets = .ok header) :
    octets = Octets.big header.transaction ++ [0, 0] ++ Octets.big (UInt16.ofNat header.length)
        ++ [header.unit]
      ∧ 1 ≤ header.length ∧ header.length ≤ maxPduLength := by
  unfold Frame.header at h
  split at h
  · next t₁ t₀ p₁ p₀ l₁ l₀ unit =>
    dsimp only at h
    split at h
    · cases h
    · next hchecks =>
      obtain ⟨hprotocol, hlength⟩ := not_or.mp hchecks
      obtain ⟨hnonzero, hshort⟩ := not_or.mp hlength
      obtain rfl := Except.ok.inj h
      -- the protocol is 0, so both of its octets are
      have hzero : [p₁, p₀] = [0, 0] := by
        rw [← Octets.big_word, Decidable.not_not.mp hprotocol]
        rfl
      refine ⟨?_, Nat.pos_of_ne_zero hnonzero, Nat.not_lt.mp hshort⟩
      simp only [UInt16.ofNat_toNat, Octets.big_word, ← hzero]
      rfl
  · cases h

theorem Frame.stripChecksum_ok {frame body : Octets} (h : Frame.stripChecksum frame = .ok body) :
    frame = Frame.withChecksum body := by
  unfold Frame.stripChecksum at h
  split at h
  · cases h
  · dsimp only at h
    split at h
    · next low high hdrop =>
      split at h
      · next hequal =>
        obtain rfl := Except.ok.inj h
        rw [Frame.withChecksum, ← hequal, Octets.little_word, ← hdrop, List.take_append_drop]
      · cases h
    · cases h

theorem Response.ofPdu_ok {unit : UInt8} {pdu : Octets} {response : Response}
    (h : Response.ofPdu unit pdu = .ok response) : response.unit = unit ∧ response.pdu = pdu := by
  unfold Response.ofPdu at h
  split at h
  · cases h
  · split at h
    · obtain rfl := Except.ok.inj h
      exact ⟨rfl, rfl⟩
    · cases h

/-- A unit is refused if it is empty or too long. -/
theorem Response.ofPdu_error {unit : UInt8} {pdu : Octets} {fault : Fault}
    (h : Response.ofPdu unit pdu = .error fault) :
    fault = .protocolViolation ∨ fault = .capacityExceeded := by
  unfold Response.ofPdu at h
  split at h
  · exact .inl (Except.error.inj h).symm
  · split at h
    · cases h
    · exact .inr (Except.error.inj h).symm

/-! ## §2. One transport and the other. -/

section Transports

variable {σ : Type} [OctetStream σ]

/-- **A response over TCP** came behind a header with its number, the protocol 0 and its length. -/
theorem receiveTcp_ok {line line' : Line σ} {transaction : UInt16} {response : Response}
    (h : Session.receiveTcp line = (.ok (transaction, response), line')) :
    1 ≤ response.pdu.length ∧ response.pdu.length ≤ maxPduLength
      ∧ line.Reads line' (Octets.big transaction ++ [0, 0]
        ++ Octets.big (UInt16.ofNat response.pdu.length) ++ response.unit :: response.pdu) := by
  unfold Session.receiveTcp at h
  split at h
  · cases h
  · next octets line₁ hread =>
    split at h
    · cases h
    · next header hheader =>
      obtain ⟨rfl, hpos, hle⟩ := Frame.header_ok hheader
      split at h
      · cases h
      · next pdu line₂ hread' =>
        obtain ⟨hresult, rfl⟩ := Prod.mk.inj h
        cases hresponse : Response.ofPdu header.unit pdu with
        | error fault =>
          rw [hresponse] at hresult
          cases hresult
        | ok found =>
          rw [hresponse] at hresult
          obtain ⟨rfl, rfl⟩ := Prod.mk.inj (Except.ok.inj hresult)
          obtain ⟨hunit, rfl⟩ := Response.ofPdu_ok hresponse
          -- as many octets were read as the header announced
          have hlength : found.pdu.length = header.length := Line.length_readExact hread'
          have hboth := (Line.reads_readExact_ok hread).trans (Line.reads_readExact_ok hread')
          rw [← hlength, ← hunit] at hboth
          refine ⟨by omega, by omega, ?_⟩
          simpa using hboth

/-- **A response over a serial line** came in one read, with a checksum that is right. -/
theorem receiveRtu_ok {line line' : Line σ} {response : Response}
    (h : Session.receiveRtu line = (.ok response, line')) :
    line'.events = line.events
      ++ [.received (Frame.withChecksum (response.unit :: response.pdu))] := by
  have hlog := Line.events_read maxSerialFrameLength line
  unfold Session.receiveRtu at h
  split at h
  · cases h
  · cases h
  · next frame line₁ hnonempty hread =>
    rw [hread] at hlog
    split at h
    · cases h
    · cases h
    · next unit pdu hstrip =>
      obtain ⟨hresult, rfl⟩ := Prod.mk.inj h
      obtain ⟨rfl, rfl⟩ := Response.ofPdu_ok hresult
      rw [← Frame.stripChecksum_ok hstrip]
      exact hlog

/-- Nothing but reads happens while a response is awaited over TCP. -/
theorem receiveTcp_reads (line : Line σ) :
    ∃ octets, line.Reads (Session.receiveTcp line).2 octets := by
  have hheader := Line.reads_gather tcpHeaderLength line
  unfold Session.receiveTcp
  split
  · next fault line₁ hread =>
    obtain ⟨-, rfl⟩ := Prod.mk.inj hread
    exact ⟨_, hheader⟩
  · next octets line₁ hread =>
    obtain ⟨-, rfl⟩ := Prod.mk.inj hread
    split
    · exact ⟨_, hheader⟩
    · next header hparsed =>
      have hpdu := Line.reads_gather header.length (line.gather tcpHeaderLength).line
      split
      · next fault line₂ hread' =>
        obtain ⟨-, rfl⟩ := Prod.mk.inj hread'
        exact ⟨_, hheader.trans hpdu⟩
      · next pdu line₂ hread' =>
        obtain ⟨-, rfl⟩ := Prod.mk.inj hread'
        exact ⟨_, hheader.trans hpdu⟩

/-- A serial frame is awaited with one read. -/
theorem receiveRtu_reads (line : Line σ) :
    ∃ octets, line.Reads (Session.receiveRtu line).2 octets := by
  have hframe := Line.reads_read maxSerialFrameLength line
  unfold Session.receiveRtu
  split
  · next line₁ hread =>
    rw [hread] at hframe
    exact ⟨_, hframe⟩
  · next line₁ hread =>
    rw [hread] at hframe
    exact ⟨_, hframe⟩
  · next frame line₁ hnonempty hread =>
    rw [hread] at hframe
    split
    · exact ⟨_, hframe⟩
    · exact ⟨_, hframe⟩
    · exact ⟨_, hframe⟩

end Transports

/-! ## §3. Stretches without a write. -/

section Silence

variable {σ : Type}

/-- Between two lines nothing was written, and no attempt at it was made. -/
def Silent (line line' : Line σ) : Prop :=
  ∃ events, line'.events = line.events ++ events ∧ ∀ event ∈ events, ¬ event.IsWrite

theorem Silent.refl (line : Line σ) : Silent line line :=
  ⟨[], (List.append_nil _).symm, nofun⟩

theorem Silent.trans {first second third : Line σ} (h : Silent first second)
    (h' : Silent second third) : Silent first third := by
  obtain ⟨events, hlog, hevents⟩ := h
  obtain ⟨events', hlog', hevents'⟩ := h'
  refine ⟨events ++ events', by rw [hlog', hlog, List.append_assoc], ?_⟩
  exact List.forall_mem_append.mpr ⟨hevents, hevents'⟩

theorem Silent.of_event {line line' : Line σ} {event : Event}
    (h : line'.events = line.events ++ [event]) (hevent : ¬ event.IsWrite) : Silent line line' :=
  ⟨_, h, List.forall_mem_singleton.mpr hevent⟩

theorem Silent.of_reads {line line' : Line σ} {octets : Octets} (h : line.Reads line' octets) :
    Silent line line' := by
  obtain ⟨events, hlog, hreads, -⟩ := h
  exact ⟨events, hlog, fun event hevent => (hreads event hevent).isAside.not_isWrite⟩

/-- The connection is the one that was open before, or there is none. -/
def Session.Inherits (session after : Session σ) : Prop :=
  ∀ framing, after.master.connection = some framing → session.master.connection = some framing

theorem Session.Inherits.of_eq {session after : Session σ}
    (h : after.master.connection = session.master.connection) : session.Inherits after :=
  fun _ hopen => h.symm.trans hopen

theorem Session.Inherits.trans {first second third : Session σ} (h : first.Inherits second)
    (h' : second.Inherits third) : first.Inherits third :=
  fun framing hopen => h framing (h' framing hopen)

/-- Between two sessions nothing was written and no connection was opened. -/
structure Passive (session after : Session σ) : Prop where
  silent : Silent session.line after.line
  inherits : session.Inherits after

theorem Passive.refl (session : Session σ) : Passive session session :=
  ⟨.refl _, .of_eq rfl⟩

theorem Passive.trans {first second third : Session σ} (h : Passive first second)
    (h' : Passive second third) : Passive first third :=
  ⟨h.silent.trans h'.silent, h.inherits.trans h'.inherits⟩

/-- Nothing happened but on the line. -/
theorem Passive.of_silent {session : Session σ} {line : Line σ} (h : Silent session.line line) :
    Passive session { session with line := line } :=
  ⟨h, .of_eq rfl⟩

end Silence

section Closing

variable {σ : Type} [OctetStream σ]

theorem hangUp_connection (session : Session σ) : session.hangUp.master.connection = none := by
  unfold Session.hangUp
  split
  · rfl
  · next hclosed =>
    rw [Master.isConnected, Option.not_isSome_iff_eq_none] at hclosed
    exact hclosed

theorem hangUp_passive (session : Session σ) : Passive session session.hangUp := by
  refine ⟨?_, ?_⟩
  · unfold Session.hangUp
    split
    · exact .of_event (Line.events_close session.line) id
    · exact .refl _
  · intro framing hopen
    rw [hangUp_connection] at hopen
    cases hopen

end Closing

/-! ## §4. Responses on the open connection. -/

section Responses

variable {σ : Type}

/-- What came in for a response that was accepted: over TCP its frame with this number, over a
serial line one read with a checksum that is right. -/
structure Accepted (framing : Framing) (transaction : UInt16) (response : Response)
    (reads : List Event) : Prop where
  /-- Nothing but reads happened. -/
  isRead : ∀ event ∈ reads, event.IsRead
  /-- The frame over TCP. -/
  over_tcp : framing = .tcp → 1 ≤ response.pdu.length ∧ response.pdu.length ≤ maxPduLength
    ∧ Traffic.received reads = Octets.big transaction ++ [0, 0]
      ++ Octets.big (UInt16.ofNat response.pdu.length) ++ response.unit :: response.pdu
  /-- The frame over a serial line. -/
  over_rtu : framing = .rtu →
    reads = [.received (Frame.withChecksum (response.unit :: response.pdu))]

/-- What receiving a response comes to. -/
inductive Receiving (timeoutMs : UInt32) (session : Session σ) :
    Except Fault Response × Session σ → Prop where
  /-- None was accepted. -/
  | refused {fault : Fault} {after : Session σ} (hpassive : Passive session after) :
      Receiving timeoutMs session (.error fault, after)
  /-- One was, as the frame that came in. -/
  | accepted {response : Response} {line : Line σ} {framing : Framing} {reads : List Event}
      (hconnection : session.master.connection = some framing)
      (hlog : line.events = session.line.events ++ (.timeoutSet timeoutMs true :: reads))
      (haccepted : Accepted framing session.master.transaction response reads) :
      Receiving timeoutMs session (.ok response, { session with line := line })

/-- Nothing is written while a response is awaited, whatever comes of it. -/
theorem Receiving.passive {timeoutMs : UInt32} {session : Session σ}
    {outcome : Except Fault Response × Session σ} (h : Receiving timeoutMs session outcome) :
    Passive session outcome.2 := by
  cases h with
  | refused hpassive => exact hpassive
  | accepted hconnection hlog haccepted =>
    refine .of_silent ⟨_, hlog, List.forall_mem_cons.mpr ⟨id, ?_⟩⟩
    exact fun event hevent => (haccepted.isRead event hevent).isAside.not_isWrite

variable [OctetStream σ]

/-- **A response is accepted only as the frame that came in**, on the open connection and, over
TCP, with the number of the last request. -/
theorem receiveResponse_receiving (timeoutMs : UInt32) (session : Session σ) :
    Receiving timeoutMs session (session.receiveResponse timeoutMs) := by
  have hset := Line.events_setTimeout timeoutMs session.line
  have hwaited : Silent session.line (session.line.setTimeout timeoutMs).2 := .of_event hset id
  -- where the connection is lost, nothing but the closing follows
  have hlost : ∀ {line : Line σ}, Silent session.line line →
      Passive session (Session.hangUp { session with line := line }) :=
    fun hsilent => (Passive.of_silent hsilent).trans (hangUp_passive _)
  unfold Session.receiveResponse
  split
  · exact .refused (.refl session)
  · next framing hconnection =>
    split
    · next line hwait =>
      rw [hwait] at hwaited
      exact .refused (hlost hwaited)
    · next line hwait =>
      rw [hwait] at hset hwaited
      cases framing with
      | tcp =>
        obtain ⟨octets, hreads⟩ := receiveTcp_reads line
        dsimp only
        split
        · next fault line' heq =>
          rw [heq] at hreads
          exact .refused (hlost (hwaited.trans (.of_reads hreads)))
        · next transaction response line' heq =>
          rw [heq] at hreads
          split
          · next hnumber =>
            obtain ⟨hpos, hle, reads, hlog, hisRead, hoctets⟩ := receiveTcp_ok heq
            rw [hnumber] at hoctets
            rw [hset, List.append_assoc] at hlog
            exact .accepted hconnection hlog ⟨hisRead, fun _ => ⟨hpos, hle, hoctets⟩, nofun⟩
          · exact .refused (.of_silent (hwaited.trans (.of_reads hreads)))
      | rtu =>
        obtain ⟨octets, hreads⟩ := receiveRtu_reads line
        dsimp only
        split
        · next response line' heq =>
          have hlog := receiveRtu_ok heq
          rw [hset, List.append_assoc] at hlog
          exact .accepted hconnection hlog
            ⟨List.forall_mem_singleton.mpr trivial, nofun, fun _ => rfl⟩
        · next fault line' heq =>
          rw [heq] at hreads
          split
          · exact .refused (hlost (hwaited.trans (.of_reads hreads)))
          · exact .refused (.of_silent (hwaited.trans (.of_reads hreads)))

end Responses

end FieldLink.Modbus
