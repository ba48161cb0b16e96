/-
  FieldLink.Proofs.Mqtt.Handshake
  ────────────────────────────────
  **A SESSION BEGINS EXACTLY WHEN THE BROKER ACCEPTS IT.**

  A client asks for a session in a fixed order: it dials, it encrypts if
  that is wanted, it writes its request, and it waits for four octets.
  `Replies` is the platform's part in this, call by call, and mentions no
  function of the client.  A session begins just if the platform plays its
  part with an answer that accepts; whatever else happens leaves a client
  without a connection, and nothing on the line that is still open:

      Client.connect_eq      — the request, octet by octet
      handshake_handshaking  — the ways in which a handshake can end
      handshake_of_answers   — the platform's part decides the result
      connect_connecting     — the ways in which connecting can end
      connect_exact          — when a session begins, and what is left if not
      connect_ok_script      — the same condition, told by a script
-/
import FieldLink.Proofs.Line.Completion
import FieldLink.Proofs.Custody

namespace FieldLink

theorem Remote.not_isUnaddressed_iff (remote : Remote) :
    ¬ remote.IsUnaddressed ↔ remote.host ≠ "" ∧ remote.text.utf8ByteSize ≤ 64 := by
  rw [Remote.IsUnaddressed, not_or, Nat.not_lt]

namespace Mqtt

/-! ## §1. The request. -/

namespace Client

variable {η : Type}

/-- What a request for a session says: the protocol and its level 4, the flags, the keep-alive
interval, and the client's identifier behind its length. -/
def requestBody (client : Client η) : Octets :=
  [0, 4, 0x4D, 0x51, 0x54, 0x54, 4, if client.cleanSession then 2 else 0]
    ++ Octets.big client.keepAliveSeconds ++ Packet.topicField client.clientId

/-- The request for a session. -/
def request (client : Client η) : Octets :=
  0x10 :: UInt8.ofNat (client.clientId.utf8ByteSize + 12) :: client.requestBody

theorem length_requestBody (client : Client η) :
    client.requestBody.length = client.clientId.utf8ByteSize + 12 := by
  simp only [requestBody, List.length_append, Packet.length_topicField, Octets.length_big,
    List.length_cons, List.length_nil]
  omega

/-- **Every client can build its request.** -/
theorem connect_eq (client : Client η) :
    Packet.connect client.clientId client.keepAliveSeconds client.cleanSession
      = .ok client.request := by
  have hid : client.clientId.utf8ByteSize ≤ 64 := client.clientId_fits
  have hlength := client.length_requestBody
  have hdigits : RemainingLength.digits client.requestBody.length
      = [UInt8.ofNat (client.clientId.utf8ByteSize + 12)] := by
    rw [hlength, RemainingLength.digits, if_pos (by omega)]
  let draft : Packet.Draft := .connect client.clientId client.keepAliveSeconds client.cleanSession
  have hbuilt : draft.build = .ok (Packet.framed 0x10 client.requestBody) := by
    apply draft.build_eq trivial
    show 2 + 4 + 1 + 1 + 2 + 2 + client.clientId.utf8ByteSize ≤ 1277
    omega
  rw [Packet.framed, hdigits] at hbuilt
  exact hbuilt

end Client

namespace Session

/-! ## §2. The old connection. -/

section Parting

variable {η σ : Type} [OctetStream σ]

/-- What ending the old connection leaves in the log. -/
def Parts (session : Session η σ) (parting : List Event) : Prop :=
  if session.client.holdsConnection then ∃ worked, parting = [.closed worked] else parting = []

theorem hangUp_parts (session : Session η σ) :
    ∃ parting, session.Parts parting
      ∧ session.hangUp.line.events = session.line.events ++ parting := by
  unfold Parts
  by_cases hholds : session.client.holdsConnection = true
  · obtain ⟨worked, hclosed⟩ := session.hangUp_events hholds
    exact ⟨[.closed worked], by rw [if_pos hholds]; exact ⟨worked, rfl⟩, hclosed⟩
  · refine ⟨[], by rw [if_neg hholds], ?_⟩
    rw [hangUp, if_neg hholds, List.append_nil]

end Parting

/-! ## §3. Encryption. -/

section Opening

variable {η σ : Type} [Dialer σ]

/-- The connection is encrypted, if that is wanted. -/
def Secures (useTls : Bool) (state ready : σ) : Prop :=
  if useTls then Dialer.hasTls state = true ∧ Dialer.startTls state = (.ok (), ready)
  else ready = state

/-- The event of an encryption that worked, if it was wanted. -/
def upgrade (useTls : Bool) : List Event := if useTls then [.tlsStarted none] else []

/-- What encrypting, if it is wanted, comes to. -/
inductive Securing (useTls : Bool) (line : Line σ) : Except Fault Unit × Line σ → Prop where
  /-- The connection is as it should be. -/
  | secured {line' : Line σ} (hsecures : Secures useTls line.platform line'.platform)
      (hlog : line'.events = line.events ++ upgrade useTls) : Securing useTls line (.ok (), line')
  /-- It cannot be encrypted. -/
  | insecure {fault : Fault} {line' : Line σ} {asides : List Event}
      (hlog : line'.events = line.events ++ asides)
      (hasides : ∀ event ∈ asides, event.IsAside) : Securing useTls line (.error fault, line')

theorem startTls_securing (line : Line σ) : Securing true line line.startTls := by
  unfold Line.startTls
  split
  · next htls =>
    rcases hstart : Dialer.startTls line.platform with ⟨result, state⟩
    cases result with
    | ok => exact .secured ⟨htls, hstart⟩ (Line.events_record _ _)
    | error fault =>
      exact .insecure (Line.events_record _ _) (List.forall_mem_singleton.mpr trivial)
  · exact .insecure (List.append_nil _).symm (List.forall_mem_nil _)

theorem encrypt_securing (useTls : Bool) (line : Line σ) :
    Securing useTls line (if useTls then line.startTls else (.ok (), line)) := by
  cases useTls with
  | true => exact startTls_securing line
  | false => exact .secured rfl (List.append_nil _).symm

theorem encrypt_of_secures {useTls : Bool} {line : Line σ} {ready : σ}
    (h : Secures useTls line.platform ready) :
    ∃ line', (if useTls then line.startTls else (.ok (), line)) = (.ok (), line')
      ∧ line'.platform = ready := by
  cases useTls with
  | true =>
    obtain ⟨htls, hstart⟩ := h
    refine ⟨{ line with platform := ready }.record (.tlsStarted none), ?_, rfl⟩
    show line.startTls = _
    unfold Line.startTls
    rw [if_pos htls, hstart]
    rfl
  | false => exact ⟨line, rfl, h.symm⟩

/-! ## §4. The ways in which a handshake can end. -/

variable [OctetStream σ]

/-- On an open connection the platform encrypts if that is wanted, then takes the whole request
and pushes it out, and then gives this answer. -/
def Answers (client : Client η) (useTls : Bool) (answer : Octets) (state final : σ) : Prop :=
  ∃ ready taken flushed, Secures useTls state ready ∧ Takes client.request ready taken
    ∧ OctetStream.flush taken = (true, flushed) ∧ Gives answer flushed final

/-- The network connects to the address, and the far end answers so. -/
def Replies (client : Client η) (address : String) (useTls : Bool) (answer : Octets)
    (state final : σ) : Prop :=
  ∃ dialed, Dialer.dial address state = (true, dialed)
    ∧ Answers client useTls answer dialed final

/-- What a handshake comes to. -/
inductive Handshaking (client : Client η) (useTls : Bool) (line : Line σ) :
    Except Fault Unit × Line σ → Prop where
  /-- The connection cannot be encrypted, and nothing was written. -/
  | insecure {fault : Fault} {line' : Line σ} {asides : List Event}
      (hlog : line'.events = line.events ++ asides)
      (hasides : ∀ event ∈ asides, event.IsAside) :
      Handshaking client useTls line (.error fault, line')
  /-- The request did not go out whole. -/
  | unsent {line' : Line σ} {written : List Event}
      (hlog : line'.events = line.events ++ (upgrade useTls ++ written))
      (hwritten : Interrupted client.request written) :
      Handshaking client useTls line (.error .writeFailed, line')
  /-- No whole answer came. -/
  | unanswered {fault : Fault} {line' : Line σ} {written reads : List Event}
      (hlog : line'.events = line.events ++ (upgrade useTls ++ written ++ reads))
      (hwritten : Delivered client.request written) (hreads : GaveUp 4 reads fault) :
      Handshaking client useTls line (.error fault, line')
  /-- An answer came. -/
  | answered {answer : Octets} {line' : Line σ} {written reads : List Event}
      (hanswers : Answers client useTls answer line.platform line'.platform)
      (hlog : line'.events = line.events ++ (upgrade useTls ++ written ++ reads))
      (hwritten : Delivered client.request written) (hreads : ∀ event ∈ reads, event.IsRead)
      (hanswer : Traffic.received reads = answer) :
      Handshaking client useTls line (Packet.checkConnack answer, line')

/-- **Every way in which a handshake can end.** -/
theorem handshake_handshaking (client : Client η) (useTls : Bool) (line : Line σ) :
    Handshaking client useTls line (handshake client useTls line) := by
  have hsecuring := encrypt_securing useTls line
  unfold handshake
  generalize (if useTls then line.startTls else (.ok (), line)) = outcome at hsecuring
  cases hsecuring with
  | insecure hlog hasides => exact .insecure hlog hasides
  | @secured line₁ hsecures hupgrade =>
    dsimp only
    rw [client.connect_eq]
    dsimp only
    split
    · next fault line₂ hwrite =>
      obtain ⟨rfl, written, hlog, hwritten⟩ := Line.writeAll_error hwrite
      rw [hupgrade, List.append_assoc] at hlog
      exact .unsent hlog hwritten
    · next line₂ hwrite =>
      obtain ⟨written, hlog, hwritten⟩ := Line.writeAll_ok hwrite
      rw [hupgrade, List.append_assoc] at hlog
      split
      · next fault line₃ hread =>
        obtain ⟨reads, hreads, hgaveUp⟩ := Line.readExact_gaveUp hread
        rw [hlog, List.append_assoc] at hreads
        exact .unanswered hreads hwritten hgaveUp
      · next answer line₃ hread =>
        obtain ⟨reads, hreads, hisRead, hanswer⟩ := Line.reads_readExact_ok hread
        obtain ⟨taken, htakes, hflush⟩ := Line.writeAll_takes hwrite
        rw [hlog, List.append_assoc] at hreads
        exact .answered ⟨_, _, _, hsecures, htakes, hflush, Line.readExact_gives hread⟩ hreads
          hwritten hisRead hanswer

/-- **The platform's part decides the result**: the handshake checks the answer that it gives. -/
theorem handshake_of_answers {client : Client η} {useTls : Bool} {answer : Octets} {line : Line σ}
    {final : σ} (h : Answers client useTls answer line.platform final)
    (hlength : answer.length = 4) :
    ∃ line', handshake client useTls line = (Packet.checkConnack answer, line')
      ∧ line'.platform = final := by
  obtain ⟨ready, taken, flushed, hsecures, htakes, hflush, hgives⟩ := h
  obtain ⟨line₁, hencrypt, rfl⟩ := encrypt_of_secures hsecures
  obtain ⟨line₂, hwrite, rfl⟩ := Line.writeAll_of_takes htakes hflush
  obtain ⟨line₃, hread, hfinal⟩ := Line.readExact_of_gives hgives hlength
  refine ⟨line₃, ?_, hfinal⟩
  unfold handshake
  rw [hencrypt]
  dsimp only
  rw [client.connect_eq]
  dsimp only
  rw [hwrite]
  dsimp only
  rw [hread]

/-! ## §5. The answer. -/

/-- Four octets accept the session just if they say so. -/
theorem checkConnack_ok_iff (answer : Octets) :
    Packet.checkConnack answer = .ok () ↔ ∃ octet, answer = [0x20, 2, octet, 0] := by
  constructor
  · intro h
    unfold Packet.checkConnack at h
    split at h
    · next header length octet code =>
      split at h
      · cases h
      · next hframe =>
        obtain ⟨hheader, hlength⟩ := not_or.mp hframe
        split at h
        · next hcode =>
          exact ⟨octet, by rw [not_not.mp hheader, not_not.mp hlength, hcode]; rfl⟩
        · split at h <;> cases h
    · cases h
  · rintro ⟨octet, rfl⟩
    rfl

/-- The codes 1 to 5 refuse it. -/
theorem checkConnack_refused {octet code : UInt8} (hpos : 1 ≤ code) (hle : code ≤ 5) :
    Packet.checkConnack [0x20, 2, octet, code] = .error .connectionRefused := by
  have hne : code ≠ 0 := by
    rintro rfl
    exact absurd hpos (by decide)
  unfold Packet.checkConnack
  dsimp only
  rw [if_neg (by decide), if_neg hne, if_pos hle]

/-! ## §6. The ways in which connecting can end. -/

/-- The connection was used and neither opened nor closed; if it is to be encrypted, nothing was
written before it was. -/
structure Uses (useTls : Bool) (used : List Event) : Prop where
  /-- It was used. -/
  steady : ∀ event ∈ used, event.IsSteady
  /-- Encryption came first. -/
  guarded : useTls = true → (∃ event ∈ used, event.IsWrite) → used.head? = some (.tlsStarted none)

theorem Handshaking.uses {client : Client η} {useTls : Bool} {line : Line σ}
    {outcome : Except Fault Unit × Line σ} (h : Handshaking client useTls line outcome) :
    ∃ used, outcome.2.events = line.events ++ used ∧ Uses useTls used := by
  have hupgrade : ∀ event ∈ upgrade useTls, event.IsSteady := by
    cases useTls <;> simp [upgrade, Event.IsSteady]
  have hguarded : ∀ used, useTls = true → (∃ event ∈ upgrade useTls ++ used, event.IsWrite) →
      (upgrade useTls ++ used).head? = some (.tlsStarted none) := by
    rintro used rfl -
    rfl
  cases h with
  | @insecure fault line' asides hlog hasides =>
    refine ⟨asides, hlog, fun event hevent => (hasides event hevent).isSteady, ?_⟩
    rintro - ⟨event, hevent, hwrite⟩
    exact absurd hwrite (hasides event hevent).not_isWrite
  | @unsent line' written hlog hwritten =>
    exact ⟨_, hlog, List.forall_mem_append.mpr ⟨hupgrade, hwritten.isSteady⟩, hguarded _⟩
  | @unanswered fault line' written reads hlog hwritten hreads =>
    rw [List.append_assoc] at hlog
    have hreads : ∀ event ∈ reads, event.IsSteady :=
      fun event hevent => (hreads.isRead event hevent).isAside.isSteady
    exact ⟨_, hlog, List.forall_mem_append.mpr
      ⟨hupgrade, List.forall_mem_append.mpr ⟨hwritten.isSteady, hreads⟩⟩, hguarded _⟩
  | @answered answer line' written reads hanswers hlog hwritten hreads hanswer =>
    rw [List.append_assoc] at hlog
    have hreads : ∀ event ∈ reads, event.IsSteady :=
      fun event hevent => (hreads event hevent).isAside.isSteady
    exact ⟨_, hlog, List.forall_mem_append.mpr
      ⟨hupgrade, List.forall_mem_append.mpr ⟨hwritten.isSteady, hreads⟩⟩, hguarded _⟩

/-- A handshake that succeeded was answered, and the answer accepts the session. -/
theorem Handshaking.accepted {client : Client η} {useTls : Bool} {line line' : Line σ}
    (h : Handshaking client useTls line (.ok (), line')) :
    ∃ octet written reads, Answers client useTls [0x20, 2, octet, 0] line.platform line'.platform
      ∧ line'.events = line.events ++ (upgrade useTls ++ written ++ reads)
      ∧ Delivered client.request written ∧ (∀ event ∈ reads, event.IsRead)
      ∧ Traffic.received reads = [0x20, 2, octet, 0] := by
  generalize houtcome : (Except.ok (), line') = outcome at h
  cases h with
  | insecure => cases houtcome
  | unsent => cases houtcome
  | unanswered => cases houtcome
  | @answered answer line₁ written reads hanswers hlog hwritten hreads hanswer =>
    obtain ⟨hcheck, rfl⟩ := Prod.mk.inj houtcome
    obtain ⟨octet, rfl⟩ := (checkConnack_ok_iff answer).mp hcheck.symm
    exact ⟨octet, written, reads, hanswers, hlog, hwritten, hreads, hanswer⟩

/-- What connecting comes to. -/
inductive Connecting (remote : Remote) (useTls : Bool) (session : Session η σ) :
    Except Fault Unit × Session η σ → Prop where
  /-- There is no such address, and nothing was done. -/
  | unaddressed (hremote : remote.IsUnaddressed) :
      Connecting remote useTls session (.error .invalidAddress, session)
  /-- The network does not connect. -/
  | undialed {line : Line σ} {parting : List Event} (hremote : ¬ remote.IsUnaddressed)
      (hparts : session.Parts parting)
      (hlog : line.events = session.line.events ++ (parting ++ [.dialed remote.text false])) :
      Connecting remote useTls session (.error .connectionRefused, ⟨session.client.offline, line⟩)
  /-- The handshake failed, and the new connection was closed. -/
  | failed {fault : Fault} {line : Line σ} {parting used : List Event} {worked : Bool}
      (hremote : ¬ remote.IsUnaddressed) (hparts : session.Parts parting)
      (hlog : line.events = session.line.events
        ++ (parting ++ .dialed remote.text true :: used ++ [.closed worked]))
      (hused : Uses useTls used) :
      Connecting remote useTls session (.error fault, ⟨session.client.offline, line⟩)
  /-- The session has begun. -/
  | begun {octet : UInt8} {line : Line σ} {parting written reads : List Event}
      (hremote : ¬ remote.IsUnaddressed) (hparts : session.Parts parting)
      (hreplies : Replies session.client remote.text useTls [0x20, 2, octet, 0]
        session.hangUp.line.platform line.platform)
      (hlog : line.events = session.line.events
        ++ (parting ++ .dialed remote.text true :: (upgrade useTls ++ written ++ reads)))
      (hwritten : Delivered session.client.request written)
      (hreads : ∀ event ∈ reads, event.IsRead)
      (hanswer : Traffic.received reads = [0x20, 2, octet, 0]) :
      Connecting remote useTls session (.ok (), ⟨session.client.online, line⟩)

/-- **Every way in which connecting can end.** -/
theorem connect_connecting (remote : Remote) (useTls : Bool) (session : Session η σ) :
    Connecting remote useTls session (session.connect remote useTls) := by
  by_cases hremote : remote.IsUnaddressed
  · rw [connect_unaddressed hremote]
    exact .unaddressed hremote
  · have haddress : remote.address = .ok remote.text := if_neg hremote
    obtain ⟨parting, hparts, hparting⟩ := session.hangUp_parts
    have hdial := Line.events_dial remote.text session.hangUp.line
    rw [hparting, List.append_assoc] at hdial
    unfold connect
    rw [haddress]
    dsimp only [enter]
    split
    · next line hdialed =>
      rw [hdialed] at hdial
      exact .undialed hremote hparts hdial
    · next line hdialed =>
      have hshaking := handshake_handshaking session.client useTls line
      rw [hdialed] at hdial
      split
      · next fault line' hshake =>
        rw [show handshake session.client useTls line = (.error fault, line') from hshake]
          at hshaking
        obtain ⟨used, hused, huses⟩ := hshaking.uses
        have hclosed := Line.events_close line'
        rw [show line'.events = line.events ++ used from hused, hdial] at hclosed
        generalize (OctetStream.close line'.platform).1 = worked at hclosed
        have hlog : line'.close.events = session.line.events
            ++ (parting ++ .dialed remote.text true :: used ++ [.closed worked]) := by
          rw [hclosed]
          simp
        exact .failed hremote hparts hlog huses
      · next line' hshake =>
        rw [show handshake session.client useTls line = (.ok (), line') from hshake] at hshaking
        obtain ⟨octet, written, reads, hanswers, hlog, hwritten, hreads, hanswer⟩ :=
          hshaking.accepted
        have hplatform : Dialer.dial remote.text session.hangUp.line.platform
            = (true, line.platform) := by
          obtain ⟨hworked, rfl⟩ := Prod.mk.inj hdialed
          exact Prod.ext hworked rfl
        refine .begun hremote hparts ⟨_, hplatform, hanswers⟩ ?_ hwritten hreads hanswer
        rw [hlog, hdial]
        simp

/-! ## §7. When a session begins. -/

/-- The checked answer decides what becomes of connecting. -/
theorem connect_of_replies {remote : Remote} {useTls : Bool} {session : Session η σ}
    {answer : Octets} {final : σ} (hremote : ¬ remote.IsUnaddressed)
    (hreplies : Replies session.client remote.text useTls answer session.hangUp.line.platform final)
    (hlength : answer.length = 4) :
    (session.connect remote useTls).1 = Packet.checkConnack answer := by
  obtain ⟨dialed, hdial, hanswers⟩ := hreplies
  have haddress : remote.address = .ok remote.text := if_neg hremote
  obtain ⟨line, hdialed, rfl⟩ : ∃ line, session.hangUp.line.dial remote.text = (true, line)
      ∧ line.platform = dialed := by
    refine ⟨{ session.hangUp.line with platform := dialed }.record (.dialed remote.text true), ?_,
      rfl⟩
    unfold Line.dial
    rw [hdial]
  obtain ⟨line', hshake, -⟩ := handshake_of_answers hanswers hlength
  unfold connect
  rw [haddress]
  dsimp only [enter]
  rw [hdialed]
  dsimp only
  rw [show handshake { session.hangUp.client with phase := .connecting } useTls line
    = (Packet.checkConnack answer, line') from hshake]
  cases Packet.checkConnack answer <;> rfl

/-- **A session begins just if the broker accepts it.** -/
theorem connect_ok_iff (remote : Remote) (useTls : Bool) (session : Session η σ) :
    (session.connect remote useTls).1 = .ok ()
      ↔ ¬ remote.IsUnaddressed ∧ ∃ octet final, Replies session.client remote.text useTls
        [0x20, 2, octet, 0] session.hangUp.line.platform final := by
  constructor
  · intro h
    have hconnecting := connect_connecting remote useTls session
    generalize session.connect remote useTls = outcome at h hconnecting
    cases hconnecting with
    | unaddressed => cases h
    | undialed => cases h
    | failed => cases h
    | begun hremote hparts hreplies => exact ⟨hremote, _, _, hreplies⟩
  · rintro ⟨hremote, octet, final, hreplies⟩
    rw [connect_of_replies hremote hreplies rfl]
    rfl

/-- What is left of a session that has begun. -/
theorem Connecting.success {remote : Remote} {useTls : Bool} {session : Session η σ}
    {outcome : Except Fault Unit × Session η σ} (h : Connecting remote useTls session outcome)
    (hok : outcome.1 = .ok ()) :
    outcome.2.client = session.client.online
      ∧ ∃ octet parting written reads,
        Replies session.client remote.text useTls [0x20, 2, octet, 0]
            session.hangUp.line.platform outcome.2.line.platform
          ∧ session.Parts parting
          ∧ outcome.2.line.events = session.line.events
            ++ (parting ++ .dialed remote.text true :: (upgrade useTls ++ written ++ reads))
          ∧ Delivered session.client.request written ∧ (∀ event ∈ reads, event.IsRead)
          ∧ Traffic.received reads = [0x20, 2, octet, 0] := by
  cases h with
  | unaddressed => cases hok
  | undialed => cases hok
  | failed => cases hok
  | begun hremote hparts hreplies hlog hwritten hreads hanswer =>
    exact ⟨rfl, _, _, _, _, hreplies, hparts, hlog, hwritten, hreads, hanswer⟩

/-- What is left of one that has not. -/
theorem Connecting.failure {remote : Remote} {useTls : Bool} {session : Session η σ}
    {outcome : Except Fault Unit × Session η σ} (h : Connecting remote useTls session outcome)
    (hremote : ¬ remote.IsUnaddressed) {fault : Fault} (hfault : outcome.1 = .error fault) :
    outcome.2.client = session.client.offline
      ∧ ∃ parting, session.Parts parting
        ∧ (outcome.2.line.events = session.line.events ++ (parting ++ [.dialed remote.text false])
          ∨ ∃ used worked, outcome.2.line.events = session.line.events
              ++ (parting ++ .dialed remote.text true :: used ++ [.closed worked])
            ∧ Uses useTls used) := by
  cases h with
  | unaddressed hunaddressed => exact absurd hunaddressed hremote
  | undialed _ hparts hlog => exact ⟨rfl, _, hparts, .inl hlog⟩
  | failed _ hparts hlog hused => exact ⟨rfl, _, hparts, .inr ⟨_, _, hlog, hused⟩⟩
  | begun => cases hfault

/-- What connecting never touches. -/
theorem Connecting.tables {remote : Remote} {useTls : Bool} {session : Session η σ}
    {outcome : Except Fault Unit × Session η σ} (h : Connecting remote useTls session outcome) :
    outcome.2.client.pending = session.client.pending
      ∧ outcome.2.client.subscriptions = session.client.subscriptions
      ∧ outcome.2.client.nextPacketId = session.client.nextPacketId := by
  cases h with
  | unaddressed | undialed | failed | begun => exact ⟨rfl, rfl, rfl⟩

/-- **Connecting is exact**, for every client, connected or not, on every platform.  A session
begins just if the address is good, the network connects, the connection is encrypted if that is
wanted, the request is then taken whole and pushed out, and the next four octets accept; these four
are then all that was read.  A bad address is refused and nothing happens.  Every other failure
leaves the client without a connection: the old one was closed first, and the new one, if there was
one, is closed at the end.  A refusal of the broker is reported as one.  What the client keeps
across connections stays as it is. -/
theorem connect_exact (remote : Remote) (useTls : Bool) (session : Session η σ) :
    let outcome := session.connect remote useTls
    let start := session.hangUp.line.platform
    let addressed := remote.host ≠ "" ∧ remote.text.utf8ByteSize ≤ 64
    (outcome.1 = .ok () ↔ addressed ∧ ∃ octet final,
        Replies session.client remote.text useTls [0x20, 2, octet, 0] start final)
      ∧ (outcome.1 = .ok () →
        outcome.2.client = { session.client with phase := .connected, holdsConnection := true }
          ∧ ∃ octet parting written reads,
            Replies session.client remote.text useTls [0x20, 2, octet, 0] start
                outcome.2.line.platform
              ∧ session.Parts parting
              ∧ outcome.2.line.events = session.line.events
                ++ (parting ++ .dialed remote.text true :: (upgrade useTls ++ written ++ reads))
              ∧ Delivered session.client.request written ∧ (∀ event ∈ reads, event.IsRead)
              ∧ Traffic.received reads = [0x20, 2, octet, 0])
      ∧ (¬ addressed → outcome = (.error .invalidAddress, session))
      ∧ (addressed → ∀ fault, outcome.1 = .error fault →
        outcome.2.client = { session.client with phase := .disconnected, holdsConnection := false }
          ∧ ∃ parting, session.Parts parting
            ∧ (outcome.2.line.events
                = session.line.events ++ (parting ++ [.dialed remote.text false])
              ∨ ∃ used worked, outcome.2.line.events = session.line.events
                  ++ (parting ++ .dialed remote.text true :: used ++ [.closed worked])
                ∧ Uses useTls used))
      ∧ (addressed → ∀ octet code final, 1 ≤ code → code ≤ 5 →
        Replies session.client remote.text useTls [0x20, 2, octet, code] start final →
        outcome.1 = .error .connectionRefused)
      ∧ outcome.2.client.pending = session.client.pending
      ∧ outcome.2.client.subscriptions = session.client.subscriptions
      ∧ outcome.2.client.nextPacketId = session.client.nextPacketId := by
  intro outcome start addressed
  have hconnecting : Connecting remote useTls session outcome :=
    connect_connecting remote useTls session
  have haddressed : addressed ↔ ¬ remote.IsUnaddressed := remote.not_isUnaddressed_iff.symm
  refine ⟨?_, hconnecting.success, ?_, ?_, ?_, hconnecting.tables⟩
  · rw [haddressed]
    exact connect_ok_iff remote useTls session
  · rw [haddressed, not_not]
    exact fun h => connect_unaddressed h useTls session
  · intro h fault hfault
    exact hconnecting.failure (haddressed.mp h) hfault
  · intro h octet code final hpos hle hreplies
    exact (connect_of_replies (haddressed.mp h) hreplies rfl).trans (checkConnack_refused hpos hle)

end Opening

/-! ## §8. Scripts. -/

section Script

variable {η : Type}

theorem secures_script (useTls : Bool) (wire ready : Wire) :
    Secures useTls wire ready ↔ (useTls = true → wire.network.tls = .works) ∧ ready = wire := by
  cases useTls with
  | false => exact ⟨fun h => ⟨nofun, h⟩, fun h => h.2⟩
  | true =>
    show (Dialer.hasTls wire = true ∧ Dialer.startTls wire = (.ok (), ready)) ↔ _
    simp only [Dialer.hasTls, Dialer.startTls]
    cases wire.network.tls with
    | absent => simp
    | works => simp [eq_comm]
    | fails fault => simp

/-- **A script replies so** if the network connects and encrypts, the request is within the budget,
and the answer stands in front of what is unread, in chunks of any size. -/
theorem replies_script {client : Client η} {address : String} {useTls : Bool} {answer : Octets}
    {wire : Wire} (htakes : wire.writeChunk ≠ some 0) :
    (∃ final, Replies client address useTls answer wire final)
      ↔ wire.network.refuses = false ∧ (useTls = true → wire.network.tls = .works)
        ∧ wire.accepted client.request = client.request ∧ wire.failsToFlush = false
        ∧ ∃ rest, wire.unread = answer.map .octet ++ rest := by
  constructor
  · rintro ⟨final, dialed, hdial, ready, taken, flushed, hsecures, hrequest, hflush, hgives⟩
    obtain ⟨hrefuses, rfl⟩ := Prod.mk.inj hdial
    obtain ⟨htls, rfl⟩ := (secures_script useTls _ _).mp hsecures
    obtain ⟨hwhole, rfl⟩ := (Wire.takes_iff htakes _).mp hrequest
    obtain ⟨hflushes, rfl⟩ := Prod.mk.inj hflush
    have hdials : (!ready.network.refuses) = true := hrefuses
    have hpushes : (!ready.failsToFlush) = true := hflushes
    have hunread : (ready.spend client.request.length).unread = answer.map .octet ++ final.unread :=
      Wire.unread_of_gives hgives
    exact ⟨by simpa using hdials, htls, hwhole, by simpa using hpushes, _, hunread⟩
  · rintro ⟨hrefuses, htls, hwhole, hflushes, rest, hunread⟩
    have hleft : (wire.spend client.request.length).unread = answer.map .octet ++ rest := hunread
    obtain ⟨final, hgives, -⟩ := Wire.gives_iff.mpr hleft
    refine ⟨final, wire, Prod.ext ?_ rfl, wire, wire.spend client.request.length, _,
      (secures_script useTls wire wire).mpr ⟨htls, rfl⟩,
      (Wire.takes_iff htakes _).mpr ⟨hwhole, rfl⟩, Prod.ext ?_ rfl, hgives⟩
    · show (!wire.network.refuses) = true
      rw [hrefuses]
      rfl
    · show (!wire.failsToFlush) = true
      rw [hflushes]
      rfl

/-- **A session begins on a script** just if the address is good, the network connects and encrypts,
the request is within the budget and can be pushed out, and the answer accepts. -/
theorem connect_ok_script (remote : Remote) (useTls : Bool) (session : Session η Wire)
    (htakes : session.line.platform.writeChunk ≠ some 0) :
    let wire := session.line.platform
    (session.connect remote useTls).1 = .ok ()
      ↔ (remote.host ≠ "" ∧ remote.text.utf8ByteSize ≤ 64)
        ∧ wire.network.refuses = false ∧ (useTls = true → wire.network.tls = .works)
        ∧ wire.accepted session.client.request = session.client.request
        ∧ wire.failsToFlush = false
        ∧ ∃ octet rest, wire.unread = ([0x20, 2, octet, 0] : Octets).map .octet ++ rest := by
  intro wire
  have hstart : session.hangUp.line.platform = wire := by
    unfold hangUp
    dsimp only
    split <;> rfl
  rw [connect_ok_iff, remote.not_isUnaddressed_iff, hstart]
  constructor
  · rintro ⟨haddressed, octet, hreplies⟩
    obtain ⟨hrefuses, htls, hwhole, hflushes, hunread⟩ := (replies_script htakes).mp hreplies
    exact ⟨haddressed, hrefuses, htls, hwhole, hflushes, octet, hunread⟩
  · rintro ⟨haddressed, hrefuses, htls, hwhole, hflushes, octet, hunread⟩
    exact ⟨haddressed, octet,
      (replies_script htakes).mpr ⟨hrefuses, htls, hwhole, hflushes, hunread⟩⟩

end Script

end Session

/-! ## §9. A client that connects again. -/

namespace Specimen

/-- A broker that accepts two sessions and refuses the third; the answers come in pieces, and the
requests are taken in pieces. -/
def chopped : Line Wire where
  platform := {
    inbound := [.chunk [0x20, 2, 0, 0, 0x20], .chunk [2, 7], .chunk [0], .chunk [0x20, 2, 0, 5]]
    writeChunk := some 5
    network := { tls := .works } }

end Specimen

namespace Session

/-- A connected client connects again with encryption, is refused the third time, and then has no
address to connect to. -/
theorem connect_exact_specimen :
    let session := (⟨Specimen.client, Specimen.chopped⟩ : Session Mailbox Wire).run
      [.connect Specimen.broker false]
    let again := session.connect Specimen.broker true
    session.client.holdsConnection = true
      ∧ again.1 = .ok () ∧ again.2.client.phase = .connected
      ∧ (again.2.connect Specimen.broker true).1 = .error .connectionRefused
      ∧ again.2.connect ⟨"", 1883⟩ true = (.error .invalidAddress, again.2) := by
  intro session again
  have hholds : session.client.holdsConnection = true := by decide +kernel
  have haddressed : Specimen.broker.host ≠ "" ∧ Specimen.broker.text.utf8ByteSize ≤ 64 := by
    decide +kernel
  -- the second request is accepted
  have haccepted : ∃ final, Replies session.client Specimen.broker.text true [0x20, 2, 7, 0]
      session.hangUp.line.platform final :=
    (replies_script (by decide +kernel)).mpr ⟨by decide +kernel, by decide +kernel,
      by decide +kernel, by decide +kernel, [0x20, 2, 0, 5].map .octet, by decide +kernel⟩
  obtain ⟨hiff, hsuccess, -⟩ := connect_exact Specimen.broker true session
  have hok : again.1 = .ok () := hiff.mpr ⟨haddressed, 7, haccepted⟩
  -- the third one is refused
  have hrefused : ∃ final, Replies again.2.client Specimen.broker.text true [0x20, 2, 0, 5]
      again.2.hangUp.line.platform final :=
    (replies_script (by decide +kernel)).mpr ⟨by decide +kernel, by decide +kernel,
      by decide +kernel, by decide +kernel, [], by decide +kernel⟩
  obtain ⟨final, hreplies⟩ := hrefused
  obtain ⟨-, -, -, -, hrefusal, -⟩ := connect_exact Specimen.broker true again.2
  obtain ⟨-, -, hunaddressed, -⟩ := connect_exact ⟨"", 1883⟩ true again.2
  exact ⟨hholds, hok, by rw [(hsuccess hok).1],
    hrefusal haddressed 0 5 final (by decide) (by decide) hreplies,
    hunaddressed fun h => h.1 rfl⟩

end Session

end Mqtt

end FieldLink
