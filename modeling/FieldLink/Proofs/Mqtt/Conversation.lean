/-
  FieldLink.Proofs.Mqtt.Conversation
  ────────────────────────────────
  **WHAT IS WRITTEN ON A CONNECTION STAYS FRAMED.**

  A connection carries a request for a session, and then whatever the calls
  of the client write, packet after packet.  Every call that cannot write
  all of a packet closes the connection, so that a packet that was cut
  short is the last thing on it.  `Conversation` reads a log this way, from
  one connection to the next:

      Conversation.carry   — what is written next belongs to the last one
      Conversation.split   — each connection of the log by itself
      apply_conversation   — one operation goes on with it
      run_conversation     — so does every run from a new client
      written_stays_framed — the octets of every connection of a run
-/
import FieldLink.Proofs.Mqtt.Dispatch
import FieldLink.Proofs.Mqtt.Outbound
import FieldLink.Proofs.Mqtt.Sound

namespace FieldLink.Mqtt

/-! ## §1. One connection after another. -/

/-- Packets as they belong on one connection: a client's own, and the first asks for a session. -/
structure Proper (packets : List Octets) : Prop where
  /-- They are complete packets of a client. -/
  outbound : ∀ packet ∈ packets, Packet.IsOutbound packet
  /-- The first one asks for a session. -/
  opening : ∀ first ∈ packets.head?, Packet.IsConnect first

theorem Proper.nil : Proper [] := ⟨nofun, nofun⟩

theorem Proper.connect {packet : Octets} (h : Packet.IsConnect packet) : Proper [packet] := by
  refine ⟨List.forall_mem_singleton.mpr h.isOutbound, ?_⟩
  intro first hfirst
  obtain rfl := Option.some.inj hfirst
  exact h

/-- Behind the request any packets of a client may follow. -/
theorem Proper.append {packets later : List Octets} (h : Proper packets) (hne : packets ≠ [])
    (hlater : ∀ packet ∈ later, Packet.IsOutbound packet) : Proper (packets ++ later) := by
  refine ⟨?_, ?_⟩
  · intro packet hpacket
    rcases List.mem_append.mp hpacket with hmem | hmem
    · exact h.outbound packet hmem
    · exact hlater packet hmem
  · intro first hfirst
    obtain ⟨head, tail, rfl⟩ := List.exists_cons_of_ne_nil hne
    exact h.opening first hfirst

/-- A log, connection by connection; the flag tells whether the last one is still open. -/
inductive Conversation : Bool → List Event → Prop where
  /-- Nothing happened. -/
  | start : Conversation false []
  /-- A connection was refused. -/
  | refused {isOpen : Bool} {address : String} {later : List Event}
      (hlater : Conversation isOpen later) :
      Conversation isOpen (.dialed address false :: later)
  /-- A connection was opened, used and closed. -/
  | ended {isOpen whole worked : Bool} {address : String} {packets : List Octets}
      {events later : List Event} (hwrites : Writes whole packets events)
      (hproper : Proper packets) (hlater : Conversation isOpen later) :
      Conversation isOpen (.dialed address true :: (events ++ .closed worked :: later))
  /-- A connection is open, and all packets have gone out. -/
  | running {address : String} {packets : List Octets} {events : List Event}
      (hwrites : Writes true packets events) (hproper : Proper packets) (hne : packets ≠ []) :
      Conversation true (.dialed address true :: events)

namespace Conversation

variable {isOpen : Bool} {log : List Event}

/-- Where no connection is open another conversation can follow. -/
theorem append {later : List Event} (h : Conversation false log) (h' : Conversation isOpen later) :
    Conversation isOpen (log ++ later) := by
  generalize hfalse : false = closed at h
  induction h with
  | start => exact h'
  | refused _ ih => exact .refused (ih hfalse)
  | ended hwrites hproper _ ih =>
    rw [List.cons_append, List.append_assoc]
    exact .ended hwrites hproper (ih hfalse)
  | running => cases hfalse

/-- Packets that went out whole leave the connection open. -/
theorem carry {packets : List Octets} {events : List Event} (h : Conversation true log)
    (hwrites : Writes true packets events)
    (hout : ∀ packet ∈ packets, Packet.IsOutbound packet) : Conversation true (log ++ events) := by
  generalize htrue : true = opened at h
  induction h with
  | start => cases htrue
  | refused _ ih => exact .refused (ih htrue)
  | ended hwrites' hproper _ ih =>
    rw [List.cons_append, List.append_assoc]
    exact .ended hwrites' hproper (ih htrue)
  | running hwrites' hproper hne =>
    exact .running (hwrites'.append hwrites) (hproper.append hne hout) (by simp [hne])

/-- The connection may be closed behind any packets, also behind one that was cut short. -/
theorem close {whole worked : Bool} {packets : List Octets} {events : List Event}
    (h : Conversation true log) (hwrites : Writes whole packets events)
    (hout : ∀ packet ∈ packets, Packet.IsOutbound packet) :
    Conversation false (log ++ (events ++ [.closed worked])) := by
  generalize htrue : true = opened at h
  induction h with
  | start => cases htrue
  | refused _ ih => exact .refused (ih htrue)
  | ended hwrites' hproper _ ih =>
    rw [List.cons_append, List.append_assoc]
    exact .ended hwrites' hproper (ih htrue)
  | running hwrites' hproper hne =>
    rw [List.cons_append, ← List.append_assoc]
    exact .ended (hwrites'.append hwrites) (hproper.append hne hout) .start

end Conversation

/-! ## §2. Each connection by itself. -/

/-- The stretch up to a closing is told by having no other one in it. -/
theorem stretch_unique {during events rest later : List Event} {worked : Bool}
    (hduring : ∀ worked, .closed worked ∉ during) (hevents : ∀ event ∈ events, event.IsSteady)
    (hrest : rest = [] ∨ ∃ worked later, rest = .closed worked :: later)
    (h : events ++ .closed worked :: later = during ++ rest) :
    during = events ∧ rest = .closed worked :: later := by
  rcases List.append_eq_append_iff.mp h with ⟨between, rfl, hsplit⟩ | ⟨between, rfl, hsplit⟩
  · cases between with
    | nil => exact ⟨List.append_nil _, hsplit.symm⟩
    | cons event between =>
      -- the closing would be inside the stretch
      obtain ⟨rfl, -⟩ := List.cons.inj hsplit
      exact absurd (by simp) (hduring worked)
  · cases between with
    | nil => exact ⟨(List.append_nil _).symm, hsplit⟩
    | cons event between =>
      -- a closing would be among the events of the connection
      rcases hrest with rfl | ⟨worked', later', rfl⟩
      · cases hsplit
      · obtain ⟨rfl, -⟩ := List.cons.inj hsplit
        exact (hevents (.closed worked') (by simp)).elim

/-- **Each connection of a log carries packets as they belong there**, and if the last one was cut
short the connection was closed behind it. -/
theorem Conversation.split {isOpen : Bool} {log : List Event} (h : Conversation isOpen log)
    {before during rest : List Event} {address : String}
    (hlog : log = before ++ .dialed address true :: (during ++ rest))
    (hduring : ∀ worked, .closed worked ∉ during)
    (hrest : rest = [] ∨ ∃ worked later, rest = .closed worked :: later) :
    ∃ whole packets, Writes whole packets during ∧ Proper packets
      ∧ (whole = false → rest ≠ []) := by
  induction h generalizing before with
  | start => simp at hlog
  | refused _ ih =>
    cases before with
    | nil => simp at hlog
    | cons event before => exact ih (List.cons.inj hlog).2
  | ended hwrites hproper _ ih =>
    cases before with
    | nil =>
      obtain ⟨rfl, hrest'⟩ :=
        stretch_unique hduring hwrites.isSteady hrest (List.cons.inj hlog).2
      exact ⟨_, _, hwrites, hproper, fun _ hnil => by rw [hnil] at hrest'; cases hrest'⟩
    | cons event before =>
      -- the connection asked for is a later one
      rcases List.append_eq_append_iff.mp (List.cons.inj hlog).2 with
        ⟨between, rfl, hsplit⟩ | ⟨between, rfl, hsplit⟩
      · cases between with
        | nil => cases hsplit
        | cons event between => exact ih (List.cons.inj hsplit).2
      · cases between with
        | nil => cases hsplit
        | cons event between =>
          obtain ⟨rfl, -⟩ := List.cons.inj hsplit
          exact (hwrites.isSteady (.dialed address true) (by simp)).elim
  | running hwrites hproper hne =>
    cases before with
    | nil =>
      obtain ⟨-, hevents⟩ := List.cons.inj hlog
      rcases hrest with rfl | ⟨worked, later, rfl⟩
      · rw [List.append_nil] at hevents
        rw [← hevents]
        exact ⟨true, _, hwrites, hproper, nofun⟩
      · exact (hwrites.isSteady (.closed worked) (by rw [hevents]; simp)).elim
    | cons event before =>
      exact (hwrites.isSteady (.dialed address true) (by rw [(List.cons.inj hlog).2]; simp)).elim

/-! ## §3. What one operation adds. -/

namespace Session

section Turns

variable {η σ : Type} {session after : Session η σ}

/-- What a stretch of work on a held connection comes to. -/
inductive Turn (session : Session η σ) : Session η σ → Prop where
  /-- Nothing was written and the connection is as before. -/
  | idle {after : Session η σ} (hlog : after.line.events = session.line.events)
      (hholds : after.client.holdsConnection = session.client.holdsConnection) :
      Turn session after
  /-- Packets went out whole. -/
  | wrote {after : Session η σ} {packets : List Octets} {events : List Event}
      (hheld : session.client.holdsConnection = true)
      (hlog : after.line.events = session.line.events ++ events)
      (hholds : after.client.holdsConnection = true) (hwrites : Writes true packets events)
      (hout : ∀ packet ∈ packets, Packet.IsOutbound packet) : Turn session after
  /-- The connection was closed behind them. -/
  | closed {after : Session η σ} {whole worked : Bool} {packets : List Octets}
      {events : List Event} (hheld : session.client.holdsConnection = true)
      (hlog : after.line.events = session.line.events ++ (events ++ [.closed worked]))
      (hholds : after.client.holdsConnection = false) (hwrites : Writes whole packets events)
      (hout : ∀ packet ∈ packets, Packet.IsOutbound packet) : Turn session after

/-- **Such a stretch goes on with the conversation.** -/
theorem Turn.conversation (hturn : Turn session after) {log : List Event}
    (h : Conversation session.client.holdsConnection log) :
    ∃ events, after.line.events = session.line.events ++ events
      ∧ Conversation after.client.holdsConnection (log ++ events) := by
  cases hturn with
  | idle hlog hholds =>
    rw [hlog, hholds]
    exact ⟨[], (List.append_nil _).symm, (List.append_nil log).symm ▸ h⟩
  | wrote hheld hlog hholds hwrites hout =>
    rw [hheld] at h
    rw [hholds]
    exact ⟨_, hlog, h.carry hwrites hout⟩
  | closed hheld hlog hholds hwrites hout =>
    rw [hheld] at h
    rw [hholds]
    exact ⟨_, hlog, h.close hwrites hout⟩

/-- What the tables hold is of no account here. -/
theorem Turn.of_line {other : Session η σ} (hturn : Turn other after)
    (hline : other.line = session.line)
    (hholds : other.client.holdsConnection = session.client.holdsConnection) :
    Turn session after := by
  cases hturn with
  | idle hlog hkept => exact .idle (by rw [hlog, hline]) (hkept.trans hholds)
  | wrote hheld hlog hkept hwrites hout =>
    exact .wrote (hholds.symm.trans hheld) (by rw [hlog, hline]) hkept hwrites hout
  | closed hheld hlog hgone hwrites hout =>
    exact .closed (hholds.symm.trans hheld) (by rw [hlog, hline]) hgone hwrites hout

/-- Packets were written, and the connection has gone if one was cut short. -/
theorem Turn.of_standing {whole : Bool} {packets : List Octets} {events closing : List Event}
    (hheld : session.client.holdsConnection = true)
    (hlog : after.line.events = session.line.events ++ (events ++ closing))
    (hwrites : Writes whole packets events)
    (hout : ∀ packet ∈ packets, Packet.IsOutbound packet)
    (hstanding : Standing after.client closing) (hcut : whole = false → closing ≠ []) :
    Turn session after := by
  generalize hclient : after.client = client at hstanding
  cases hstanding with
  | held hready =>
    rw [List.append_nil] at hlog
    cases whole with
    | false => exact absurd rfl (hcut rfl)
    | true =>
      exact .wrote hheld hlog (hclient ▸ ((Client.isReady_iff _).mp hready).2) hwrites hout
  | gone worked hphase hholds => exact .closed hheld hlog (hclient ▸ hholds) hwrites hout

/-- A packet was sent. -/
theorem Sending.turn {packet : Octets} {outcome : Except Fault Unit × Session η σ}
    (hsending : Sending packet session outcome)
    (hheld : session.client.holdsConnection = true) (hout : Packet.IsOutbound packet) :
    Turn session outcome.2 := by
  have houts := List.forall_mem_singleton.mpr hout
  cases hsending with
  | delivered hlog hsent => exact .wrote hheld hlog hheld (.delivered hsent) houts
  | lost hlog hsent => exact .closed hheld hlog rfl (.interrupted hsent) houts

/-- A poll writes an acknowledgement at most, and then what it sends again. -/
theorem Course.writes_all [MessageHandler η] {timeoutMs : UInt32}
    (course : Course timeoutMs session after) :
    ∃ whole packets,
      Writes whole packets (course.awaited ++ (course.answer ++ (course.handed ++ course.resent)))
        ∧ (∀ packet ∈ packets, Packet.IsOutbound packet)
        ∧ (whole = false → course.closing ≠ []) := by
  have hawaited : Writes true [] course.awaited := by
    obtain ⟨bounded, reads, hawaited, hreads⟩ := course.awaited_eq
    rw [hawaited]
    exact .aside trivial (.asides fun event hevent => (hreads event hevent).isAside)
  have hhanded : Writes true [] course.handed := by
    rcases course.dispatch.handed_cases with hnone | ⟨topic, payload, hhanded⟩
    · rw [hnone]
      exact .done
    · rw [hhanded]
      exact .aside trivial .done
  have hresent : ∀ packet ∈ course.packets, Packet.IsOutbound packet := by
    intro packet hpacket
    obtain ⟨id, pending, -, hbuilt⟩ := course.builds packet hpacket
    exact Packet.publish_isOutbound hbuilt
  rcases course.dispatch.answer_cases with
    ⟨-, hanswer, -⟩ | ⟨message, id, -, -, -, ⟨-, hsent⟩ | ⟨hfalse, hnone, hsent⟩⟩
  · -- nothing was answered
    rw [hanswer]
    exact ⟨_, _, hawaited.append (hhanded.append course.writes), hresent, course.of_cut⟩
  · -- the answer went out, and then come the repetitions
    refine ⟨_, _, hawaited.append ((Writes.delivered hsent).append
      (hhanded.append course.writes)), ?_, course.of_cut⟩
    exact List.forall_mem_cons.mpr ⟨Packet.puback_isOutbound id, hresent⟩
  · -- the answer was cut short, and the poll ends there
    obtain ⟨hnothing, -, hclosing⟩ := course.of_unanswered hfalse
    rw [hnone, hnothing, List.append_nil, List.append_nil]
    exact ⟨_, _, hawaited.append (.interrupted hsent),
      List.forall_mem_singleton.mpr (Packet.puback_isOutbound id), fun _ => hclosing⟩

theorem Publishing.turn {topic : String} {payload : Octets} {retain : Bool} {now : Nat}
    {qos : Qos} {outcome : Except Fault (Option UInt16) × Session η σ}
    (hpublishing : Publishing topic payload retain now session qos outcome)
    (hheld : session.client.holdsConnection = true) : Turn session outcome.2 := by
  cases hpublishing with
  | refused qos fault => exact .idle rfl rfl
  | plain hpacket hsending => exact hsending.turn hheld (Packet.publish_isOutbound hpacket)
  | kept htopic hpayload hpacket htable hlog hsent =>
    exact .wrote hheld hlog hheld (.delivered hsent)
      (List.forall_mem_singleton.mpr (Packet.publish_isOutbound hpacket))
  | lost hpacket hlog hsent =>
    exact .closed hheld hlog rfl (.interrupted hsent)
      (List.forall_mem_singleton.mpr (Packet.publish_isOutbound hpacket))

variable [OctetStream σ]

theorem hangUp_turn (session : Session η σ) : Turn session session.hangUp := by
  by_cases hheld : session.client.holdsConnection = true
  · obtain ⟨worked, hlog⟩ := hangUp_events session hheld
    exact .closed hheld hlog rfl .done nofun
  · have hline : session.hangUp.line = session.line := by
      rw [hangUp, if_neg hheld]
    exact .idle (by rw [hline]) (eq_false_of_ne_true hheld).symm

theorem disconnect_turn (session : Session η σ) : Turn session session.disconnect.2 := by
  unfold disconnect
  split
  · next hheld =>
    -- whether the good-bye goes out or not, the connection is closed behind it
    obtain ⟨whole, events, hlog, hwrites, -⟩ :=
      Line.writeAll_writes Packet.disconnect session.line
    obtain ⟨worked, hclosed⟩ :=
      hangUp_events { session with line := (session.line.writeAll Packet.disconnect).2 } hheld
    rw [hlog, List.append_assoc] at hclosed
    exact .closed hheld hclosed rfl hwrites
      (List.forall_mem_singleton.mpr Packet.disconnect_isOutbound)
  · exact .idle rfl rfl

theorem publish_turn (topic : String) (payload : Octets) (qos : Qos) (retain : Bool) (now : Nat)
    (h : session.client.Sound) :
    Turn session (session.publish topic payload qos retain now).2 := by
  by_cases hready : session.client.isReady = true
  · exact (publish_publishing topic payload qos retain now h.next_ne_zero).turn
      (h.isReady_iff.mp hready)
  · unfold publish
    rw [if_pos hready]
    exact .idle rfl rfl

theorem subscribe_turn (topic : String) (handler : η) (h : session.client.Sound) :
    Turn session (session.subscribe topic handler).2 := by
  by_cases hready : session.client.isReady = true
  · rcases subscribe_cases topic handler session with
      ⟨fault, -, heq⟩ | ⟨key, table, packet, -, -, -, hpacket, hsending⟩
    · rw [heq]
      exact .idle rfl rfl
    · have hheld := h.isReady_iff.mp hready
      exact (hsending.turn hheld (Packet.subscribe_isOutbound hpacket)).of_line rfl rfl
  · unfold subscribe
    rw [if_pos hready]
    exact .idle rfl rfl

theorem unsubscribe_turn (topic : String) (h : session.client.Sound) :
    Turn session (session.unsubscribe topic).2 := by
  by_cases hready : session.client.isReady = true
  · rcases unsubscribe_cases topic session with ⟨fault, -, heq⟩ | ⟨packet, hpacket, hsending⟩
    · rw [heq]
      exact .idle rfl rfl
    · have hheld := h.isReady_iff.mp hready
      exact (hsending.turn hheld (Packet.unsubscribe_isOutbound hpacket)).of_line rfl rfl
  · unfold unsubscribe
    rw [if_pos hready]
    exact .idle rfl rfl

theorem poll_turn [MessageHandler η] (timeoutMs : UInt32) (now : Nat) (h : session.client.Sound) :
    Turn session (session.poll timeoutMs now).2 := by
  by_cases hready : session.client.isReady = true
  · obtain ⟨course⟩ := poll_course timeoutMs now hready
    obtain ⟨whole, packets, hwrites, hout, hcut⟩ := course.writes_all
    refine .of_standing (h.isReady_iff.mp hready) ?_ hwrites hout course.standing hcut
    rw [course.events_eq]
    simp only [List.append_assoc]
  · rw [poll_not_ready timeoutMs now hready]
    exact .idle rfl rfl

end Turns

section Opening

variable {η σ : Type} [Dialer σ]

/-- Encryption is asked for before anything is written. -/
theorem encrypt_asides (useTls : Bool) (line : Line σ) :
    ∃ events, (if useTls then line.startTls else (.ok (), line)).2.events = line.events ++ events
      ∧ ∀ event ∈ events, event.IsAside := by
  split
  · unfold Line.startTls
    split
    · exact ⟨_, Line.events_record _ _, List.forall_mem_singleton.mpr trivial⟩
    · exact ⟨[], (List.append_nil _).symm, nofun⟩
  · exact ⟨[], (List.append_nil _).symm, nofun⟩

variable [OctetStream σ]

/-- **A connection begins with the request for a session**, and goes on only if it went out. -/
theorem handshake_writes (client : Client η) (useTls : Bool) (line : Line σ) :
    ∃ whole packets events, (handshake client useTls line).2.events = line.events ++ events
      ∧ Writes whole packets events ∧ Proper packets
      ∧ ((handshake client useTls line).1 = .ok () → whole = true ∧ packets ≠ []) := by
  obtain ⟨asides, hasides, hquiet⟩ := encrypt_asides useTls line
  unfold handshake
  split
  · next fault line₁ hencrypt =>
    rw [hencrypt] at hasides
    exact ⟨true, [], asides, hasides, .asides hquiet, .nil, nofun⟩
  · next line₁ hencrypt =>
    rw [hencrypt] at hasides
    split
    · exact ⟨true, [], asides, hasides, .asides hquiet, .nil, nofun⟩
    · next packet hpacket =>
      have hproper : Proper [packet] := .connect ⟨_, _, _, hpacket⟩
      obtain ⟨whole, events, hlog, hwrites, hwhole⟩ := Line.writeAll_writes packet line₁
      have hboth := (Writes.asides hquiet).append hwrites
      split
      · next fault line₂ hwrite =>
        rw [hwrite, hasides, List.append_assoc] at hlog
        exact ⟨whole, _, _, hlog, hboth, hproper, nofun⟩
      · next line₂ hwrite =>
        rw [hwrite, hasides, List.append_assoc] at hlog
        obtain rfl := hwhole (by rw [hwrite])
        -- the answer is waited for, which writes nothing
        obtain ⟨reads, hreads, hread, -⟩ := Line.reads_gather 4 line₂
        have hall := hboth.append (Writes.asides fun event hevent => (hread event hevent).isAside)
        rw [List.append_nil] at hall
        have hlog' : (line₂.readExact 4).2.events = line.events ++ (asides ++ events ++ reads) := by
          show (line₂.gather 4).line.events = _
          rw [hreads, hlog, List.append_assoc]
        split
        · next fault line₃ hanswer =>
          rw [hanswer] at hlog'
          exact ⟨true, _, _, hlog', hall, hproper, nofun⟩
        · next octets line₃ hanswer =>
          rw [hanswer] at hlog'
          exact ⟨true, _, _, hlog', hall, hproper, fun _ => ⟨rfl, by simp⟩⟩

/-- Connecting ends the connection before and opens the next one, if it opens any. -/
theorem connect_conversation (remote : Remote) (useTls : Bool) (session : Session η σ)
    {log : List Event} (h : Conversation session.client.holdsConnection log) :
    ∃ events, (session.connect remote useTls).2.line.events = session.line.events ++ events
      ∧ Conversation (session.connect remote useTls).2.client.holdsConnection (log ++ events) := by
  unfold connect
  split
  · exact ⟨[], (List.append_nil _).symm, (List.append_nil log).symm ▸ h⟩
  · next address haddress =>
    obtain ⟨parting, hparting, hapart⟩ := (hangUp_turn session).conversation h
    have hdial := Line.events_dial address session.hangUp.line
    rw [hparting] at hdial
    dsimp only [enter]
    split
    · next line hdialed =>
      rw [hdialed, List.append_assoc] at hdial
      refine ⟨_, hdial, ?_⟩
      rw [← List.append_assoc]
      exact hapart.append (.refused .start)
    · next line hdialed =>
      rw [hdialed] at hdial
      obtain ⟨whole, packets, events, hlog, hwrites, hproper, hok⟩ :=
        handshake_writes { session.hangUp.client with phase := .connecting } useTls line
      rw [hdial, List.append_assoc, List.append_assoc] at hlog
      split
      · next fault line' hshake =>
        have hclosed := Line.events_close line'
        rw [hshake] at hlog
        rw [hlog] at hclosed
        simp only [List.append_assoc] at hclosed
        refine ⟨_, hclosed, ?_⟩
        rw [← List.append_assoc]
        exact hapart.append (.ended hwrites hproper .start)
      · next line' hshake =>
        rw [hshake] at hlog
        obtain ⟨rfl, hne⟩ := hok (by rw [hshake])
        refine ⟨_, hlog, ?_⟩
        rw [← List.append_assoc]
        exact hapart.append (.running hwrites hproper hne)

end Opening

/-! ## §4. What a run adds. -/

variable {η σ : Type} [OctetStream σ] [Dialer σ] [MessageHandler η]

/-- **One operation goes on with the conversation.** -/
theorem apply_conversation (session : Session η σ) (operation : Operation η σ)
    (hsound : session.client.Sound) {log : List Event}
    (h : Conversation session.client.holdsConnection log) :
    ∃ events, (session.apply operation).2.line.events = session.line.events ++ events
      ∧ Conversation (session.apply operation).2.client.holdsConnection (log ++ events) := by
  cases operation with
  | connect remote useTls => exact connect_conversation remote useTls session h
  | disconnect => exact (disconnect_turn session).conversation h
  | publish topic payload qos retain now =>
    exact (publish_turn topic payload qos retain now hsound).conversation h
  | subscribe topic handler => exact (subscribe_turn topic handler hsound).conversation h
  | unsubscribe topic => exact (unsubscribe_turn topic hsound).conversation h
  | adjust topic change => exact (Turn.idle rfl rfl).conversation h
  | poll timeoutMs now => exact (poll_turn timeoutMs now hsound).conversation h
  | outside change => exact (Turn.idle rfl rfl).conversation h

/-- **Every run from a new client is a conversation.** -/
theorem run_conversation {options : Options} {client : Client η}
    (h : Client.ofOptions options = .ok client) (line : Line σ)
    (operations : List (Operation η σ)) :
    let reached := (⟨client, line⟩ : Session η σ).run operations
    ∃ events, reached.line.events = line.events ++ events
      ∧ Conversation reached.client.holdsConnection events := by
  have hstart : client.holdsConnection = false := by
    unfold Client.ofOptions at h
    split at h
    · obtain rfl := Except.ok.inj h
      rfl
    · cases h
  -- the invariant of the client goes along, since what is written depends on it
  refine (Endpoint.run_induction (motive := fun session : Session η σ => session.client.Sound
    ∧ ∃ events, session.line.events = line.events ++ events
      ∧ Conversation session.client.holdsConnection events) ?_ ⟨.ofOptions h, [], ?_, ?_⟩
    operations).2
  · intro session operation hsession
    obtain ⟨hsound, log, hlog, hconversation⟩ := hsession
    obtain ⟨events, hevents, hafter⟩ :=
      apply_conversation session operation hsound hconversation
    refine ⟨apply_sound session operation hsound, log ++ events, ?_, hafter⟩
    exact hevents.trans (by rw [hlog, List.append_assoc])
  · exact (List.append_nil _).symm
  · show Conversation client.holdsConnection []
    rw [hstart]
    exact .start

end Session

/-! ## §5. The octets of a connection. -/

/-- **What is written on a connection stays framed**, in every run from a new client and whatever
the platform does.  From the opening of a connection to its close, or so far if it is still open,
the octets that were taken are complete packets of a client, the first of which asks for a session.
A part of one more packet can follow only if its write failed; it is the last thing that happened
on the connection, and the connection was closed. -/
theorem written_stays_framed {η σ : Type} [OctetStream σ] [Dialer σ] [MessageHandler η]
    {options : Options} {client : Client η} (h : Client.ofOptions options = .ok client)
    (line : Line σ) (operations : List (Operation η σ)) :
    ∃ events, ((⟨client, line⟩ : Session η σ).run operations).line.events = line.events ++ events
      ∧ ∀ before address during rest,
        events = before ++ .dialed address true :: (during ++ rest) →
        (∀ worked, .closed worked ∉ during) →
        (rest = [] ∨ ∃ worked later, rest = .closed worked :: later) →
        ∃ (packets : List Octets) (part : Octets),
          Traffic.sent during = packets.flatten ++ part
          ∧ (∀ packet ∈ packets, Packet.IsOutbound packet)
          ∧ (∀ first ∈ packets.head?, Packet.IsConnect first)
          ∧ (part = [] ∨ ∃ packet front back, Packet.IsOutbound packet
            ∧ (packets = [] → Packet.IsConnect packet)
            ∧ during = front ++ back ∧ Traffic.sent front = packets.flatten
            ∧ CutShort packet part back ∧ ∃ worked later, rest = .closed worked :: later) := by
  obtain ⟨events, hlog, hconversation⟩ := Session.run_conversation h line operations
  refine ⟨events, hlog, ?_⟩
  intro before address during rest hsplit hduring hrest
  obtain ⟨whole, packets, hwrites, hproper, hcut⟩ := hconversation.split hsplit hduring hrest
  obtain ⟨complete, part, hsent, ⟨rfl, hnone⟩ |
    ⟨hwhole, packet, front, back, rfl, hboth, hfront, hback⟩⟩ := hwrites.sent_parts
  · exact ⟨complete, part, hsent, hproper.outbound, hproper.opening, .inl hnone⟩
  · -- the packet that was cut short is a client's own like those before it
    have hlast : Packet.IsOutbound packet := hproper.outbound packet (by simp)
    have hclosed := hrest.resolve_left (hcut hwhole)
    refine ⟨complete, part, hsent, ?_, ?_, .inr ⟨packet, front, back, hlast, ?_, hboth, hfront,
      hback, hclosed⟩⟩
    · intro other hother
      exact hproper.outbound other (List.mem_append_left _ hother)
    · intro first hfirst
      exact hproper.opening first (by rw [List.head?_append, hfirst]; rfl)
    · rintro rfl
      exact hproper.opening packet rfl

namespace Specimen

/-- A platform that accepts the session and then takes three octets of a message. -/
def narrow : Line Wire where
  platform := { inbound := [.chunk [0x20, 2, 0, 0]], writeBudget := some 22 }

/-- What happens on it. -/
def cutting : List Event :=
  [.sent [0x10, 17, 0, 4, 77, 81, 84, 84, 4, 2, 0, 60, 0, 5, 109, 101, 116, 101, 114],
    .flushed true, .received [0x20, 2, 0, 0], .sent [0x30, 4, 0], .writeFailed]

end Specimen

/-- The message is cut short behind the request for a session. -/
theorem written_stays_framed_specimen :
    let start : Session Mailbox Wire := ⟨Specimen.client, Specimen.narrow⟩
    Client.ofOptions Specimen.options = .ok Specimen.client
      ∧ (start.run [.connect Specimen.broker false, .publish "a" [1] .atMostOnce false 0]).line.events
        = .dialed "broker:1883" true :: (Specimen.cutting ++ [.closed true])
      ∧ ∃ (packets : List Octets) (part : Octets),
        Traffic.sent Specimen.cutting = packets.flatten ++ part
        ∧ (∀ packet ∈ packets, Packet.IsOutbound packet)
        ∧ ∀ first ∈ packets.head?, Packet.IsConnect first := by
  intro start
  have hrun : (start.run [.connect Specimen.broker false,
      .publish "a" [1] .atMostOnce false 0]).line.events
      = .dialed "broker:1883" true :: (Specimen.cutting ++ [.closed true]) := by
    decide +kernel
  obtain ⟨events, hlog, hframed⟩ := written_stays_framed Specimen.ofOptions_eq Specimen.narrow
    [.connect Specimen.broker false, .publish "a" [1] .atMostOnce false 0]
  have hevents : events = .dialed "broker:1883" true :: (Specimen.cutting ++ [.closed true]) :=
    hlog.symm.trans hrun
  obtain ⟨packets, part, hsent, hout, hopening, -⟩ :=
    hframed [] "broker:1883" Specimen.cutting [.closed true] hevents (by decide)
      (.inr ⟨true, [], rfl⟩)
  exact ⟨Specimen.ofOptions_eq, hrun, packets, part, hsent, hout, hopening⟩

end FieldLink.Mqtt
