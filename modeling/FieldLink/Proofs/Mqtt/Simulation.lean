/-
  FieldLink.Proofs.Mqtt.Simulation
  ────────────────────────────────
  **THE SAME CLIENT ON LINES THAT IT CANNOT TELL APART.**

  A client goes through its line transfer by transfer, and what it does
  next depends on their results alone.  So one client on two related lines
  does the same on both, call after call, and stays one client:

      receive_agree  — what is found on the stream
      handle_agree   — what is done about it
      resend_agree   — what is sent again
      apply_agree    — one operation
-/
import FieldLink.Proofs.Line.Simulation
import FieldLink.Proofs.Mqtt.History

namespace FieldLink.Mqtt

/-! ## §1. What comes in. -/

namespace Inbound

variable {σ : Type} [OctetStream σ] [Dialer σ] {same : σ → σ → Prop} {ρ : Line σ → Line σ → Prop}

theorem receiveLength_agree (hsim : Simulation same ρ) (more : Nat) (field : Octets)
    {line line' : Line σ} (h : ρ line line') :
    Agree ρ (receiveLength more field line) (receiveLength more field line') := by
  -- the field read so far is the same, and so it ends on both lines or on neither
  induction more generalizing field line line' with
  | zero =>
    unfold receiveLength
    rcases RemainingLength.decode field with fault | - | ⟨length, used⟩
    · exact .intro _ h
    · exact .intro _ h
    · exact .intro _ h
  | succ more ih =>
    unfold receiveLength
    rcases RemainingLength.decode field with fault | - | ⟨length, used⟩
    · exact .intro _ h
    · obtain ⟨result, rest, rest', hread, hread', hrest⟩ := hsim.readExact 1 h
      dsimp only
      rw [hread, hread']
      cases result with
      | error fault => exact .intro _ hrest
      | ok octets => exact ih (field ++ octets) hrest
    · exact .intro _ h

theorem discard_agree (hsim : Simulation same ρ) (length : Nat) {line line' : Line σ}
    (h : ρ line line') : Agree ρ (discard length line) (discard length line') := by
  -- induction on what is still to be skipped, chunk by chunk
  induction length using Nat.strongRecOn generalizing line line' with
  | ind length ih =>
    rw [discard, discard]
    by_cases hzero : length = 0
    · rw [if_pos hzero, if_pos hzero]
      exact .intro _ h
    · rw [if_neg hzero, if_neg hzero]
      obtain ⟨result, rest, rest', hread, hread', hrest⟩ :=
        hsim.readExact (min length discardChunk) h
      rw [hread, hread']
      cases result with
      | error fault => exact .intro _ hrest
      | ok octets =>
        have hsize : discardChunk = 64 := rfl
        exact ih (length - min length discardChunk) (by omega) hrest

theorem receiveBody_agree (hsim : Simulation same ρ) (header first : UInt8)
    {line line' : Line σ} (h : ρ line line') :
    Agree ρ (receiveBody header first line) (receiveBody header first line') := by
  unfold receiveBody
  obtain ⟨result, rest, rest', hlength, hlength', hrest⟩ :=
    receiveLength_agree hsim (RemainingLength.maxOctets - 1) [first] h
  rw [hlength, hlength']
  cases result with
  | error fault => exact .intro _ hrest
  | ok length =>
    dsimp only
    by_cases hlong : maxPacketLength < length
    · rw [if_pos hlong, if_pos hlong]
      obtain ⟨result, rest, rest', hskip, hskip', hrest⟩ := discard_agree hsim length hrest
      rw [hskip, hskip']
      cases result with
      | error fault => exact .intro _ hrest
      | ok done => exact .intro _ hrest
    · rw [if_neg hlong, if_neg hlong]
      obtain ⟨result, rest, rest', hread, hread', hrest⟩ := hsim.readExact length hrest
      rw [hread, hread']
      cases result with
      | error fault => exact .intro _ hrest
      | ok body => exact .intro _ hrest

/-- **What is found on the stream is the same.** -/
theorem receive_agree (hsim : Simulation same ρ) (timeoutMs : UInt32) {line line' : Line σ}
    (h : ρ line line') : Agree ρ (receive timeoutMs line) (receive timeoutMs line') := by
  unfold receive
  obtain ⟨bounded, rest, rest', hwait, hwait', hrest⟩ := hsim.setTimeout timeoutMs h
  rw [hwait, hwait']
  cases bounded with
  | false => exact .intro _ hrest
  | true =>
    obtain ⟨result, rest, rest', hread, hread', hrest⟩ := hsim.readExact 2 hrest
    dsimp only
    rw [hread, hread']
    rcases result with fault | - | ⟨header, - | ⟨first, - | ⟨octet, octets⟩⟩⟩
    · cases fault <;> exact .intro _ hrest
    · exact .intro _ hrest
    · exact .intro _ hrest
    · exact receiveBody_agree hsim header first hrest
    · exact .intro _ hrest

end Inbound

/-! ## §2. Calls. -/

namespace Session

/-- One client on two related lines. -/
inductive Alike {η σ : Type} (ρ : Line σ → Line σ → Prop) :
    Session η σ → Session η σ → Prop where
  /-- The client is the same. -/
  | intro (client : Client η) {line line' : Line σ} (h : ρ line line') :
      Alike ρ ⟨client, line⟩ ⟨client, line'⟩

variable {η σ : Type} {ρ : Line σ → Line σ → Prop} {session session' : Session η σ}

theorem Alike.client_eq (h : Alike ρ session session') : session.client = session'.client := by
  cases h
  rfl

/-- An acknowledgement is the client's business alone. -/
theorem handleAcknowledgement_agree (body : Octets) (h : Alike ρ session session') :
    Agree (Alike ρ) (session.handleAcknowledgement body)
      (session'.handleAcknowledgement body) := by
  unfold handleAcknowledgement
  split
  · cases h with
    | intro client hline => exact .intro _ (.intro _ hline)
  · exact .intro _ h

section Calls

variable [OctetStream σ] [Dialer σ] {same : σ → σ → Prop}

theorem hangUp_agree (hsim : Simulation same ρ) (h : Alike ρ session session') :
    Alike ρ session.hangUp session'.hangUp := by
  cases h with
  | intro client hline =>
    unfold hangUp
    by_cases hholds : client.holdsConnection = true
    · rw [if_pos hholds, if_pos hholds]
      exact .intro _ (hsim.close hline)
    · rw [if_neg hholds, if_neg hholds]
      exact .intro _ hline

theorem lose_agree {α : Type} (hsim : Simulation same ρ) (fault : Fault)
    (h : Alike ρ session session') :
    Agree (Alike ρ) (session.lose fault : Except Fault α × Session η σ) (session'.lose fault) :=
  .intro _ (hangUp_agree hsim h)

theorem handshake_agree (hsim : Simulation same ρ) (client : Client η) (useTls : Bool)
    {line line' : Line σ} (h : ρ line line') :
    Agree ρ (handshake client useTls line) (handshake client useTls line') := by
  unfold handshake
  have hencrypted : Agree ρ (if useTls then line.startTls else (.ok (), line))
      (if useTls then line'.startTls else (.ok (), line')) := by
    cases useTls with
    | false => exact .intro _ h
    | true => exact hsim.startTls h
  obtain ⟨result, rest, rest', hencrypt, hencrypt', hrest⟩ := hencrypted
  rw [hencrypt, hencrypt']
  cases result with
  | error fault => exact .intro _ hrest
  | ok done =>
    dsimp only
    cases Packet.connect client.clientId client.keepAliveSeconds client.cleanSession with
    | error fault => exact .intro _ hrest
    | ok packet =>
      obtain ⟨result, rest, rest', hwrite, hwrite', hrest⟩ := hsim.writeAll packet hrest
      dsimp only
      rw [hwrite, hwrite']
      cases result with
      | error fault => exact .intro _ hrest
      | ok done =>
        obtain ⟨result, rest, rest', hread, hread', hrest⟩ := hsim.readExact 4 hrest
        dsimp only
        rw [hread, hread']
        cases result with
        | error fault => exact .intro _ hrest
        | ok octets => exact .intro _ hrest

theorem connect_agree (hsim : Simulation same ρ) (remote : Remote) (useTls : Bool)
    (h : Alike ρ session session') :
    Agree (Alike ρ) (session.connect remote useTls) (session'.connect remote useTls) := by
  unfold connect
  cases remote.address with
  | error fault => exact .intro _ h
  | ok address =>
    have hgone := hangUp_agree hsim h
    generalize session.hangUp = gone, session'.hangUp = gone' at hgone
    cases hgone with
    | intro client hline =>
      obtain ⟨worked, rest, rest', hdial, hdial', hrest⟩ := hsim.dial address hline
      dsimp only [enter]
      rw [hdial, hdial']
      cases worked with
      | false => exact .intro _ (.intro _ hrest)
      | true =>
        obtain ⟨result, rest, rest', hshake, hshake', hrest⟩ :=
          handshake_agree hsim { client with phase := .connecting } useTls hrest
        dsimp only
        rw [hshake, hshake']
        cases result with
        | error fault => exact .intro _ (.intro _ (hsim.close hrest))
        | ok done => exact .intro _ (.intro _ hrest)

theorem disconnect_agree (hsim : Simulation same ρ) (h : Alike ρ session session') :
    Agree (Alike ρ) session.disconnect session'.disconnect := by
  cases h with
  | intro client hline =>
    unfold disconnect
    by_cases hholds : client.holdsConnection = true
    · rw [if_pos hholds, if_pos hholds]
      obtain ⟨result, rest, rest', hwrite, hwrite', hrest⟩ := hsim.writeAll Packet.disconnect hline
      dsimp only
      rw [hwrite, hwrite']
      exact .intro _ (hangUp_agree hsim (.intro _ hrest))
    · rw [if_neg hholds, if_neg hholds]
      exact .intro _ (.intro _ hline)

theorem send_agree (hsim : Simulation same ρ) (packet : Octets) (h : Alike ρ session session') :
    Agree (Alike ρ) (session.send packet) (session'.send packet) := by
  cases h with
  | intro client hline =>
    unfold send
    by_cases hholds : client.holdsConnection = true
    · rw [if_pos hholds, if_pos hholds]
      obtain ⟨result, rest, rest', hwrite, hwrite', hrest⟩ := hsim.writeAll packet hline
      dsimp only
      rw [hwrite, hwrite']
      cases result with
      | error fault => exact lose_agree hsim fault (.intro client hrest)
      | ok done => exact .intro _ (.intro _ hrest)
    · rw [if_neg hholds, if_neg hholds]
      exact .intro _ (.intro _ hline)

theorem publish_agree (hsim : Simulation same ρ) (topic : String) (payload : Octets) (qos : Qos)
    (retain : Bool) (now : Nat) (h : Alike ρ session session') :
    Agree (Alike ρ) (session.publish topic payload qos retain now)
      (session'.publish topic payload qos retain now) := by
  unfold publish
  rw [← h.client_eq]
  by_cases hready : ¬ session.client.isReady
  · rw [if_pos hready, if_pos hready]
    exact .intro _ h
  · rw [if_neg hready, if_neg hready]
    by_cases hargs : ¬ isTopic topic ∨ maxPayloadLength < payload.length
    · rw [if_pos hargs, if_pos hargs]
      exact .intro _ h
    · rw [if_neg hargs, if_neg hargs]
      cases qos with
      | atMostOnce =>
        dsimp only
        cases Packet.publish topic payload .atMostOnce retain none with
        | error fault => exact .intro _ h
        | ok packet =>
          obtain ⟨result, rest, rest', hsend, hsend', hrest⟩ := send_agree hsim packet h
          dsimp only
          rw [hsend, hsend']
          cases result with
          | error fault => exact .intro _ hrest
          | ok done => exact .intro _ hrest
      | atLeastOnce =>
        dsimp only
        by_cases hfull : session.client.pending.isFull = true
        · rw [if_pos hfull, if_pos hfull]
          exact .intro _ h
        · rw [if_neg hfull, if_neg hfull]
          cases h with
          | intro client hline =>
            dsimp only [allocate]
            cases Packet.publish topic payload .atLeastOnce retain (some client.allocate.1) with
            | error fault => exact .intro _ (.intro _ hline)
            | ok packet =>
              have hallocated : Alike ρ (⟨client.allocate.2, _⟩ : Session η σ) ⟨_, _⟩ :=
                .intro client.allocate.2 hline
              obtain ⟨result, rest, rest', hsend, hsend', hrest⟩ :=
                send_agree hsim packet hallocated
              dsimp only
              cases Pending.copy? topic payload retain now with
              | none => exact .intro _ hallocated
              | some entry =>
                dsimp only
                rw [hsend, hsend']
                cases result with
                | error fault => exact .intro _ hrest
                | ok done =>
                  dsimp only
                  rw [← hrest.client_eq]
                  cases rest.client.pending.insert? client.allocate.1 entry with
                  | none => exact .intro _ hrest
                  | some table =>
                    cases hrest with
                    | intro client' hline' => exact .intro _ (.intro _ hline')
      | exactlyOnce => exact .intro _ h

theorem sendNumbered_agree (hsim : Simulation same ρ) (build : UInt16 → Except Fault Octets)
    (h : Alike ρ session session') :
    Agree (Alike ρ) (session.sendNumbered build) (session'.sendNumbered build) := by
  cases h with
  | intro client hline =>
    dsimp only [sendNumbered, allocate]
    cases build client.allocate.1 with
    | error fault => exact .intro _ (.intro _ hline)
    | ok packet => exact send_agree hsim packet (.intro client.allocate.2 hline)

theorem subscribe_agree (hsim : Simulation same ρ) (topic : String) (handler : η)
    (h : Alike ρ session session') :
    Agree (Alike ρ) (session.subscribe topic handler) (session'.subscribe topic handler) := by
  unfold subscribe
  rw [← h.client_eq]
  by_cases hready : ¬ session.client.isReady
  · rw [if_pos hready, if_pos hready]
    exact .intro _ h
  · rw [if_neg hready, if_neg hready]
    by_cases htopic : ¬ isTopic topic
    · rw [if_pos htopic, if_pos htopic]
      exact .intro _ h
    · rw [if_neg htopic, if_neg htopic]
      cases Topic.ofText? topic with
      | none => exact .intro _ h
      | some key =>
        dsimp only
        cases session.client.subscriptions.insert? key handler with
        | none => exact .intro _ h
        | some table =>
          cases h with
          | intro client hline => exact sendNumbered_agree hsim _ (.intro _ hline)

theorem unsubscribe_agree (hsim : Simulation same ρ) (topic : String)
    (h : Alike ρ session session') :
    Agree (Alike ρ) (session.unsubscribe topic) (session'.unsubscribe topic) := by
  unfold unsubscribe
  rw [← h.client_eq]
  by_cases hready : ¬ session.client.isReady
  · rw [if_pos hready, if_pos hready]
    exact .intro _ h
  · rw [if_neg hready, if_neg hready]
    by_cases htopic : ¬ isTopic topic
    · rw [if_pos htopic, if_pos htopic]
      exact .intro _ h
    · rw [if_neg htopic, if_neg htopic]
      cases h with
      | intro client hline => exact sendNumbered_agree hsim _ (.intro _ hline)

/-- **What is sent again is the same**, up to the same failure. -/
theorem resend_agree (hsim : Simulation same ρ) (now : Nat) (entries : List (UInt16 × Pending))
    {line line' : Line σ} (h : ρ line line') :
    ∃ ids round rest rest', resend now entries line = (ids, round, rest)
      ∧ resend now entries line' = (ids, round, rest') ∧ ρ rest rest' := by
  induction entries generalizing line line' with
  | nil => exact ⟨[], .complete, line, line', rfl, rfl, h⟩
  | cons entry entries ih =>
    obtain ⟨id, pending⟩ := entry
    rw [resend, resend]
    by_cases hdue : pending.isOverdue now = true
    · rw [if_pos hdue, if_pos hdue]
      cases pending.packet id with
      | error fault => exact ⟨_, _, _, _, rfl, rfl, h⟩
      | ok packet =>
        obtain ⟨result, rest, rest', hwrite, hwrite', hrest⟩ := hsim.writeAll packet h
        dsimp only
        rw [hwrite, hwrite']
        cases result with
        | error fault => exact ⟨_, _, _, _, rfl, rfl, hrest⟩
        | ok done =>
          obtain ⟨ids, round, rest, rest', hlater, hlater', hrest⟩ := ih hrest
          dsimp only
          rw [hlater, hlater']
          exact ⟨_, _, _, _, rfl, rfl, hrest⟩
    · rw [if_neg hdue, if_neg hdue]
      exact ih h

theorem resendOverdue_agree (hsim : Simulation same ρ) (now : Nat)
    (h : Alike ρ session session') :
    Agree (Alike ρ) (session.resendOverdue now) (session'.resendOverdue now) := by
  cases h with
  | intro client hline =>
    obtain ⟨ids, round, rest, rest', hresend, hresend', hrest⟩ :=
      resend_agree hsim now client.pending.entries hline
    unfold resendOverdue
    dsimp only
    rw [hresend, hresend']
    cases round with
    | complete => exact .intro _ (.intro _ hrest)
    | unbuilt fault => exact .intro _ (.intro _ hrest)
    | unsent fault => exact lose_agree hsim fault (.intro _ hrest)

section Polling

variable [MessageHandler η]

theorem deliver_agree (hsim : Simulation same ρ) (message : Message)
    (h : Alike ρ session session') :
    Alike ρ (session.deliver message) (session'.deliver message) := by
  cases h with
  | intro client hline =>
    unfold deliver
    by_cases hknown : client.subscriptions.contains message.topic = true
    · rw [if_pos hknown, if_pos hknown]
      exact .intro _ (hsim.record _ hline)
    · rw [if_neg hknown, if_neg hknown]
      exact .intro _ hline

theorem handleMessage_agree (hsim : Simulation same ρ) (message : Message)
    (h : Alike ρ session session') :
    Agree (Alike ρ) (session.handleMessage message) (session'.handleMessage message) := by
  unfold handleMessage
  split
  · exact .intro _ h
  · next id hqos hid =>
    obtain ⟨result, rest, rest', hsend, hsend', hrest⟩ := send_agree hsim (Packet.puback id) h
    rw [hsend, hsend']
    cases result with
    | error fault => exact .intro _ hrest
    | ok done => exact .intro _ (deliver_agree hsim message hrest)
  · exact .intro _ (deliver_agree hsim message h)

/-- **What is done about it is the same.** -/
theorem handle_agree (hsim : Simulation same ρ) (inbound : Inbound) (h : Alike ρ session session') :
    Agree (Alike ρ) (handle inbound session) (handle inbound session') := by
  cases inbound with
  | silence => exact .intro _ h
  | oversized header length => exact .intro _ h
  | broken fault => exact lose_agree hsim fault h
  | packet header body =>
    unfold handle
    dsimp only
    by_cases hmessage : Packet.kind header = Packet.kind Packet.publishHeader
    · rw [if_pos hmessage, if_pos hmessage]
      cases Message.parse (header &&& 0x0F) body with
      | error fault => exact .intro _ h
      | ok message => exact handleMessage_agree hsim message h
    · rw [if_neg hmessage, if_neg hmessage]
      by_cases hack : Packet.kind header = Packet.kind Packet.pubackHeader
      · rw [if_pos hack, if_pos hack]
        exact handleAcknowledgement_agree body h
      · rw [if_neg hack, if_neg hack]
        exact .intro _ h

theorem poll_agree (hsim : Simulation same ρ) (timeoutMs : UInt32) (now : Nat)
    (h : Alike ρ session session') :
    Agree (Alike ρ) (session.poll timeoutMs now) (session'.poll timeoutMs now) := by
  cases h with
  | intro client hline =>
    unfold poll
    by_cases hready : ¬ client.isReady
    · rw [if_pos hready, if_pos hready]
      exact .intro _ (.intro _ hline)
    · rw [if_neg hready, if_neg hready]
      obtain ⟨inbound, rest, rest', hreceive, hreceive', hrest⟩ :=
        Inbound.receive_agree hsim timeoutMs hline
      dsimp only
      rw [hreceive, hreceive']
      obtain ⟨result, after, after', hhandle, hhandle', hafter⟩ :=
        handle_agree hsim inbound (.intro client hrest)
      dsimp only
      rw [hhandle, hhandle']
      dsimp only
      rw [← hafter.client_eq]
      by_cases hconnected : after.client.isConnected = true
      · rw [if_pos hconnected, if_pos hconnected]
        obtain ⟨result', rest, rest', hresend, hresend', hrest⟩ :=
          resendOverdue_agree hsim now hafter
        rw [hresend, hresend']
        cases result' with
        | error fault => exact .intro _ hrest
        | ok done => exact .intro _ hrest
      · rw [if_neg hconnected, if_neg hconnected]
        exact .intro _ hafter

end Polling

end Calls

end Session

/-! ## §3. Operations. -/

/-- The same operation on both platforms, or changes that keep what has to be the same. -/
inductive Operation.Alike {η σ : Type} (same : σ → σ → Prop) :
    Operation η σ → Operation η σ → Prop where
  /-- A call with the same arguments. -/
  | call {operation : Operation η σ} (h : ∀ change, operation ≠ .outside change) :
      Operation.Alike same operation operation
  /-- Changes of the platforms. -/
  | outside {change change' : σ → σ}
      (h : ∀ {state state'}, same state state' → same (change state) (change' state')) :
      Operation.Alike same (.outside change) (.outside change')

namespace Session

variable {η σ : Type} {ρ : Line σ → Line σ → Prop} {session session' : Session η σ}

theorem replying_agree {α : Type} (reply : α → Reply)
    {outcome outcome' : Except Fault α × Session η σ} (h : Agree (Alike ρ) outcome outcome') :
    Agree (Alike ρ) (replying reply outcome) (replying reply outcome') := by
  obtain ⟨result, rest, rest', rfl, rfl, hrest⟩ := h
  exact .intro _ hrest

variable [OctetStream σ] [Dialer σ] [MessageHandler η] {same : σ → σ → Prop}

/-- **One operation does the same on both lines.** -/
theorem apply_agree (hsim : Simulation same ρ) {operation operation' : Operation η σ}
    (hoperation : operation.Alike same operation') (h : Alike ρ session session') :
    Agree (Alike ρ) (session.apply operation) (session'.apply operation') := by
  cases hoperation with
  | outside hchange =>
    cases h with
    | intro client hline => exact .intro _ (.intro _ (hsim.change hchange hline))
  | call hcall =>
    cases operation with
    | connect remote useTls => exact replying_agree _ (connect_agree hsim remote useTls h)
    | disconnect => exact replying_agree _ (disconnect_agree hsim h)
    | publish topic payload qos retain now =>
      exact replying_agree _ (publish_agree hsim topic payload qos retain now h)
    | subscribe topic handler => exact replying_agree _ (subscribe_agree hsim topic handler h)
    | unsubscribe topic => exact replying_agree _ (unsubscribe_agree hsim topic h)
    | adjust topic change =>
      cases h with
      | intro client hline => exact .intro _ (.intro _ hline)
    | poll timeoutMs now => exact replying_agree _ (poll_agree hsim timeoutMs now h)
    | outside change => exact absurd rfl (hcall change)

end Session

end FieldLink.Mqtt
