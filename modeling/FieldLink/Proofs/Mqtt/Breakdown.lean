/-
  FieldLink.Proofs.Mqtt.Breakdown
  ────────────────────────────────
  **WHEN A CLIENT GIVES ITS CONNECTION UP.**

  A call has two ways to treat the connection that it found open.  It keeps
  it, and any fault that it reports is of the peer's or the caller's making;
  or it closes it once, and the fault is that of a stream that broke.  One
  cause stands on both sides: a violation of the protocol costs the
  connection if the length field of a packet never ends, and only then.
  A poll can meet a cause in each of its halves, and reports the one that
  cost the connection:

      receive_broken    — why the stream could not be used any more
      Handling.conduct  — what becomes of the packet that came in
      Resending.conduct — what becomes of what is overdue
      poll_conduct      — both halves together
      call_conduct      — every call on an open connection
      failure_policy    — results, closings and calls without a connection
-/
import FieldLink.Proofs.Line.Failure
import FieldLink.Proofs.Mqtt.Dispatch
import FieldLink.Proofs.Mqtt.Sound

namespace FieldLink.Mqtt

/-! ## §1. Why a stream breaks. -/

/-- A header octet, and behind it a length field that should have ended by now. -/
def Overlong (octets : Octets) : Prop :=
  ∃ header field, octets = header :: field ∧ field.length = RemainingLength.maxOctets
    ∧ RemainingLength.IsOpen field

theorem Overlong.unfinished {octets : Octets} (h : Overlong octets) : Unfinished octets := by
  obtain ⟨header, field, rfl, -, hopen⟩ := h
  exact unfinished_of_isOpen header hopen

/-- What came in with these octets broke the stream, for this cause. -/
def Breaks (octets : Octets) (fault : Fault) : Prop :=
  fault.IsLoss ∨ fault = .protocolViolation ∧ Overlong octets

namespace Inbound

open RemainingLength

variable {σ : Type} [OctetStream σ]

/-- Within a packet every reader that gave up met a broken stream. -/
theorem withinPacket_isLoss {need : Nat} {reads : List Event} {fault : Fault}
    (h : GaveUp need reads fault) : (withinPacket fault).IsLoss := by
  by_cases hfault : fault = .timedOut
  · subst hfault
    trivial
  · have hsame : withinPacket fault = fault := by
      unfold withinPacket
      split
      · exact absurd rfl hfault
      · rfl
    rw [hsame]
    exact h.isLoss hfault

/-- A length field that is given up has not ended. -/
theorem receiveLength_unended {marked : Octets} {last : UInt8} {more : Nat} {line line' : Line σ}
    {fault : Fault} (hopen : IsOpen marked) (hlength : marked.length + 1 ≤ maxOctets)
    (h : receiveLength more (marked ++ [last]) line = (.error fault, line')) :
    IsOpen (marked ++ [last]) := by
  refine hopen.concat fun hlast => ?_
  have hfield : IsField (marked ++ [last]) := by
    refine ⟨?_, marked, last, rfl, hopen, hlast⟩
    rw [List.length_append, List.length_singleton]
    omega
  rw [receiveLength_isField hfield] at h
  cases h

/-- **A length field is given up if the stream broke, or if it did not end in four octets.** -/
theorem receiveLength_broken (marked : Octets) (last : UInt8) (more : Nat) (hopen : IsOpen marked)
    (hmore : marked.length + 1 + more = maxOctets) {line line' : Line σ} {fault : Fault}
    (h : receiveLength more (marked ++ [last]) line = (.error fault, line')) :
    fault.IsLoss ∨ fault = .protocolViolation ∧ ∃ rest, line.Reads line' rest
      ∧ (marked ++ [last] ++ rest).length = maxOctets ∧ IsOpen (marked ++ [last] ++ rest) := by
  have hlength : (marked ++ [last]).length = marked.length + 1 := List.length_append
  have hopen' := receiveLength_unended hopen (by omega) h
  induction more generalizing marked last line with
  | zero =>
    rw [receiveLength_overlong hopen' (by omega)] at h
    obtain ⟨hfault, rfl⟩ := Prod.mk.inj h
    rw [← Except.error.inj hfault]
    refine .inr ⟨rfl, [], Line.Reads.refl line, ?_⟩
    rw [List.append_nil]
    exact ⟨by omega, hopen'⟩
  | succ more ih =>
    have hshort : (marked ++ [last]).length < maxOctets := by omega
    rcases hread : line.readExact 1 with ⟨fault' | octets, line₁⟩
    · rw [receiveLength_cut hopen' hshort hread] at h
      obtain ⟨hfault, -⟩ := Prod.mk.inj h
      obtain ⟨reads, -, hgaveUp⟩ := Line.readExact_gaveUp hread
      rw [← Except.error.inj hfault]
      exact .inl (withinPacket_isLoss hgaveUp)
    · obtain ⟨octet, rfl⟩ := List.length_eq_one_iff.mp (Line.length_readExact hread)
      rw [receiveLength_next hopen' hshort hread] at h
      rcases ih (marked ++ [last]) octet hopen' (by omega) h List.length_append
        (receiveLength_unended hopen' (by omega) h) with hloss | ⟨rfl, rest, hreads, hfour⟩
      · exact .inl hloss
      · refine .inr ⟨rfl, [octet] ++ rest, (Line.reads_readExact_ok hread).trans hreads, ?_⟩
        rw [← List.append_assoc]
        exact hfour

theorem discard_broken {length : Nat} {line line' : Line σ} {fault : Fault}
    (h : discard length line = (.error fault, line')) : fault.IsLoss := by
  induction length using Nat.strongRecOn generalizing line with
  | ind length ih =>
    rw [discard] at h
    split at h
    · cases h
    · next hpos =>
      split at h
      · next fault' line₁ hread =>
        obtain ⟨hfault, -⟩ := Prod.mk.inj h
        obtain ⟨reads, -, hgaveUp⟩ := Line.readExact_gaveUp hread
        rw [← Except.error.inj hfault]
        exact withinPacket_isLoss hgaveUp
      · have hsize : discardChunk = 64 := rfl
        exact ih (length - min length discardChunk) (by omega) h

theorem receiveBody_broken {header first : UInt8} {line line' : Line σ} {fault : Fault}
    (h : receiveBody header first line = (.broken fault, line')) :
    fault.IsLoss ∨ fault = .protocolViolation ∧ ∃ rest, line.Reads line' rest
      ∧ Overlong (header :: first :: rest) := by
  unfold receiveBody at h
  split at h
  · next fault' line₁ hfield =>
    obtain ⟨hbroken, rfl⟩ := Prod.mk.inj h
    rw [← Inbound.broken.inj hbroken]
    have hnone : IsOpen [] := List.forall_mem_nil _
    rcases receiveLength_broken [] first (maxOctets - 1) hnone rfl hfield with
      hloss | ⟨hfault, rest, hreads, hlength, hopen⟩
    · exact .inl hloss
    · exact .inr ⟨hfault, rest, hreads, header, first :: rest, rfl, hlength, hopen⟩
  · next length line₁ hfield =>
    split at h
    · split at h
      · next fault' line₂ hdiscard =>
        obtain ⟨hbroken, -⟩ := Prod.mk.inj h
        rw [← Inbound.broken.inj hbroken]
        exact .inl (discard_broken hdiscard)
      · cases h
    · split at h
      · next fault' line₂ hread =>
        obtain ⟨hbroken, -⟩ := Prod.mk.inj h
        obtain ⟨reads, -, hgaveUp⟩ := Line.readExact_gaveUp hread
        rw [← Inbound.broken.inj hbroken]
        exact .inl (withinPacket_isLoss hgaveUp)
      · cases h

/-- **Why the stream could not be used any more**: it broke, or all that came is a length field
without an end. -/
theorem receive_broken {timeoutMs : UInt32} {line line' : Line σ} {octets : Octets} {fault : Fault}
    (h : receive timeoutMs line = (.broken fault, line'))
    (hoctets : (line.setTimeout timeoutMs).2.Reads line' octets) : Breaks octets fault := by
  unfold receive at h
  split at h
  · obtain ⟨hbroken, -⟩ := Prod.mk.inj h
    rw [← Inbound.broken.inj hbroken]
    exact .inl trivial
  · next line₁ hwait =>
    rw [hwait] at hoctets
    split at h
    · cases h
    · next fault' line₂ hintime hread =>
      obtain ⟨hbroken, -⟩ := Prod.mk.inj h
      obtain ⟨reads, -, hgaveUp⟩ := Line.readExact_gaveUp hread
      rw [← Inbound.broken.inj hbroken]
      refine .inl (hgaveUp.isLoss ?_)
      rintro rfl
      exact hintime rfl
    · next header first line₂ hread =>
      rcases receiveBody_broken h with hloss | ⟨rfl, rest, hreads, hoverlong⟩
      · exact .inl hloss
      · rw [hoctets.octets_eq ((Line.reads_readExact_ok hread).trans hreads)]
        exact .inr ⟨rfl, hoverlong⟩
    · next found line₂ hne hread =>
      -- two octets were asked for, so this branch is not taken
      have hlength := Line.length_readExact hread
      match found, hlength with
      | [header, first], _ => exact absurd rfl (hne header first)

end Inbound

/-! ## §2. Stretches without a loss. -/

/-- The events leave the connection as it is, and nothing comes in with them. -/
structure Still (events : List Event) : Prop where
  /-- No connection is opened or closed. -/
  isSteady : ∀ event ∈ events, event.IsSteady
  /-- Nothing comes in. -/
  received_eq : Traffic.received events = []

namespace Still

variable {events later : List Event}

theorem nil : Still [] := ⟨nofun, rfl⟩

theorem append (h : Still events) (h' : Still later) : Still (events ++ later) := by
  refine ⟨List.forall_mem_append.mpr ⟨h.isSteady, h'.isSteady⟩, ?_⟩
  rw [Traffic.received_append, h.received_eq, h'.received_eq, List.append_nil]

theorem delivered {packet : Octets} (h : Delivered packet events) : Still events :=
  ⟨h.isSteady, h.received_eq⟩

theorem interrupted {packet : Octets} (h : Interrupted packet events) : Still events :=
  ⟨h.isSteady, h.received_eq⟩

theorem repeats {original : UInt16 → Octets → Prop} {due ids : List UInt16}
    {round : Session.Round} (h : Session.Repeats original due ids round events) :
    Still events := by
  induction h with
  | complete => exact .nil
  | sent _ hsent _ ih => exact (delivered hsent).append ih
  | unsent _ _ hsent => exact interrupted hsent

/-- Handing a message over concerns the program and not the connection. -/
theorem handing {η : Type} (client : Client η) (message : Message) :
    Still (client.handing message) := by
  unfold Client.handing
  split
  · exact ⟨List.forall_mem_singleton.mpr trivial, rfl⟩
  · exact nil

end Still

/-! ## §3. What a call does with the connection. -/

/-- The operation is a call that needs a connection. -/
def Operation.IsCall {η σ : Type} : Operation η σ → Prop
  | .publish .. | .subscribe .. | .unsubscribe _ | .poll .. => True
  | _ => False

namespace Session

variable {η σ : Type}

/-- What a call does with the connection since `line`, once these octets have come in. -/
inductive Conduct {α : Type} (octets : Octets) (line : Line σ) :
    Except Fault α × Session η σ → Prop where
  /-- It is kept, and a fault is none of the stream. -/
  | kept {result : Except Fault α} {after : Session η σ} {used : List Event}
      (hlog : after.line.events = line.events ++ used) (hstill : Still used)
      (hready : after.client.isReady = true)
      (hmild : ∀ fault, result = .error fault →
        fault.kind ≠ .transport ∧ (fault = .protocolViolation → ¬ Overlong octets)) :
      Conduct octets line (result, after)
  /-- It is closed, and the fault says why. -/
  | lost {fault : Fault} {after : Session η σ} {used : List Event} {worked : Bool}
      (hlog : after.line.events = line.events ++ (used ++ [.closed worked])) (hstill : Still used)
      (hphase : after.client.phase = .disconnected)
      (hholds : after.client.holdsConnection = false) (hbreaks : Breaks octets fault) :
      Conduct octets line (.error fault, after)

namespace Conduct

variable {α β : Type} {octets : Octets} {line line' : Line σ}

/-- A fault is passed on as it is. -/
theorem error {fault : Fault} {after : Session η σ}
    (h : Conduct octets line ((.error fault, after) : Except Fault α × Session η σ)) :
    Conduct octets line ((.error fault, after) : Except Fault β × Session η σ) := by
  cases h with
  | kept hlog hstill hready hmild =>
    refine .kept hlog hstill hready fun other hother => hmild other ?_
    rw [Except.error.inj hother]
  | lost hlog hstill hphase hholds hbreaks => exact .lost hlog hstill hphase hholds hbreaks

theorem replying {outcome : Except Fault α × Session η σ} (reply : α → Reply)
    (h : Conduct octets line outcome) : Conduct octets line (Session.replying reply outcome) := by
  cases h with
  | @kept result after used hlog hstill hready hmild =>
    refine .kept hlog hstill hready fun fault hfault => hmild fault ?_
    cases result with
    | ok => cases hfault
    | error other => exact congrArg _ (Except.error.inj hfault)
  | lost hlog hstill hphase hholds hbreaks => exact .lost hlog hstill hphase hholds hbreaks

/-- Success keeps the connection. -/
theorem success {value : α} {after : Session η σ} {used : List Event}
    (hlog : after.line.events = line.events ++ used) (hstill : Still used)
    (hready : after.client.isReady = true) : Conduct octets line (.ok value, after) :=
  .kept hlog hstill hready nofun

/-- A refusal does nothing. -/
theorem refused {session : Session η σ} {fault : Fault} (hready : session.client.isReady = true)
    (hkind : fault.kind ≠ .transport) (hoctets : fault = .protocolViolation → ¬ Overlong octets) :
    Conduct octets session.line ((.error fault, session) : Except Fault α × Session η σ) := by
  refine .kept (List.append_nil _).symm .nil hready fun other hother => ?_
  rw [← Except.error.inj hother]
  exact ⟨hkind, hoctets⟩

/-- A refusal that blames no peer does nothing. -/
theorem declined {session : Session η σ} {fault : Fault} (hready : session.client.isReady = true)
    (hkind : fault.kind ≠ .transport) (hfault : fault ≠ .protocolViolation) :
    Conduct octets session.line ((.error fault, session) : Except Fault α × Session η σ) :=
  .refused hready hkind fun hviolation => absurd hviolation hfault

/-- **The result tells what was done**: the connection was closed exactly if the fault is one that
breaks the stream, and every fault of transport is. -/
theorem verdict {result : Except Fault α} {after : Session η σ}
    (h : Conduct octets line (result, after)) :
    ∃ used closing, after.line.events = line.events ++ (used ++ closing) ∧ Still used
      ∧ Traffic.received closing = []
      ∧ (closing = [] ∧ after.client.phase = .connected ∧ after.client.holdsConnection = true
        ∨ (∃ worked, closing = [.closed worked]) ∧ after.client.phase = .disconnected
          ∧ after.client.holdsConnection = false)
      ∧ (closing ≠ [] ↔ ∃ fault, result = .error fault ∧ Breaks octets fault)
      ∧ ∀ fault, result = .error fault → fault.kind = .transport → fault.IsLoss := by
  cases h with
  | kept hlog hstill hready hmild =>
    refine ⟨_, [], by rw [List.append_nil, hlog], hstill, rfl,
      .inl ⟨rfl, (Client.isReady_iff _).mp hready⟩, ⟨absurd rfl, ?_⟩, ?_⟩
    · rintro ⟨fault, hfault, hloss | ⟨hviolation, hoverlong⟩⟩
      · exact absurd hloss.kind_eq (hmild fault hfault).1
      · exact absurd hoverlong ((hmild fault hfault).2 hviolation)
    · intro fault hfault hkind
      exact absurd hkind (hmild fault hfault).1
  | @lost fault after used worked hlog hstill hphase hholds hbreaks =>
    refine ⟨used, [.closed worked], hlog, hstill, rfl, .inr ⟨⟨worked, rfl⟩, hphase, hholds⟩,
      ⟨fun _ => ⟨fault, rfl, hbreaks⟩, fun _ => List.cons_ne_nil _ _⟩, ?_⟩
    intro other hother hkind
    obtain rfl := Except.error.inj hother
    rcases hbreaks with hloss | ⟨rfl, -⟩
    · exact hloss
    · cases hkind

end Conduct

theorem Sending.conduct {packet : Octets} {session : Session η σ}
    {outcome : Except Fault Unit × Session η σ} (hsending : Sending packet session outcome)
    (hready : session.client.isReady = true) (octets : Octets) :
    Conduct octets session.line outcome := by
  cases hsending with
  | delivered hlog hsent => exact .success hlog (.delivered hsent) hready
  | lost hlog hsent => exact .lost hlog (.interrupted hsent) rfl rfl (.inl trivial)

theorem Resending.conduct {original : UInt16 → Octets → Prop} {now : Nat} {session : Session η σ}
    {outcome : Except Fault Unit × Session η σ}
    (hresending : Resending original now session outcome)
    (hready : session.client.isReady = true) (octets : Octets) :
    Conduct octets session.line outcome := by
  cases hresending with
  | complete hlog hrepeats => exact .success hlog (.repeats hrepeats) hready
  | lost hlog hrepeats => exact .lost hlog (.repeats hrepeats) rfl rfl (.inl trivial)

variable [OctetStream σ]

theorem publish_conduct (topic : String) (payload : Octets) (qos : Qos) (retain : Bool) (now : Nat)
    {session : Session η σ} (hsound : session.client.Sound)
    (hready : session.client.isReady = true) (octets : Octets) :
    Conduct octets session.line (session.publish topic payload qos retain now) := by
  by_cases hargs : ¬ isTopic topic = true ∨ maxPayloadLength < payload.length
  · unfold publish
    rw [if_neg (not_not_intro hready), if_pos hargs]
    exact .declined hready (by decide) (by decide)
  obtain ⟨htopic, hpayload⟩ := not_or.mp hargs
  have htopic := not_not.mp htopic
  have hpayload := Nat.not_lt.mp hpayload
  have hholds := hsound.isReady_iff.mp hready
  cases qos with
  | atMostOnce =>
    obtain ⟨packet, -, heq⟩ := publish_plain_checked hready htopic hpayload retain now
    rw [heq]
    have hsending := send_sending packet session hholds
    have hconduct := hsending.conduct hready octets
    generalize session.send packet = outcome at hsending hconduct
    cases hsending with
    | delivered hlog hsent => exact .success hlog (.delivered hsent) hready
    | lost => exact hconduct.error
  | atLeastOnce =>
    by_cases hfull : session.client.pending.isFull = true
    · unfold publish
      rw [if_neg (not_not_intro hready), if_neg hargs]
      dsimp only
      rw [if_pos hfull]
      exact .declined hready (by decide) (by decide)
    · obtain ⟨packet, entry, table, -, -, -, hlost, hkept⟩ :=
        publish_numbered_checked hready hsound.next_ne_zero htopic hpayload hfull retain now
      have hsending := send_sending packet
        (⟨session.client.allocate.2, session.line⟩ : Session η σ) hholds
      have hconduct := hsending.conduct hready octets
      generalize hsend : send packet (⟨session.client.allocate.2, session.line⟩ : Session η σ)
        = outcome at hsending hconduct
      cases hsending with
      | delivered hlog hsent =>
        rw [hkept hsend]
        exact .success hlog (.delivered hsent) hready
      | lost =>
        rw [hlost hsend]
        exact hconduct.error
  | exactlyOnce =>
    unfold publish
    rw [if_neg (not_not_intro hready), if_neg hargs]
    exact .declined hready (by decide) (by decide)

theorem subscribe_conduct (topic : String) (handler : η) {session : Session η σ}
    (hready : session.client.isReady = true) (octets : Octets) :
    Conduct octets session.line (session.subscribe topic handler) := by
  have hholds := ((Client.isReady_iff _).mp hready).2
  by_cases htopic : isTopic topic = true
  · obtain ⟨key, rfl⟩ := Topic.exists_of_isTopic htopic
    rcases subscribe_checked hready htopic handler with ⟨-, heq⟩ | ⟨table, htable, heq⟩
    · rw [heq]
      exact .declined hready (by decide) (by decide)
    · have hpacket := Packet.subscribe_eq htopic session.client.allocate.1
      rw [heq]
      exact (sendNumbered_sending
        { session with client := { session.client with subscriptions := table } } hholds
        hpacket).conduct hready octets
  · rw [subscribe, if_neg (not_not_intro hready), if_pos htopic]
    exact .declined hready (by decide) (by decide)

theorem unsubscribe_conduct (topic : String) {session : Session η σ}
    (hready : session.client.isReady = true) (octets : Octets) :
    Conduct octets session.line (session.unsubscribe topic) := by
  have hholds := ((Client.isReady_iff _).mp hready).2
  unfold unsubscribe
  rw [if_neg (not_not_intro hready)]
  split
  · exact .declined hready (by decide) (by decide)
  · next hargs =>
    have hpacket := Packet.unsubscribe_eq (not_not.mp hargs) session.client.allocate.1
    exact (sendNumbered_sending
      { session with client :=
        { session.client with subscriptions := session.client.subscriptions.erase topic } }
      hholds hpacket).conduct hready octets

variable [MessageHandler η]

/-- **What becomes of the packet that came in**: only a stream that broke costs the connection. -/
theorem Handling.conduct {session : Session η σ} {inbound : Inbound} {octets : Octets}
    {outcome : Except Fault Unit × Session η σ} (hhandling : Handling session inbound outcome)
    (hready : session.client.isReady = true) (hfound : inbound.Found octets)
    (hbroken : ∀ fault, inbound = .broken fault → Breaks octets fault) :
    Conduct octets session.line outcome := by
  -- what came in is a whole packet, so its length field has ended
  have hwhole : ∀ {header : UInt8} {body : Octets}, inbound = .packet header body →
      ¬ Overlong octets := by
    rintro header body rfl hoverlong
    cases hfound with
    | packet packet _ => exact hoverlong.unfinished packet rfl
  cases hhandling with
  | silence => exact .success (List.append_nil _).symm .nil hready
  | oversized header length => exact .declined hready (by decide) (by decide)
  | broken fault =>
    obtain ⟨worked, hlog⟩ := hangUp_events session ((Client.isReady_iff _).mp hready).2
    exact .lost hlog .nil rfl rfl (hbroken fault rfl)
  | ignored body hmessage hack => exact .success (List.append_nil _).symm .nil hready
  | malformedMessage hkind hparse =>
    obtain rfl := Message.parse_error hparse
    exact .refused hready nofun fun _ => hwhole rfl
  | @delivered header body message hkind hparse hqos =>
    refine .success (deliver_events message session) (.handing _ _) ?_
    rw [deliver_isReady]
    exact hready
  | @acknowledged header body message id session' hkind hparse hqos hid hsend hsending =>
    cases hsending with
    | @delivered line events hlog hsent =>
      have hdelivered := deliver_events message { session with line := line }
      dsimp only at hdelivered
      rw [hlog, List.append_assoc] at hdelivered
      refine .success hdelivered ((Still.delivered hsent).append (.handing _ _)) ?_
      rw [deliver_isReady]
      exact hready
  | unacknowledged hkind hparse hqos hid hsend hsending => exact hsending.conduct hready octets
  | released hkind => exact .success (List.append_nil _).symm .nil hready
  | malformedAcknowledgement hkind hbody => exact .refused hready nofun fun _ => hwhole rfl

/-- The first half of a poll, behind the octets that it took off the stream. -/
theorem takeIn_conduct (timeoutMs : UInt32) {session : Session η σ}
    (hready : session.client.isReady = true) :
    ∃ bounded reads line,
      line.events = session.line.events ++ .timeoutSet timeoutMs bounded :: reads
      ∧ (∀ event ∈ reads, event.IsRead)
      ∧ Conduct (Traffic.received reads) line (session.takeIn timeoutMs) := by
  have hholds := ((Client.isReady_iff _).mp hready).2
  obtain ⟨octets, hreads, hfound⟩ := Inbound.receive_reads timeoutMs session.line
  have hset := Line.events_setTimeout timeoutMs session.line
  rcases hreceive : Inbound.receive timeoutMs session.line with ⟨inbound, line⟩
  rw [hreceive] at hreads hfound
  have hbroken : ∀ fault, inbound = .broken fault → Breaks octets fault := by
    rintro fault rfl
    exact Inbound.receive_broken hreceive hreads
  have htaken : session.takeIn timeoutMs = handle inbound { session with line := line } := by
    unfold takeIn
    rw [hreceive]
  obtain ⟨reads, hlog, hisRead, rfl⟩ := hreads
  rw [hset, List.append_assoc, List.singleton_append] at hlog
  refine ⟨_, reads, line, hlog, hisRead, ?_⟩
  rw [htaken]
  exact (handle_handling inbound { session with line := line } hholds).conduct hready hfound hbroken

/-- **Both halves of a poll**: what is overdue is sent again only if the first half kept the
connection, and a failure to send it hides what the first half had to report. -/
theorem poll_conduct (timeoutMs : UInt32) (now : Nat) {session : Session η σ}
    (hsound : session.client.Sound) (hready : session.client.isReady = true) :
    ∃ bounded reads line,
      line.events = session.line.events ++ .timeoutSet timeoutMs bounded :: reads
      ∧ (∀ event ∈ reads, event.IsRead)
      ∧ Conduct (Traffic.received reads) line (session.poll timeoutMs now) := by
  obtain ⟨bounded, reads, line, hlog, hisRead, htaken⟩ := takeIn_conduct timeoutMs hready
  refine ⟨bounded, reads, line, hlog, hisRead, ?_⟩
  rcases poll_cases timeoutMs now hsound hready with
    ⟨-, heq⟩ | ⟨hholds, outcome, -, hresending, heq⟩
  · rw [heq]
    exact htaken
  · rw [heq]
    rcases hfirst : session.takeIn timeoutMs with ⟨result, after⟩
    rw [hfirst] at htaken hresending hholds
    cases htaken with
    | lost _ _ _ hgone =>
      rw [hgone] at hholds
      cases hholds
    | kept hlog' hstill hready' hmild =>
      cases hresending with
      | complete hlog'' hrepeats =>
        dsimp only at hlog''
        rw [hlog', List.append_assoc] at hlog''
        exact .kept hlog'' (hstill.append (.repeats hrepeats)) hready' hmild
      | lost hlog'' hrepeats =>
        dsimp only at hlog''
        rw [hlog', List.append_assoc, ← List.append_assoc _ _ [_]] at hlog''
        exact .lost hlog'' (hstill.append (.repeats hrepeats)) rfl rfl (.inl trivial)

/-- **Silence is no failure**: a first read that fails takes nothing in, and the poll goes on with
what is overdue. -/
theorem poll_silent {timeoutMs : UInt32} (now : Nat) {session : Session η σ} {line₁ line₂ : Line σ}
    (hready : session.client.isReady = true)
    (hwait : session.line.setTimeout timeoutMs = (true, line₁))
    (hread : line₁.read 2 = (none, line₂)) :
    session.takeIn timeoutMs = (.ok (), { session with line := line₂ })
      ∧ line₂.events = session.line.events ++ [.timeoutSet timeoutMs true, .readFailed]
      ∧ session.poll timeoutMs now = resendOverdue now { session with line := line₂ } := by
  have hset := Line.events_setTimeout timeoutMs session.line
  have hlog := Line.events_read 2 line₁
  rw [hwait] at hset
  rw [hread, hset, List.append_assoc] at hlog
  have hexact : line₁.readExact 2 = (.error .timedOut, line₂) := by
    unfold Line.readExact
    rw [Line.gather, if_neg (by decide), hread]
    rfl
  have htaken : session.takeIn timeoutMs = (.ok (), { session with line := line₂ }) := by
    unfold takeIn Inbound.receive
    rw [hwait]
    dsimp only
    rw [hexact]
    rfl
  refine ⟨htaken, hlog, ?_⟩
  have hconnected : session.client.isConnected = true := by
    rw [Client.isConnected, ((Client.isReady_iff _).mp hready).1]
    rfl
  rw [poll_eq timeoutMs now hready, htaken, if_pos hconnected]
  rcases resendOverdue now { session with line := line₂ } with ⟨fault | done, after⟩
  · rfl
  · rfl

variable [Dialer σ]

/-- **Every call on an open connection** keeps it, or closes it once for a reason that it reports;
only a poll takes octets in before that. -/
theorem call_conduct {session : Session η σ} (hsound : session.client.Sound)
    (hready : session.client.isReady = true) {operation : Operation η σ}
    (hcall : operation.IsCall) :
    ∃ awaited line, line.events = session.line.events ++ awaited
      ∧ (∀ event ∈ awaited, event.IsSteady)
      ∧ Conduct (Traffic.received awaited) line (session.apply operation) := by
  cases operation with
  | publish topic payload qos retain now =>
    exact ⟨[], session.line, (List.append_nil _).symm, nofun,
      (publish_conduct topic payload qos retain now hsound hready []).replying _⟩
  | subscribe topic handler =>
    exact ⟨[], session.line, (List.append_nil _).symm, nofun,
      (subscribe_conduct topic handler hready []).replying _⟩
  | unsubscribe topic =>
    exact ⟨[], session.line, (List.append_nil _).symm, nofun,
      (unsubscribe_conduct topic hready []).replying _⟩
  | poll timeoutMs now =>
    obtain ⟨bounded, reads, line, hlog, hisRead, hconduct⟩ :=
      poll_conduct timeoutMs now hsound hready
    refine ⟨_, line, hlog, List.forall_mem_cons.mpr ⟨trivial, ?_⟩, hconduct.replying _⟩
    intro event hevent
    exact (hisRead event hevent).isAside.isSteady
  | _ => exact hcall.elim

end Session

/-! ## §4. Calls without a connection. -/

/-- Without a session with the broker no client is ready. -/
theorem Client.not_isReady {η : Type} {client : Client η} (h : client.phase = .disconnected) :
    ¬ client.isReady = true := by
  rw [Client.isReady_iff, h]
  exact fun hready => nomatch hready.1

/-- The operation was to connect, and it did. -/
def Exchange.Connects {η σ : Type} [OctetStream σ] [Dialer σ] [MessageHandler η]
    (exchange : Exchange η σ) : Prop :=
  (∃ remote useTls, exchange.operation = .connect remote useTls) ∧ exchange.reply = .ok .done

namespace Session

variable {η σ : Type} [OctetStream σ] [Dialer σ] [MessageHandler η]

/-- Without a connection every call that needs one is refused, and nothing happens. -/
theorem apply_not_ready {session : Session η σ} (hready : ¬ session.client.isReady = true)
    {operation : Operation η σ} (hcall : operation.IsCall) :
    session.apply operation = (.error .notOpen, session) := by
  cases operation with
  | publish topic payload qos retain now =>
    show replying .published (session.publish topic payload qos retain now) = _
    unfold publish
    rw [if_pos hready]
    rfl
  | subscribe topic handler =>
    show replying _ (session.subscribe topic handler) = _
    unfold subscribe
    rw [if_pos hready]
    rfl
  | unsubscribe topic =>
    show replying _ (session.unsubscribe topic) = _
    unfold unsubscribe
    rw [if_pos hready]
    rfl
  | poll timeoutMs now =>
    show replying _ (session.poll timeoutMs now) = _
    rw [poll_not_ready timeoutMs now hready]
    rfl
  | _ => exact hcall.elim

/-- Only a connection that is made ends the time without one. -/
theorem apply_disconnected {session : Session η σ} (hphase : session.client.phase = .disconnected)
    {operation : Operation η σ} (hnone : ¬ Exchange.Connects ⟨session, operation⟩) :
    (session.apply operation).2.client.phase = .disconnected := by
  cases operation with
  | connect remote useTls =>
    rcases connect_cases remote useTls session with
      ⟨fault, heq⟩ | ⟨fault, line, heq⟩ | ⟨line, heq⟩
    · show (session.connect remote useTls).2.client.phase = .disconnected
      rw [heq]
      exact hphase
    · show (session.connect remote useTls).2.client.phase = .disconnected
      rw [heq]
      rfl
    · refine absurd ⟨⟨remote, useTls, rfl⟩, ?_⟩ hnone
      show (session.connect remote useTls).1.map (fun _ => Reply.done) = .ok .done
      rw [heq]
      rfl
  | disconnect =>
    show session.disconnect.2.client.phase = .disconnected
    rcases disconnect_cases session with heq | ⟨line, heq⟩
    · rw [heq]
      exact hphase
    · rw [heq]
      rfl
  | adjust topic change => exact hphase
  | outside change => exact hphase
  | publish | subscribe | unsubscribe | poll =>
    rw [apply_not_ready (Client.not_isReady hphase) (by trivial)]
    exact hphase

/-- So does every run in which none is made. -/
theorem history_disconnected {session : Session η σ} (hphase : session.client.phase = .disconnected)
    {operations : List (Operation η σ)}
    (hnone : ∀ exchange ∈ session.history operations, ¬ exchange.Connects) :
    ∀ exchange ∈ session.history operations, exchange.before.client.phase = .disconnected := by
  induction operations generalizing session with
  | nil => exact nofun
  | cons operation operations ih =>
    rw [history] at hnone ⊢
    obtain ⟨hfirst, hlater⟩ := List.forall_mem_cons.mp hnone
    exact List.forall_mem_cons.mpr ⟨hphase, ih (apply_disconnected hphase hfirst) hlater⟩

/-! ## §5. The policy. -/

/-- **What a result says about the connection**, after every run from a new client and on every
platform.  On an open connection a call leaves the connection open, or closes it exactly once and
is disconnected.  It stays open if the call succeeds or reports an argument that is invalid, an
option that is not supported or a table or buffer that is full; it is closed if the fault is one of
transport.  A poll that reports a violation of the protocol has closed it exactly if what it took
off the stream is a header octet with four octets of a length field that all announce another one.
A poll never reports that nothing came in time: a first read that fails takes nothing in, and the
poll goes on with what is overdue.  Without a connection every call is refused as not open, and
neither the client nor the line changes, until a connection is made. -/
theorem failure_policy {options : Options} {client : Client η}
    (h : Client.ofOptions options = .ok client) (line : Line σ)
    (operations : List (Operation η σ)) :
    let reached := (⟨client, line⟩ : Session η σ).run operations
    (reached.client.phase = .connected → ∀ operation : Operation η σ, operation.IsCall →
      let exchange : Exchange η σ := ⟨reached, operation⟩
      ∃ used closing, exchange.events = used ++ closing
        ∧ exchange.after.line.events = reached.line.events ++ exchange.events
        ∧ (∀ event ∈ used, event.IsSteady)
        ∧ (closing = [] ∧ exchange.after.client.phase = .connected
            ∧ exchange.after.client.holdsConnection = true
          ∨ (∃ worked, closing = [.closed worked])
            ∧ exchange.after.client.phase = .disconnected
            ∧ exchange.after.client.holdsConnection = false)
        ∧ ((∃ reply, exchange.reply = .ok reply) ∨ exchange.reply = .error .invalidArgument
            ∨ exchange.reply = .error .unsupported ∨ exchange.reply = .error .capacityExceeded →
          closing = [])
        ∧ (∀ fault, exchange.reply = .error fault → fault.kind = .transport → closing ≠ [])
        ∧ ∀ timeoutMs now, operation = .poll timeoutMs now →
          (exchange.reply = .error .protocolViolation →
            (closing ≠ [] ↔ Overlong (Traffic.received exchange.events)))
          ∧ exchange.reply ≠ .error .timedOut
          ∧ ∀ line₁ line₂, reached.line.setTimeout timeoutMs = (true, line₁) →
            line₁.read 2 = (none, line₂) →
            reached.takeIn timeoutMs = (.ok (), { reached with line := line₂ })
              ∧ line₂.events = reached.line.events ++ [.timeoutSet timeoutMs true, .readFailed]
              ∧ reached.poll timeoutMs now = resendOverdue now { reached with line := line₂ })
      ∧ (reached.client.phase = .disconnected → ∀ later : List (Operation η σ),
        (∀ exchange ∈ reached.history later, ¬ exchange.Connects) →
        ∀ exchange ∈ reached.history later, exchange.operation.IsCall →
          exchange.reply = .error .notOpen ∧ exchange.after = exchange.before) := by
  intro reached
  have hsound : reached.client.Sound := run_sound h line operations
  refine ⟨?_, ?_⟩
  · -- ===== on an open connection =====
    intro hphase operation hcall exchange
    have hready : reached.client.isReady = true := by
      refine hsound.isReady_iff.mpr (hsound.isConnected_iff.mp ?_)
      rw [Client.isConnected, hphase]
      rfl
    obtain ⟨awaited, line', hawaited, hsteady, hconduct⟩ := call_conduct hsound hready hcall
    have houtcome : reached.apply operation = (exchange.reply, exchange.after) := rfl
    rw [houtcome] at hconduct
    obtain ⟨used, closing, hlog, hstill, hquiet, hstanding, hclosing, hkind⟩ := hconduct.verdict
    rw [hawaited, List.append_assoc, ← List.append_assoc awaited] at hlog
    have hevents : exchange.events = awaited ++ used ++ closing := Exchange.events_eq hlog
    refine ⟨awaited ++ used, closing, hevents, by rw [hevents]; exact hlog,
      List.forall_mem_append.mpr ⟨hsteady, hstill.isSteady⟩, hstanding, ?_, ?_, ?_⟩
    · -- ===== results that keep it =====
      intro hresult
      by_contra hne
      obtain ⟨fault, hfault, hbreaks⟩ := hclosing.mp hne
      rcases hresult with ⟨reply, hreply⟩ | hreply | hreply | hreply
      · cases hfault.symm.trans hreply
      all_goals
        obtain rfl := Except.error.inj (hfault.symm.trans hreply)
        rcases hbreaks with hloss | ⟨hviolation, -⟩
        · exact hloss
        · cases hviolation
    · -- ===== faults of transport =====
      intro fault hfault htransport
      exact hclosing.mpr ⟨fault, hfault, .inl (hkind fault hfault htransport)⟩
    · -- ===== polls =====
      intro timeoutMs now hpoll
      refine ⟨?_, ?_, fun line₁ line₂ hwait hread => poll_silent now hready hwait hread⟩
      · intro hviolation
        have hreceived : Traffic.received exchange.events = Traffic.received awaited := by
          rw [hevents, Traffic.received_append, Traffic.received_append, hstill.received_eq, hquiet,
            List.append_nil, List.append_nil]
        rw [hreceived]
        constructor
        · intro hne
          obtain ⟨fault, hfault, hbreaks⟩ := hclosing.mp hne
          obtain rfl := Except.error.inj (hfault.symm.trans hviolation)
          rcases hbreaks with hloss | ⟨-, hoverlong⟩
          · exact hloss.elim
          · exact hoverlong
        · intro hoverlong
          exact hclosing.mpr ⟨_, hviolation, .inr ⟨rfl, hoverlong⟩⟩
      · intro htimeout
        exact hkind _ htimeout rfl
  · -- ===== without a connection =====
    intro hphase later hnone exchange hmem hcall
    have hclosed := history_disconnected hphase hnone exchange hmem
    have hrefused := apply_not_ready (Client.not_isReady hclosed) hcall
    exact ⟨congrArg Prod.fst hrefused, congrArg Prod.snd hrefused⟩

/-- A length field without an end costs the connection, and then nothing can be published. -/
theorem failure_policy_specimen :
    let start : Session Mailbox Wire :=
      ⟨Specimen.client, Specimen.line [.chunk [0x30, 0x80, 0x80], .chunk [0x80, 0x80, 7]]⟩
    let reached := start.run [.connect Specimen.broker false]
    let polled : Exchange Mailbox Wire := ⟨reached, .poll 10 0⟩
    let publication : Operation Mailbox Wire := .publish "a" [1] .atMostOnce false 0
    Client.ofOptions Specimen.options = .ok Specimen.client ∧ reached.client.phase = .connected
      ∧ polled.reply = .error .protocolViolation ∧ polled.after.client.phase = .disconnected
      ∧ Overlong (Traffic.received polled.events)
      ∧ (polled.after.apply publication).1 = .error .notOpen := by
  intro start reached polled publication
  have hphase : reached.client.phase = .connected := by decide +kernel
  have hreply : polled.reply = .error .protocolViolation := by decide +kernel
  have hgone : polled.after.client.phase = .disconnected := by decide +kernel
  obtain ⟨used, closing, -, -, -, hstanding, -, -, hpolls⟩ :=
    (failure_policy Specimen.ofOptions_eq start.line [.connect Specimen.broker false]).1 hphase
      (.poll 10 0) trivial
  obtain ⟨hviolation, -, -⟩ := hpolls 10 0 rfl
  have hclosed : closing ≠ [] := by
    rcases hstanding with ⟨-, hstill, -⟩ | ⟨⟨worked, rfl⟩, -⟩
    · cases hgone.symm.trans hstill
    · exact List.cons_ne_nil _ _
  -- the session after the poll is that of a run which goes on with it
  have hrefused :=
    (failure_policy Specimen.ofOptions_eq start.line
      [.connect Specimen.broker false, .poll 10 0]).2 hgone [publication]
      (List.forall_mem_singleton.mpr fun hconnects => nomatch hconnects.1)
      ⟨polled.after, publication⟩ (List.mem_singleton.mpr rfl) trivial
  exact ⟨Specimen.ofOptions_eq, hphase, hreply, hgone, (hviolation hreply).mp hclosed,
    hrefused.1⟩

end Session

end FieldLink.Mqtt
