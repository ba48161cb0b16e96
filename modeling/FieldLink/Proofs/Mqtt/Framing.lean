/-
  FieldLink.Proofs.Mqtt.Framing
  ────────────────────────────────
  **A POLL NEVER LOSES ITS PLACE ON THE STREAM.**

  Over a line that works each poll takes one whole packet off the stream,
  whatever is in it: a packet that is too long is skipped to its end, and a
  malformed one has been read to its end before it is refused.  So the next
  poll begins where the next packet begins:

      receive_reliable   — one packet is received, and its octets are gone
      handle_reliable    — what is replied to it, with the connection kept
      poll_reliable      — the same for a whole poll
      polls_stay_framed  — any number of packets, each to its own poll
-/
import FieldLink.Proofs.Line.Delivery
import FieldLink.Proofs.Mqtt.Outstanding

namespace FieldLink.Mqtt

/-! ## §1. What a packet deserves. -/

namespace ControlPacket

/-- A message that cannot be read, or an acknowledgement that names no identifier. -/
def isMalformed (packet : ControlPacket) : Bool :=
  if Packet.kind packet.header = Packet.kind Packet.publishHeader then
    match Message.parse (packet.header &&& 0x0F) packet.body with
    | .error _ => true
    | .ok _ => false
  else Packet.kind packet.header = Packet.kind Packet.pubackHeader && packet.body.length ≠ 2

/-- What a poll that takes the packet in replies. -/
def verdict (packet : ControlPacket) : Except Fault Unit :=
  if maxPacketLength < packet.body.length then .error .capacityExceeded
  else if packet.isMalformed then .error .protocolViolation
  else .ok ()

/-- What a poll finds of the packet. -/
def found (packet : ControlPacket) : Inbound :=
  if maxPacketLength < packet.body.length then .oversized packet.header packet.body.length
  else .packet packet.header packet.body

end ControlPacket

/-! ## §2. Reception. -/

namespace Inbound

open RemainingLength

variable {σ : Type} [OctetStream σ] {holds : Octets → σ → Prop}

/-- A length field is read to its end and no further. -/
theorem receiveLength_reliable (hreliable : Reliable holds) {front back rest : Octets} {more : Nat}
    {line : Line σ} (hfield : IsField (front ++ back)) (hmore : back.length ≤ more)
    (hholds : holds (back ++ rest) line.platform) :
    ∃ line', receiveLength more front line = (.ok (value (front ++ back)), line')
      ∧ line.Reads line' back ∧ holds rest line'.platform := by
  -- induction on the octets of the field that are still to come
  induction back generalizing front more line with
  | nil =>
    rw [List.append_nil] at hfield ⊢
    exact ⟨line, receiveLength_isField hfield more line, Line.Reads.refl line, hholds⟩
  | cons octet back ih =>
    cases more with
    | zero => simp at hmore
    | succ more =>
      have hopen : IsOpen front := hfield.isOpen_front
      have hshort : front.length < maxOctets := by
        have hlength := hfield.length_le
        simp only [List.length_append, List.length_cons] at hlength
        omega
      have hsplit : front ++ octet :: back = (front ++ [octet]) ++ back := by simp
      obtain ⟨line₁, hread, hreads, hholds₁⟩ :=
        Line.readExact_readable hreliable.readable (show [octet].length = 1 from rfl) hholds
      rw [hsplit] at hfield ⊢
      obtain ⟨line', hlength, hreads', hrest⟩ :=
        ih hfield (Nat.le_of_succ_le_succ hmore) hholds₁
      refine ⟨line', ?_, hreads.trans hreads', hrest⟩
      rw [receiveLength_next hopen hshort hread]
      exact hlength

/-- A body is skipped to its end and no further, however long it is. -/
theorem discard_reliable (hreliable : Reliable holds) {body rest : Octets} {line : Line σ}
    (hholds : holds (body ++ rest) line.platform) :
    ∃ line', discard body.length line = (.ok (), line') ∧ line.Reads line' body
      ∧ holds rest line'.platform := by
  -- induction on what is left: each step skips a chunk or all of it
  induction hlength : body.length using Nat.strongRecOn generalizing body line with
  | ind length ih =>
    subst hlength
    by_cases hnil : body = []
    · subst hnil
      refine ⟨line, ?_, Line.Reads.refl line, hholds⟩
      rw [discard]
      rfl
    · have hpos : body.length ≠ 0 := fun h => hnil (List.length_eq_zero_iff.mp h)
      have hchunk : 0 < discardChunk := by decide
      have htake : (body.take discardChunk).length = min body.length discardChunk := by
        rw [List.length_take, Nat.min_comm]
      have hdrop : (body.drop discardChunk).length
          = body.length - min body.length discardChunk := by
        rw [List.length_drop]
        omega
      rw [← List.take_append_drop discardChunk body, List.append_assoc] at hholds
      obtain ⟨line₁, hread, hreads, hholds₁⟩ :=
        Line.readExact_readable hreliable.readable htake hholds
      obtain ⟨line', hdiscard, hreads', hrest⟩ :=
        ih (body.drop discardChunk).length (by omega) hholds₁ rfl
      refine ⟨line', ?_, ?_, hrest⟩
      · rw [discard, if_neg hpos, hread]
        show discard (body.length - min body.length discardChunk) line₁ = (.ok (), line')
        rw [← hdrop]
        exact hdiscard
      · have hboth := hreads.trans hreads'
        rw [List.take_append_drop] at hboth
        exact hboth

/-- **A packet is received whole**, and nothing behind it is touched. -/
theorem receive_reliable (hreliable : Reliable holds) (packet : ControlPacket)
    (timeoutMs : UInt32) {rest : Octets} {line : Line σ}
    (hholds : holds (packet.octets ++ rest) line.platform) :
    ∃ line' reads, receive timeoutMs line = (packet.found, line')
      ∧ line'.events = line.events ++ .timeoutSet timeoutMs true :: reads
      ∧ Traffic.received reads = packet.octets ∧ holds rest line'.platform := by
  obtain ⟨header, field, body, hfield, hvalue⟩ := packet
  obtain ⟨first, more, rfl⟩ := List.exists_cons_of_ne_nil hfield.ne_nil
  have hmore : more.length ≤ maxOctets - 1 := by
    have hlength := hfield.length_le
    rw [List.length_cons] at hlength
    omega
  -- ===== the wait is bounded =====
  obtain ⟨line₁, hset, hholds₁⟩ := Line.setTimeout_readable hreliable.readable timeoutMs hholds
  have hlog₁ := Line.events_setTimeout timeoutMs line
  rw [hset] at hlog₁
  -- ===== header octet and first octet of the length field =====
  have hsplit : ControlPacket.octets ⟨header, first :: more, body, hfield, hvalue⟩ ++ rest
      = [header, first] ++ (more ++ (body ++ rest)) := by
    simp [ControlPacket.octets]
  rw [hsplit] at hholds₁
  obtain ⟨line₂, hread, hreads₂, hholds₂⟩ :=
    Line.readExact_readable hreliable.readable (show [header, first].length = 2 from rfl) hholds₁
  -- ===== the rest of the length field =====
  have hfield' : IsField ([first] ++ more) := hfield
  obtain ⟨line₃, hlength, hreads₃, hholds₃⟩ :=
    receiveLength_reliable hreliable hfield' hmore hholds₂
  have hannounced : value ([first] ++ more) = body.length := hvalue
  rw [hannounced] at hlength
  -- ===== the body, kept or skipped =====
  obtain ⟨line', hbody, hreads', hrest⟩ : ∃ line',
      receiveBody header first line₂
        = (ControlPacket.found ⟨header, first :: more, body, hfield, hvalue⟩, line')
      ∧ line₃.Reads line' body ∧ holds rest line'.platform := by
    unfold receiveBody ControlPacket.found
    rw [hlength]
    by_cases hlong : maxPacketLength < body.length
    · obtain ⟨line', hdiscard, hreads', hrest⟩ := discard_reliable hreliable hholds₃
      refine ⟨line', ?_, hreads', hrest⟩
      dsimp only
      rw [if_pos hlong, if_pos hlong, hdiscard]
    · obtain ⟨line', hread', hreads', hrest⟩ :=
        Line.readExact_readable hreliable.readable (show body.length = body.length from rfl) hholds₃
      refine ⟨line', ?_, hreads', hrest⟩
      dsimp only
      rw [if_neg hlong, if_neg hlong, hread']
  obtain ⟨reads, hlog, -, hoctets⟩ := hreads₂.trans (hreads₃.trans hreads')
  refine ⟨line', reads, ?_, ?_, ?_, hrest⟩
  · unfold receive
    rw [hset]
    dsimp only
    rw [hread]
    exact hbody
  · rw [hlog, hlog₁, List.append_assoc, List.singleton_append]
  · rw [hoctets]
    simp [ControlPacket.octets]

end Inbound

/-! ## §3. Handling. -/

namespace ControlPacket

variable {packet : ControlPacket}

theorem isMalformed_of_parse_error {fault : Fault}
    (hkind : Packet.kind packet.header = Packet.kind Packet.publishHeader)
    (hparse : Message.parse (packet.header &&& 0x0F) packet.body = .error fault) :
    packet.isMalformed = true := by
  rw [isMalformed, if_pos hkind, hparse]

theorem not_isMalformed_of_parse_ok {message : Message}
    (hkind : Packet.kind packet.header = Packet.kind Packet.publishHeader)
    (hparse : Message.parse (packet.header &&& 0x0F) packet.body = .ok message) :
    packet.isMalformed = false := by
  rw [isMalformed, if_pos hkind, hparse]

theorem isMalformed_of_not_message
    (hkind : Packet.kind packet.header ≠ Packet.kind Packet.publishHeader) :
    packet.isMalformed = (Packet.kind packet.header = Packet.kind Packet.pubackHeader
      && packet.body.length ≠ 2) := by
  rw [isMalformed, if_neg hkind]

end ControlPacket

namespace Session

variable {η σ : Type} {holds : Octets → σ → Prop}

/-- A connection is held, and the platform holds the backlog. -/
def Holding (holds : Octets → σ → Prop) (backlog : Octets) (session : Session η σ) : Prop :=
  session.client.holdsConnection = true ∧ holds backlog session.line.platform

theorem deliver_holding [MessageHandler η] {backlog : Octets} (message : Message)
    {session : Session η σ} (h : session.Holding holds backlog) :
    (session.deliver message).Holding holds backlog := by
  rcases deliver_cases message session with heq | heq
  · rw [heq]
    exact h
  · rw [heq]
    exact h

variable [OctetStream σ]

/-- Over a line that works sending changes nothing but the line. -/
theorem send_line (hreliable : Reliable holds) {backlog : Octets} (packet : Octets)
    {session : Session η σ} (h : session.Holding holds backlog) :
    ∃ line', session.send packet = (.ok (), { session with line := line' })
      ∧ holds backlog line'.platform := by
  obtain ⟨hconnection, hholds⟩ := h
  obtain ⟨line', hwrite, hbacklog⟩ := Line.writeAll_reliable hreliable packet hholds
  refine ⟨line', ?_, hbacklog⟩
  rw [send, if_pos hconnection, hwrite]

theorem send_reliable (hreliable : Reliable holds) {backlog : Octets} (packet : Octets)
    {session : Session η σ} (h : session.Holding holds backlog) :
    ∃ session', session.send packet = (.ok (), session') ∧ session'.Holding holds backlog := by
  obtain ⟨line', hsent, hbacklog⟩ := send_line hreliable packet h
  exact ⟨{ session with line := line' }, hsent, h.1, hbacklog⟩

/-- **A packet gets its verdict**, and the connection outlives it. -/
theorem handle_reliable [MessageHandler η] (hreliable : Reliable holds) (packet : ControlPacket)
    {backlog : Octets} {session : Session η σ} {outcome : Except Fault Unit × Session η σ}
    (hhandling : Handling session packet.found outcome) (h : session.Holding holds backlog) :
    outcome.1 = packet.verdict ∧ outcome.2.Holding holds backlog := by
  by_cases hlong : maxPacketLength < packet.body.length
  · rw [ControlPacket.found, if_pos hlong] at hhandling
    rw [ControlPacket.verdict, if_pos hlong]
    cases hhandling with
    | oversized => exact ⟨rfl, h⟩
  · rw [ControlPacket.found, if_neg hlong] at hhandling
    rw [ControlPacket.verdict, if_neg hlong]
    -- which way it was handled decides whether the packet is malformed
    generalize hbody : packet.body = body at hhandling
    cases hhandling with
    | ignored body hmessage hack =>
      refine ⟨?_, h⟩
      rw [ControlPacket.isMalformed_of_not_message hmessage]
      simp [hack]
    | malformedMessage hkind hparse =>
      obtain rfl := Message.parse_error hparse
      rw [← hbody] at hparse
      rw [ControlPacket.isMalformed_of_parse_error hkind hparse]
      exact ⟨rfl, h⟩
    | delivered hkind hparse hqos =>
      rw [← hbody] at hparse
      rw [ControlPacket.not_isMalformed_of_parse_ok hkind hparse]
      exact ⟨rfl, deliver_holding _ h⟩
    | acknowledged hkind hparse hqos hid hsend hsending =>
      rw [← hbody] at hparse
      rw [ControlPacket.not_isMalformed_of_parse_ok hkind hparse]
      obtain ⟨session', hsent, h'⟩ := send_reliable hreliable _ h
      rw [hsent] at hsend
      obtain ⟨-, rfl⟩ := Prod.mk.inj hsend
      exact ⟨rfl, deliver_holding _ h'⟩
    | unacknowledged hkind hparse hqos hid hsend hsending =>
      -- over a line that works the acknowledgement cannot fail
      obtain ⟨session', hsent, -⟩ := send_reliable hreliable _ h
      rw [hsent] at hsend
      cases hsend
    | released hkind =>
      have hmessage : Packet.kind packet.header ≠ Packet.kind Packet.publishHeader := by
        rw [hkind]
        decide
      refine ⟨?_, h⟩
      rw [ControlPacket.isMalformed_of_not_message hmessage, hbody]
      simp
    | malformedAcknowledgement hkind hlength =>
      have hmessage : Packet.kind packet.header ≠ Packet.kind Packet.publishHeader := by
        rw [hkind]
        decide
      refine ⟨?_, h⟩
      rw [ControlPacket.isMalformed_of_not_message hmessage, hbody]
      simp [hkind, hlength]

/-- **A round of repetitions over a line that works is complete.** -/
theorem resend_reliable (hreliable : Reliable holds) (now : Nat)
    (entries : List (UInt16 × Pending)) {backlog : Octets} {line : Line σ}
    (hbuilt : ∀ entry ∈ entries, ∃ packet, entry.2.packet entry.1 = .ok packet)
    (hholds : holds backlog line.platform) :
    ∃ ids line', resend now entries line = (ids, .complete, line')
      ∧ holds backlog line'.platform := by
  induction entries generalizing line with
  | nil => exact ⟨[], line, rfl, hholds⟩
  | cons entry entries ih =>
    obtain ⟨id, pending⟩ := entry
    have hrest : ∀ other ∈ entries, ∃ packet, other.2.packet other.1 = .ok packet :=
      fun other hother => hbuilt other (List.mem_cons_of_mem _ hother)
    rw [resend]
    by_cases hdue : pending.isOverdue now = true
    · rw [if_pos hdue]
      obtain ⟨packet, hpacket⟩ := hbuilt (id, pending) List.mem_cons_self
      obtain ⟨line₁, hwrite, hholds₁⟩ := Line.writeAll_reliable hreliable packet hholds
      obtain ⟨ids, line', hlater, hholds'⟩ := ih hrest hholds₁
      refine ⟨id :: ids, line', ?_, hholds'⟩
      simp only [hpacket, hwrite, hlater]
    · rw [if_neg hdue]
      exact ih hrest hholds

theorem resendOverdue_reliable (hreliable : Reliable holds) (now : Nat) {backlog : Octets}
    {session : Session η σ} (hsound : session.client.Sound) (h : session.Holding holds backlog) :
    (session.resendOverdue now).1 = .ok ()
      ∧ (session.resendOverdue now).2.Holding holds backlog := by
  obtain ⟨hconnection, hholds⟩ := h
  obtain ⟨ids, line', hresend, hholds'⟩ :=
    resend_reliable hreliable now session.client.pending.entries hsound.built hholds
  unfold resendOverdue
  rw [hresend]
  exact ⟨rfl, hconnection, hholds'⟩

/-! ## §4. Polls. -/

/-- **A poll takes exactly one packet off the backlog**, and replies what it deserves. -/
theorem poll_reliable [MessageHandler η] (hreliable : Reliable holds) (packet : ControlPacket)
    (timeoutMs : UInt32) (now : Nat) {rest : Octets} {session : Session η σ}
    (hsound : session.client.Sound) (h : session.Holding holds (packet.octets ++ rest)) :
    (session.poll timeoutMs now).1 = packet.verdict
      ∧ (session.poll timeoutMs now).2.Holding holds rest
      ∧ ∃ events, (session.poll timeoutMs now).2.line.events = session.line.events ++ events
        ∧ Traffic.received events = packet.octets := by
  obtain ⟨hconnection, hholds⟩ := h
  have hready : session.client.isReady = true := hsound.isReady_iff.mpr hconnection
  -- ===== the packet is taken in =====
  obtain ⟨line', reads, hreceive, hlog, hoctets, hrest⟩ :=
    Inbound.receive_reliable hreliable packet timeoutMs hholds
  have hhandling : Handling { session with line := line' } packet.found
      (session.takeIn timeoutMs) := by
    unfold takeIn
    rw [hreceive]
    exact handle_handling packet.found { session with line := line' } hconnection
  obtain ⟨hverdict, htaken⟩ := handle_reliable hreliable packet hhandling ⟨hconnection, hrest⟩
  -- ===== what is overdue goes out =====
  have htakenSound := takeIn_sound timeoutMs hsound hready
  obtain ⟨hcomplete, hrepeated⟩ := resendOverdue_reliable hreliable now htakenSound htaken
  rcases poll_cases timeoutMs now hsound hready with
    ⟨hlost, -⟩ | ⟨-, outcome, rfl, hresending, heq⟩
  · rw [htaken.1] at hlost
    cases hlost
  · obtain ⟨events, hlater, hquiet⟩ := (hhandling.quiet hconnection).trans hresending.quiet
    rw [heq]
    refine ⟨?_, hrepeated, .timeoutSet timeoutMs true :: (reads ++ events), ?_, ?_⟩
    · rw [hcomplete]
      exact hverdict
    · rw [hlater]
      show line'.events ++ events = _
      rw [hlog]
      simp
    · rw [Traffic.received_cons, Traffic.received_append, hquiet, hoctets, List.append_nil]
      rfl

end Session

/-- The poll took in this packet, all of it and nothing else. -/
def Exchange.TakesIn {η σ : Type} [OctetStream σ] [Dialer σ] [MessageHandler η]
    (exchange : Exchange η σ) (packet : ControlPacket) : Prop :=
  Traffic.received exchange.events = packet.octets ∧ exchange.after.client.isReady = true
    ∧ exchange.reply = packet.verdict.map fun _ => .done

section Polls

variable {η σ : Type} [OctetStream σ] [Dialer σ] [MessageHandler η] {holds : Octets → σ → Prop}

/-- The operations of a list of polls. -/
def Operation.polls (readings : List (UInt32 × Nat)) : List (Operation η σ) :=
  readings.map fun reading => .poll reading.1 reading.2

theorem polls_reliable (hreliable : Reliable holds) (packets : List ControlPacket)
    (readings : List (UInt32 × Nat)) (hlength : readings.length = packets.length) {rest : Octets}
    {session : Session η σ} (hsound : session.client.Sound)
    (h : session.Holding holds (packets.flatMap ControlPacket.octets ++ rest)) :
    List.Forall₂ (fun packet exchange => exchange.TakesIn packet) packets
        (session.history (Operation.polls readings))
      ∧ (session.run (Operation.polls readings)).Holding holds rest := by
  induction packets generalizing readings session with
  | nil =>
    obtain rfl := List.length_eq_zero_iff.mp hlength
    exact ⟨.nil, h⟩
  | cons packet packets ih =>
    obtain ⟨⟨timeoutMs, now⟩, readings, rfl⟩ :=
      List.exists_cons_of_length_eq_add_one hlength
    rw [List.flatMap_cons, List.append_assoc] at h
    obtain ⟨hreply, hholding, events, hlog, hoctets⟩ :=
      Session.poll_reliable hreliable packet timeoutMs now hsound h
    have hsound' := Session.poll_sound timeoutMs now hsound
    obtain ⟨hrest, hlast⟩ := ih readings (Nat.succ.inj hlength) hsound' hholding
    refine ⟨.cons ⟨?_, ?_, ?_⟩ hrest, hlast⟩
    · have hevents : (⟨session, .poll timeoutMs now⟩ : Exchange η σ).events = events :=
        Exchange.events_eq hlog
      show Traffic.received (Exchange.events _) = packet.octets
      rw [hevents]
      exact hoctets
    · exact hsound'.isReady_iff.mpr hholding.1
    · show (session.poll timeoutMs now).1.map _ = _
      rw [hreply]

/-- **Any number of packets, each to its own poll**: from every reachable client that is connected,
over every platform that works, and however the octets come in pieces.  What is behind the packets
is still there at the end. -/
theorem polls_stay_framed {options : Options} {client : Client η}
    (h : Client.ofOptions options = .ok client) (line : Line σ)
    (operations : List (Operation η σ)) (hreliable : Reliable holds)
    (packets : List ControlPacket) (readings : List (UInt32 × Nat))
    (hlength : readings.length = packets.length) (rest : Octets) :
    let session := (⟨client, line⟩ : Session η σ).run operations
    session.client.isReady = true →
    holds (packets.flatMap ControlPacket.octets ++ rest) session.line.platform →
    List.Forall₂ (fun packet exchange => exchange.TakesIn packet) packets
        (session.history (Operation.polls readings))
      ∧ holds rest (session.run (Operation.polls readings)).line.platform := by
  intro session hready hholds
  have hsound : session.client.Sound := Session.run_sound h line operations
  obtain ⟨hpolls, -, hrest⟩ := polls_reliable hreliable packets readings hlength hsound
    ⟨hsound.isReady_iff.mp hready, hholds⟩
  exact ⟨hpolls, hrest⟩

end Polls

namespace Specimen

/-- An acknowledgement whose length field is longer than it needs to be. -/
def padded : ControlPacket where
  header := 0x40
  field := [0x82, 0]
  body := [0, 1]
  isField := ⟨by decide, [0x82], 0, rfl, by simp [RemainingLength.IsOpen], by decide⟩
  value_field := rfl

/-- A message that ends before its topic does. -/
def truncated : ControlPacket where
  header := 0x30
  field := [3]
  body := [0, 5, 97]
  isField := ⟨by decide, [], 3, rfl, by simp [RemainingLength.IsOpen], by decide⟩
  value_field := rfl

end Specimen

/-- Two packets in three chunks that end elsewhere than they do: the first one is accepted, the
second one is refused, and neither costs the other anything. -/
theorem polls_stay_framed_specimen :
    let start : Session Mailbox Wire := ⟨Specimen.client,
      Specimen.line [.chunk [0x40, 0x82], .chunk [0, 0, 1, 0x30], .chunk [3, 0, 5, 97]]⟩
    let session := start.run [.connect Specimen.broker false]
    let readings : List (UInt32 × Nat) := [(10, 1), (10, 2)]
    Client.ofOptions Specimen.options = .ok Specimen.client ∧ Reliable Wire.Delivers
      ∧ session.client.isReady = true
      ∧ Wire.Delivers ([Specimen.padded, Specimen.truncated].flatMap ControlPacket.octets ++ [])
        session.line.platform
      ∧ Specimen.padded.verdict = .ok ()
      ∧ Specimen.truncated.verdict = .error .protocolViolation
      ∧ List.Forall₂ (fun packet exchange => exchange.TakesIn packet)
        [Specimen.padded, Specimen.truncated] (session.history (Operation.polls readings)) := by
  intro start session readings
  have hready : session.client.isReady = true := by decide +kernel
  have hinbound : session.line.platform.inbound
      = [[0x40, 0x82], [0, 0, 1, 0x30], [3, 0, 5, 97]].map .chunk := by decide +kernel
  have hdelivers : Wire.Delivers ([Specimen.padded, Specimen.truncated].flatMap
      ControlPacket.octets ++ []) session.line.platform :=
    ⟨⟨_, hinbound, by decide, rfl⟩, by decide +kernel, by decide +kernel, by decide +kernel,
      by decide +kernel⟩
  refine ⟨Specimen.ofOptions_eq, Wire.delivers_reliable, hready, hdelivers, by decide +kernel,
    by decide +kernel, ?_⟩
  exact (polls_stay_framed Specimen.ofOptions_eq _ _ Wire.delivers_reliable
    [Specimen.padded, Specimen.truncated] readings rfl [] hready hdelivers).1

end FieldLink.Mqtt
