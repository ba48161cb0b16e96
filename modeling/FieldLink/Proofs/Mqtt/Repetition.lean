/-
  FieldLink.Proofs.Mqtt.Repetition
  ────────────────────────────────
  **A REPETITION IS THE ORIGINAL, OCTET BY OCTET.**

  A message is built twice over: by `publish` from its arguments, and by
  every round of repetitions from the table.  Both come to the same octets,
  however much lies between them, since the table holds what the
  publication was given and an identifier stays with its message:

      delivered_original      — what a publication with an identifier wrote
      exists_original         — where a pending message comes from
      repetition_is_original  — every repetition in every run
-/
import FieldLink.Proofs.Mqtt.Outstanding

namespace FieldLink.Mqtt

/-! ## §1. Originals. -/

/-- The packet of a message under an identifier. -/
def Packet.ofContent (id : UInt16) (content : String × Octets × Bool) : Octets :=
  framed (publishHeaderOf .atLeastOnce content.2.2)
    (topicField content.1 ++ Octets.big id ++ content.2.1)

/-- The flag of a header octet that says that a message is a repetition. -/
def Packet.repetitionFlag : UInt8 := 0x08

/-- The packet that the outstanding publication of an identifier wrote. -/
def Original {η σ : Type} [OctetStream σ] [Dialer σ] [MessageHandler η]
    (history : List (Exchange η σ)) (id : UInt16) (packet : Octets) : Prop :=
  ∃ exchange, Outstanding history id exchange ∧ Delivered packet exchange.events

theorem Client.Sound.packet_ofContent {η : Type} {client : Client η} (h : client.Sound)
    {id : UInt16} {pending : Pending} (hget : client.pending.get? id = some pending) :
    pending.packet id = .ok (Packet.ofContent id pending.content) :=
  h.packet_eq hget

section Originals

variable {η σ : Type} [OctetStream σ] [Dialer σ] [MessageHandler η]

/-- **A publication that gave its identifier back has written its packet.** -/
theorem Exchange.delivered_original {exchange : Exchange η σ}
    (h : exchange.before.client.Sound) {id : UInt16} {content : String × Octets × Bool}
    (hmessage : exchange.RegistersMessage id content) :
    Delivered (Packet.ofContent id content) exchange.events := by
  obtain ⟨topic, payload, retain⟩ := content
  obtain ⟨hregisters, now, hoperation⟩ := hmessage
  obtain ⟨outcome, hpublishing, hreply, hafter⟩ := publish_outcome h hoperation
  rw [Registers, hreply] at hregisters
  cases hpublishing with
  | refused => cases hregisters
  | kept htopic hentry hpacket htable hlog hsent =>
    have hid : exchange.before.client.allocate.1 = id :=
      Option.some.inj (Reply.published.inj (Except.ok.inj hregisters))
    have hne := (exchange.before.client.allocate_fresh h.next_ne_zero).1
    obtain ⟨-, rfl, -⟩ := Pending.copy?_eq_some_iff.mp hentry
    -- the packet is the one that the table will be read back as
    rw [Packet.publish_numbered htopic (Payload.octets_fit _) retain hne, hid] at hpacket
    obtain rfl := Except.ok.inj hpacket
    rw [Exchange.events_eq (by rw [hafter]; exact hlog)]
    exact hsent
  | lost hpacket hlog hsent => cases hregisters

/-- **Every pending message has an original**, and it is what the table would be read back as. -/
theorem exists_original {options : Options} {client : Client η}
    (h : Client.ofOptions options = .ok client) (line : Line σ)
    (operations : List (Operation η σ)) {id : UInt16} {content : String × Octets × Bool}
    (hkept : ((⟨client, line⟩ : Session η σ).run operations).client.kept id = some content) :
    Original ((⟨client, line⟩ : Session η σ).history operations) id
      (Packet.ofContent id content) := by
  obtain ⟨exchange, houtstanding, hmessage⟩ :=
    (kept_eq_some_iff h line operations id content).mp hkept
  have hsound := Session.history_sound h line operations houtstanding.mem
  exact ⟨exchange, houtstanding, exchange.delivered_original hsound hmessage⟩

/-- An original says in full which publication it comes from, and not that it is a repetition. -/
theorem original_layout {options : Options} {client : Client η}
    (h : Client.ofOptions options = .ok client) (line : Line σ)
    (operations : List (Operation η σ)) {id : UInt16} {packet : Octets}
    {exchange : Exchange η σ}
    (houtstanding : Outstanding ((⟨client, line⟩ : Session η σ).history operations) id exchange)
    (hdelivered : Delivered packet exchange.events) :
    ∃ topic payload retain now,
      exchange.operation = .publish topic payload .atLeastOnce retain now
        ∧ packet = Packet.framed (Packet.publishHeaderOf .atLeastOnce retain)
          (Packet.topicField topic ++ Octets.big id ++ payload)
        ∧ Packet.publishHeaderOf .atLeastOnce retain &&& Packet.repetitionFlag = 0 := by
  have hsound := Session.history_sound h line operations houtstanding.mem
  obtain ⟨⟨topic, payload, retain⟩, hmessage⟩ :=
    registersMessage_of_registers hsound houtstanding.registers
  have hpacket : packet = Packet.ofContent id (topic, payload, retain) := by
    rw [← hdelivered.sent_eq, (exchange.delivered_original hsound hmessage).sent_eq]
  obtain ⟨-, now, hoperation⟩ := hmessage
  refine ⟨topic, payload, retain, now, hoperation, hpacket, ?_⟩
  cases retain <;> decide

/-! ## §2. Repetitions. -/

/-- **A packet that is built from a table has been written before**, by the publication that put
its message there. -/
theorem original_of_builds {options : Options} {client : Client η}
    (h : Client.ofOptions options = .ok client) (line : Line σ)
    (operations : List (Operation η σ)) {client' : Client η} (hsound : client'.Sound)
    (hkept : ∀ {id content}, client'.kept id = some content →
      ((⟨client, line⟩ : Session η σ).run operations).client.kept id = some content)
    {id : UInt16} {packet : Octets} (hbuilds : Session.Builds client' id packet) :
    Original ((⟨client, line⟩ : Session η σ).history operations) id packet := by
  obtain ⟨pending, hentry, hpacket⟩ := hbuilds
  have hget := (Table.get?_eq_some_iff _ _ _).mpr hentry
  have hcontent : client'.kept id = some pending.content := by
    rw [Client.kept, hget]
    rfl
  rw [hsound.packet_ofContent hget] at hpacket
  obtain rfl := Except.ok.inj hpacket
  exact exists_original h line operations (hkept hcontent)

/-- **Every repetition is its original**, in every poll of every run.  Whatever is in the table can
be built, so that a round of repetitions ends complete or with a failed write: a packet that
cannot be built is not among the ways in which it can end. -/
theorem repetition_is_original {options : Options} {client : Client η}
    (h : Client.ofOptions options = .ok client) (line : Line σ)
    (operations : List (Operation η σ)) :
    let start : Session η σ := ⟨client, line⟩
    let history := start.history operations
    (∀ id pending, (id, pending) ∈ (start.run operations).client.pending.entries →
        ∃ packet, pending.packet id = .ok packet ∧ Original history id packet)
      ∧ (∀ id packet exchange, Outstanding history id exchange →
        Delivered packet exchange.events →
        ∃ topic payload retain now,
          exchange.operation = .publish topic payload .atLeastOnce retain now
            ∧ packet = Packet.framed (Packet.publishHeaderOf .atLeastOnce retain)
              (Packet.topicField topic ++ Octets.big id ++ payload)
            ∧ Packet.publishHeaderOf .atLeastOnce retain &&& Packet.repetitionFlag = 0)
      ∧ ∀ past exchange later, history = past ++ exchange :: later →
        ∀ timeoutMs now, exchange.operation = .poll timeoutMs now →
        let taken := (exchange.before.takeIn timeoutMs).2
        (exchange.before.client.isReady = false → exchange.after = exchange.before)
          ∧ (exchange.before.client.isReady = true → taken.client.isConnected = false →
            exchange.after = taken)
          ∧ (exchange.before.client.isReady = true → taken.client.isConnected = true →
            exchange.after = (taken.resendOverdue now).2
              ∧ Session.Resending (Original past) now taken (taken.resendOverdue now)) := by
  intro start history
  refine ⟨?_, ?_, ?_⟩
  · intro id pending hentry
    have hsound : (start.run operations).client.Sound := Session.run_sound h line operations
    obtain ⟨packet, hpacket⟩ := hsound.built _ hentry
    exact ⟨packet, hpacket,
      original_of_builds h line operations hsound (fun hkept => hkept) ⟨pending, hentry, hpacket⟩⟩
  · intro id packet exchange houtstanding hdelivered
    exact original_layout h line operations houtstanding hdelivered
  · intro past exchange later hsplit timeoutMs now hoperation taken
    obtain ⟨earlier, rfl, hbefore⟩ := Endpoint.history_split hsplit
    have hsound : exchange.before.client.Sound := by
      rw [hbefore]
      exact Session.run_sound h line earlier
    obtain ⟨-, hafter⟩ := Exchange.poll_outcome hoperation
    refine ⟨?_, ?_, ?_⟩
    -- ===== no connection: nothing happens =====
    · intro hready
      rw [hafter, Session.poll_not_ready timeoutMs now (Bool.eq_false_iff.mp hready)]
    -- ===== the connection is lost in the first half: nothing is sent again =====
    · intro hready hconnected
      rcases Session.poll_cases timeoutMs now hsound hready with ⟨-, heq⟩ | ⟨hholds, -⟩
      · rw [hafter, heq]
      · have htaken := Session.takeIn_sound timeoutMs hsound hready
        rw [htaken.isConnected_iff.mpr hholds] at hconnected
        cases hconnected
    -- ===== the connection is there: what is overdue is sent again =====
    · intro hready hconnected
      have htaken : taken.client.Sound := Session.takeIn_sound timeoutMs hsound hready
      rcases Session.poll_cases timeoutMs now hsound hready with
        ⟨hlost, -⟩ | ⟨-, outcome, rfl, hresending, heq⟩
      · rw [htaken.isConnected_iff, hlost] at hconnected
        cases hconnected
      · refine ⟨by rw [hafter, heq], hresending.mono ?_⟩
        intro id packet hbuilds
        apply original_of_builds h line earlier htaken _ hbuilds
        intro id' content hkept
        have hearlier := Session.kept_of_takeIn hsound hready timeoutMs hkept
        rw [hbefore] at hearlier
        exact hearlier

/-- A message that is five seconds old is sent again. -/
theorem repetition_is_original_specimen :
    let first : List (Operation Mailbox Wire) := [.connect Specimen.broker false,
      .publish "a" [1] .atLeastOnce false 0]
    let start : Session Mailbox Wire := ⟨Specimen.client, Specimen.line []⟩
    let taken := ((start.run first).takeIn 10).2
    Client.ofOptions Specimen.options = .ok Specimen.client
      ∧ Session.overdue 5000 taken.client.pending.entries = [1]
      ∧ Session.Resending (Original (start.history first)) 5000 taken
        (taken.resendOverdue 5000) := by
  intro first start taken
  have hready : (start.run first).client.isReady = true := by decide +kernel
  have hconnected : taken.client.isConnected = true := by decide +kernel
  have hoverdue : Session.overdue 5000 taken.client.pending.entries = [1] := by decide +kernel
  obtain ⟨-, -, hpolls⟩ := repetition_is_original Specimen.ofOptions_eq (Specimen.line [])
    (first ++ [.poll 10 5000])
  obtain ⟨-, -, hrepeated⟩ := hpolls (start.history first) ⟨start.run first, .poll 10 5000⟩ []
    (Endpoint.history_concat start first _) 10 5000 rfl
  exact ⟨Specimen.ofOptions_eq, hoverdue, (hrepeated hready hconnected).2⟩

end Originals

end FieldLink.Mqtt
