/-
  FieldLink.Proofs.Custody
  ────────────────────────────────
  **NO CONNECTION IS LEAKED, AND NONE IS CLOSED TWICE.**

  Both clients of the library hold at most one connection.  A master is
  followed operation by operation; for an MQTT client its conversation, the
  log connection by connection, already is in order.  So the log accounts
  for every connection that was ever obtained:

      Conversation.custody   — a conversation is in order
      connect_unaddressed …  — arguments that are refused touch nothing
      connections_accounted  — every run of either client
-/
import FieldLink.Proofs.Mqtt.Conversation
import FieldLink.Proofs.Modbus.Custody

namespace FieldLink

/-- **A conversation is in order**: each connection is closed before the next one is asked for. -/
theorem Mqtt.Conversation.custody {isOpen : Bool} {log : List Event}
    (h : Mqtt.Conversation isOpen log) : Custody false log isOpen := by
  induction h with
  | start => exact .nil false
  | refused _ ih => exact .cons rfl ih
  | ended hwrites _ _ ih => exact .cons rfl ((hwrites.custody true).append (.cons rfl ih))
  | running hwrites _ _ => exact .cons rfl (hwrites.custody true)

/-! ## §1. Arguments that are refused. -/

/-- There is no such address: it has no host, or it is too long for its buffer. -/
def Remote.IsUnaddressed (remote : Remote) : Prop :=
  remote.host = "" ∨ 64 < remote.text.utf8ByteSize

theorem Remote.IsUnaddressed.address_eq {remote : Remote} (h : remote.IsUnaddressed) :
    remote.address = .error .invalidAddress :=
  if_pos h

section Refusals

variable {η σ : Type} [OctetStream σ]

theorem Mqtt.connect_unaddressed [Dialer σ] {remote : Remote} (h : remote.IsUnaddressed)
    (useTls : Bool) (session : Mqtt.Session η σ) :
    session.connect remote useTls = (.error .invalidAddress, session) := by
  unfold Mqtt.Session.connect
  rw [h.address_eq]

theorem Modbus.connectTcp_unaddressed [Dialer σ] {remote : Remote} (h : remote.IsUnaddressed)
    (session : Modbus.Session σ) :
    session.connectTcp remote = (.error .invalidAddress, session) := by
  unfold Modbus.Session.connectTcp
  rw [h.address_eq]

theorem Modbus.connectRtu_not_runnable [SerialBus σ] {config : Serial.Config}
    (h : ¬ config.Runnable) (path : String) (session : Modbus.Session σ) :
    session.connectRtu path config = (.error .invalidArgument, session) := by
  have hrefused : config.validate = .error .invalidArgument := if_neg h
  unfold Modbus.Session.connectRtu
  rw [hrefused]

end Refusals

/-! ## §2. Every run. -/

section Runs

variable {η σ : Type} [OctetStream σ] [Dialer σ] [SerialBus σ] [Mqtt.MessageHandler η]

/-- **Every connection is accounted for**, in every run of an MQTT client and of a master, whatever
they are asked to do and whatever the platform refuses or fails at.  Of the connections that were
obtained all have been closed but the one that is held, if one is, and all have been closed whenever
another one is asked for.  A connection that cannot be asked for, since its address has no host or
is too long or since no driver can run the serial line so, leaves the session as it was: nothing
happens on the line, and the old connection stays open. -/
theorem connections_accounted (line : Line σ) :
    (∀ {options : Mqtt.Options} {client : Mqtt.Client η},
      Mqtt.Client.ofOptions options = .ok client →
      ∀ operations : List (Mqtt.Operation η σ),
      let reached := (⟨client, line⟩ : Mqtt.Session η σ).run operations
      ∃ events, reached.line.events = line.events ++ events
        ∧ Accounted events reached.client.holdsConnection)
      ∧ (∀ operations : List (Modbus.Operation σ),
        let reached := (⟨{}, line⟩ : Modbus.Session σ).run operations
        ∃ events, reached.line.events = line.events ++ events
          ∧ Accounted events reached.master.isConnected)
      ∧ (∀ remote : Remote, remote.IsUnaddressed →
        (∀ useTls (session : Mqtt.Session η σ),
          session.connect remote useTls = (.error .invalidAddress, session))
        ∧ ∀ session : Modbus.Session σ,
          session.connectTcp remote = (.error .invalidAddress, session))
      ∧ ∀ config : Serial.Config, ¬ config.Runnable → ∀ path (session : Modbus.Session σ),
        session.connectRtu path config = (.error .invalidArgument, session) := by
  refine ⟨?_, ?_, ?_, ?_⟩
  · intro options client h operations
    obtain ⟨events, hlog, hconversation⟩ := Mqtt.Session.run_conversation h line operations
    exact ⟨events, hlog, hconversation.custody.accounted⟩
  · intro operations
    obtain ⟨events, hlog, hcustody⟩ := Modbus.run_custody ⟨{}, line⟩ operations
    exact ⟨events, hlog, hcustody.accounted⟩
  · intro remote h
    exact ⟨fun useTls session => Mqtt.connect_unaddressed h useTls session,
      fun session => Modbus.connectTcp_unaddressed h session⟩
  · intro config h path session
    exact Modbus.connectRtu_not_runnable h path session

end Runs

namespace Specimen

/-- A platform that accepts a session with a broker, cannot encrypt, and has a serial device that
cannot be configured. -/
def wayward : Line Wire where
  platform := {
    inbound := [.chunk [0x20, 2, 0, 0]]
    bus := { paths := ["/dev/ttyS0"], configureFault := some .unsupported } }

end Specimen

/-- Either client obtains two connections there and closes both; what cannot be asked for is
refused. -/
theorem connections_accounted_specimen :
    let client := (⟨Mqtt.Specimen.client, Specimen.wayward⟩ : Mqtt.Session Mqtt.Mailbox Wire).run
      [.connect Mqtt.Specimen.broker false, .connect Mqtt.Specimen.broker true]
    let master := (⟨{}, Specimen.wayward⟩ : Modbus.Session Wire).run
      [.connectTcp Mqtt.Specimen.broker, .connectRtu "/dev/ttyS0" {}]
    Mqtt.Client.ofOptions Mqtt.Specimen.options = .ok Mqtt.Specimen.client
      ∧ client.line.events.countP Event.obtains = 2 ∧ client.line.events.countP Event.closes = 2
      ∧ master.line.events.countP Event.obtains = 2 ∧ master.line.events.countP Event.closes = 2
      ∧ client.connect ⟨"", 1883⟩ false = (.error .invalidAddress, client)
      ∧ master.connectRtu "/dev/ttyS0" { baudRate := 0 } = (.error .invalidArgument, master) := by
  intro client master
  have hclient : client.line.events.countP Event.obtains = 2 := by decide +kernel
  have hmaster : master.line.events.countP Event.obtains = 2 := by decide +kernel
  have hoffline : client.client.holdsConnection = false := by decide +kernel
  have hclosed : master.master.isConnected = false := by decide +kernel
  obtain ⟨hclients, hmasters, haddress, hconfig⟩ :=
    connections_accounted (η := Mqtt.Mailbox) Specimen.wayward
  obtain ⟨events, hlog, haccounted⟩ := hclients Mqtt.Specimen.ofOptions_eq
    [.connect Mqtt.Specimen.broker false, .connect Mqtt.Specimen.broker true]
  obtain ⟨events', hlog', haccounted'⟩ := hmasters
    [.connectTcp Mqtt.Specimen.broker, .connectRtu "/dev/ttyS0" {}]
  have hbalance : client.line.events.countP Event.obtains
      = client.line.events.countP Event.closes
        + if client.client.holdsConnection then 1 else 0 := by
    rw [show client.line.events = events from hlog]
    exact haccounted.balance
  have hbalance' : master.line.events.countP Event.obtains
      = master.line.events.countP Event.closes
        + if master.master.isConnected then 1 else 0 := by
    rw [show master.line.events = events' from hlog']
    exact haccounted'.balance
  rw [hclient, hoffline] at hbalance
  rw [hmaster, hclosed] at hbalance'
  exact ⟨Mqtt.Specimen.ofOptions_eq, hclient, hbalance.symm, hmaster, hbalance'.symm,
    (haddress ⟨"", 1883⟩ (.inl rfl)).1 false client,
    hconfig { baudRate := 0 } (by decide) "/dev/ttyS0" master⟩

end FieldLink
