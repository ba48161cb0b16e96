/-
  FieldLink.Proofs.Splitting
  ────────────────────────────────
  **A RUN DOES NOT DEPEND ON HOW OCTETS ARE SPLIT.**

  Neither client can tell a stream that comes in large chunks from one that
  comes octet by octet, nor a connection that takes whole packets from one
  that takes a few octets at a time.  One client on two scripts that are
  alike goes through the same exchanges:

      Exchange.Alike           — what two exchanges have in common
      Exchange.alike_of_agree  — where it comes from, for any endpoint
      Mqtt.exchange_alike      — one operation of an MQTT client
      Modbus.exchange_alike    — one operation of a master over TCP
      splitting_unobservable   — every run of either
-/
import FieldLink.Proofs.Line.Splitting
import FieldLink.Proofs.Mqtt.Sound
import FieldLink.Proofs.Mqtt.Simulation
import FieldLink.Proofs.Modbus.Simulation
import FieldLink.Proofs.Modbus.History

namespace FieldLink

/-- Two lines with scripts that are alike, whatever happened on them before. -/
def Line.SameScript (line line' : Line Wire) : Prop := line.platform.Alike line'.platform

/-! ## §1. One endpoint on two scripts. -/

section Endpoints

variable {S O R κ : Type} [Endpoint S O R κ Wire]

/-- The same came of both exchanges. -/
structure Exchange.Alike (exchange exchange' : Exchange S O) : Prop where
  /-- The same reply. -/
  reply : exchange.reply = exchange'.reply
  /-- The same events, once adjacent reads and adjacent writes are joined. -/
  events : Traffic.merged exchange.events = Traffic.merged exchange'.events
  /-- The same device. -/
  device : Endpoint.device exchange.after = Endpoint.device exchange'.after
  /-- The same octets and refusals are still unread. -/
  unread : (Endpoint.line exchange.after).platform.unread
    = (Endpoint.line exchange'.after).platform.unread

/-- **Outcomes that agree come of exchanges that are alike**, if what they leave is one device on
scripts that are alike; what else relates them after it goes on to the next exchange. -/
theorem Exchange.alike_of_agree {related carried : S → S → Prop} {exchange exchange' : Exchange S O}
    (h : Agree related (Endpoint.apply exchange.before exchange.operation)
      (Endpoint.apply exchange'.before exchange'.operation))
    (hrelated : ∀ {after after'}, related after after' →
      Endpoint.device after = Endpoint.device after'
        ∧ Line.Alike (Endpoint.line exchange.before) (Endpoint.line exchange'.before)
          (Endpoint.line after) (Endpoint.line after')
        ∧ carried after after') :
    exchange.Alike exchange' ∧ carried exchange.after exchange'.after := by
  obtain ⟨reply, after, after', happly, happly', hafter⟩ := h
  obtain ⟨hdevice, hline, hcarried⟩ := hrelated hafter
  have heq : exchange.after = after := congrArg Prod.snd happly
  have heq' : exchange'.after = after' := congrArg Prod.snd happly'
  rw [heq, heq']
  refine ⟨⟨?_, ?_, ?_, ?_⟩, hcarried⟩
  · unfold Exchange.reply
    rw [happly, happly']
  · unfold Exchange.events
    rw [heq, heq']
    exact hline.merged_eq
  · rw [heq, heq']
    exact hdevice
  · rw [heq, heq']
    exact hline.platform.unread

end Endpoints

/-! ## §2. Both clients. -/

namespace Mqtt

variable {η : Type}

/-- The same octets arrive on both platforms, whatever their chunks. -/
theorem Operation.Alike.arrival {items items' : List Wire.Item}
    (h : Wire.marks items = Wire.marks items') :
    (Operation.outside (Wire.arrive items) : Operation η Wire).Alike Wire.Alike
      (.outside (Wire.arrive items')) :=
  .outside fun hsame => hsame.arrive h

/-- **One operation of an MQTT client comes to the same**, and the scripts are alike after it. -/
theorem exchange_alike [MessageHandler η] {session session' : Session η Wire}
    (h : Session.Alike Line.SameScript session session') {operation operation' : Operation η Wire}
    (hoperation : operation.Alike Wire.Alike operation') :
    (⟨session, operation⟩ : Exchange η Wire).Alike ⟨session', operation'⟩
      ∧ Session.Alike Line.SameScript (session.apply operation).2
        (session'.apply operation').2 := by
  cases h with
  | @intro client line line' hscript =>
    refine Exchange.alike_of_agree (Session.apply_agree (Line.alike_simulation line line')
      hoperation (.intro client (Line.Alike.refl hscript))) ?_
    intro after after' hafter
    cases hafter with
    | intro client hrest => exact ⟨rfl, hrest, .intro client hrest.platform⟩

end Mqtt

namespace Modbus

/-- **One operation of a master over TCP comes to the same**, and the scripts are alike after
it. -/
theorem exchange_alike {session session' : Session Wire}
    (h : Session.Alike Line.SameScript session session') {operation operation' : Operation Wire}
    (hoperation : operation.Alike Wire.Alike operation') :
    (⟨session, operation⟩ : Exchange Wire).Alike ⟨session', operation'⟩
      ∧ Session.Alike Line.SameScript (session.apply operation).2
        (session'.apply operation').2 := by
  cases h with
  | @intro master line line' hnetwork hscript =>
    refine Exchange.alike_of_agree (Session.apply_agree (Line.alike_simulation line line')
      hoperation (.intro hnetwork (Line.Alike.refl hscript))) ?_
    intro after after' hafter
    cases hafter with
    | intro hnetwork hrest => exact ⟨rfl, hrest, .intro hnetwork hrest.platform⟩

end Modbus

/-! ## §3. Every run. -/

/-- **How octets are split into pieces cannot be observed.**  Take two scripts of which only the
inbound chunks and the size of the pieces that writes take may differ, with the same octets and
refusals unread, and let the same be done on both; what arrives meanwhile may be in different
chunks again.  Then an MQTT client, and a master that has no serial line open and opens none, gets
the same reply from every operation, is the same client after it, and has left the same unread; and
the events are the same once adjacent reads and adjacent writes are joined. -/
theorem splitting_unobservable {η : Type} [Mqtt.MessageHandler η] {wire wire' : Wire}
    (h : wire.Alike wire') (log log' : Array Event) :
    (∀ (client : Mqtt.Client η) {operations operations' : List (Mqtt.Operation η Wire)},
      List.Forall₂ (Mqtt.Operation.Alike Wire.Alike) operations operations' →
      List.Forall₂ Exchange.Alike
        ((⟨client, ⟨wire, log⟩⟩ : Mqtt.Session η Wire).history operations)
        ((⟨client, ⟨wire', log'⟩⟩ : Mqtt.Session η Wire).history operations'))
      ∧ ∀ (master : Modbus.Master) {operations operations' : List (Modbus.Operation Wire)},
        master.connection ≠ some .rtu →
        List.Forall₂ (Modbus.Operation.Alike Wire.Alike) operations operations' →
        List.Forall₂ Exchange.Alike
          ((⟨master, ⟨wire, log⟩⟩ : Modbus.Session Wire).history operations)
          ((⟨master, ⟨wire', log'⟩⟩ : Modbus.Session Wire).history operations') := by
  have hscript : Line.SameScript ⟨wire, log⟩ ⟨wire', log'⟩ := h
  refine ⟨?_, ?_⟩
  · intro client operations operations' hoperations
    have halike : Mqtt.Session.Alike Line.SameScript _ _ := .intro client hscript
    exact (Endpoint.related_runs Mqtt.exchange_alike hoperations halike).1
  · intro master operations operations' hnetwork hoperations
    have halike : Modbus.Session.Alike Line.SameScript _ _ := .intro hnetwork hscript
    exact (Endpoint.related_runs Modbus.exchange_alike hoperations halike).1

namespace Specimen

/-- Octets that arrive one by one. -/
def dribble (octets : Octets) : List Wire.Item := octets.map fun octet => .chunk [octet]

/-- All octets come in one chunk, and one write takes all that it is given. -/
def wholesale (octets : Octets) : Wire where
  inbound := [.chunk octets]

/-- Octets come one by one, and one write takes at most three. -/
def piecemeal (octets : Octets) : Wire where
  inbound := dribble octets
  writeChunk := some 3

/-- A broker's acceptance. -/
def acceptance : Octets := [0x20, 2, 0, 0]

/-- A message with the octet 7 on the topic `a`. -/
def message : Octets := [0x30, 4, 0, 1, 97, 7]

/-- The answer of device 1 to the first request for a register, which holds 42. -/
def answer : Octets := [0, 1, 0, 0, 0, 5, 1, 3, 2, 0, 42]

end Specimen

/-- A subscriber gets the same message, and a master the same register, whether the octets come and
go in one piece or in many; only the logs show which. -/
theorem splitting_unobservable_specimen :
    let calls : List (Mqtt.Operation Mqtt.Mailbox Wire) :=
      [.connect Mqtt.Specimen.broker false, .subscribe "a" {}]
    let operations := calls
      ++ [.outside (Wire.arrive [.chunk Specimen.message]), .poll 100 0]
    let operations' := calls
      ++ [.outside (Wire.arrive (Specimen.dribble Specimen.message)), .poll 100 0]
    let subscriber : Mqtt.Session Mqtt.Mailbox Wire :=
      ⟨Mqtt.Specimen.client, ⟨Specimen.wholesale Specimen.acceptance, #[]⟩⟩
    let subscriber' : Mqtt.Session Mqtt.Mailbox Wire :=
      ⟨Mqtt.Specimen.client, ⟨Specimen.piecemeal Specimen.acceptance, #[]⟩⟩
    let requests : List (Modbus.Operation Wire) :=
      [.connectTcp Mqtt.Specimen.broker, .read .holdingRegisters 0 1]
    let master : Modbus.Session Wire := ⟨{}, ⟨Specimen.wholesale Specimen.answer, #[]⟩⟩
    let master' : Modbus.Session Wire := ⟨{}, ⟨Specimen.piecemeal Specimen.answer, #[]⟩⟩
    List.Forall₂ Exchange.Alike (subscriber.history operations)
        (subscriber'.history operations')
      ∧ (subscriber.run operations).line.events.getLast? = some (.delivered "a" [7])
      ∧ (subscriber.run operations).line.events ≠ (subscriber'.run operations').line.events
      ∧ List.Forall₂ Exchange.Alike (master.history requests) (master'.history requests)
      ∧ (master.run requests).line.platform.unread = []
      ∧ (master.run requests).line.events ≠ (master'.run requests).line.events := by
  intro calls operations operations' subscriber subscriber' requests master master'
  have hacceptance : (Specimen.wholesale Specimen.acceptance).Alike
      (Specimen.piecemeal Specimen.acceptance) := ⟨by decide, rfl, by decide⟩
  have hanswer : (Specimen.wholesale Specimen.answer).Alike
      (Specimen.piecemeal Specimen.answer) := ⟨by decide, rfl, by decide⟩
  have hoperations : List.Forall₂ (Mqtt.Operation.Alike Wire.Alike) operations operations' :=
    .cons (.call nofun) (.cons (.call nofun) (.cons (.arrival (by decide))
      (.cons (.call nofun) .nil)))
  have hrequests : List.Forall₂ (Modbus.Operation.Alike Wire.Alike) requests requests :=
    .cons (.call nofun nofun) (.cons (.call nofun nofun) .nil)
  exact ⟨(splitting_unobservable hacceptance #[] #[]).1 _ hoperations, by decide +kernel,
    by decide +kernel,
    (splitting_unobservable (η := Mqtt.Mailbox) hanswer #[] #[]).2 _ nofun hrequests,
    by decide +kernel, by decide +kernel⟩

end FieldLink
