/-
  FieldLink.Proofs.Modbus.InStep
  ────────────────────────────────
  **A MASTER KEEPS ITS PLACE ON A TCP STREAM.**

  Over TCP nothing but the header tells where a unit ends, and its length
  field counts the function code and the data alone.  Reader and writer
  agree on this, so as long as the line can be read each reception takes
  one whole unit off the stream, whichever device it is from, whatever it
  holds and however it comes in pieces.  A unit with another number is
  refused, but only after it has been taken; the next reception begins
  where the next unit begins:

      Adu.octets_framed         — a unit behind its header is a frame
      receiveResponse_readable  — one reception takes one unit
      receptions_in_step        — any number of them, each to its own call
-/
import FieldLink.Proofs.Modbus.Answer
import FieldLink.Proofs.Modbus.History

namespace FieldLink.Modbus

/-! ## §1. Units on a stream. -/

/-- A unit of the protocol as it comes over TCP, from any device and with any number. -/
structure Adu where
  /-- The number in front of it. -/
  transaction : UInt16
  /-- The device that it is from. -/
  unit : UInt8
  /-- The unit itself. -/
  pdu : Octets
  /-- It is not empty. -/
  pdu_pos : 1 ≤ pdu.length
  /-- It is not too long. -/
  pdu_le : pdu.length ≤ 253

namespace Adu

/-- The octets of the unit behind its header, with protocol 0 and the length of the unit. -/
def octets (adu : Adu) : Octets :=
  Octets.big adu.transaction ++ [0, 0] ++ Octets.big (UInt16.ofNat adu.pdu.length)
    ++ adu.unit :: adu.pdu

/-- The function code is what a unit begins with. -/
theorem exists_pdu (adu : Adu) : ∃ function data, adu.pdu = function :: data :=
  List.exists_cons_of_length_pos adu.pdu_pos

/-- **A unit behind its header is the frame of a response**, whose contents are the unit. -/
theorem octets_framed (adu : Adu) :
    ∃ response : Response, response.unit = adu.unit ∧ response.pdu = adu.pdu
      ∧ Frame.tcp adu.transaction response.unit response.function response.data
        = .ok adu.octets := by
  obtain ⟨function, data, hpdu⟩ := adu.exists_pdu
  have hfits : data.length + 1 ≤ maxPduLength := by
    have hle := adu.pdu_le
    rw [hpdu] at hle
    exact hle
  refine ⟨⟨adu.unit, function, data, hfits⟩, rfl, hpdu.symm, Frame.tcp_ok_iff.mpr ⟨hfits, ?_⟩⟩
  rw [octets, hpdu]
  rfl

/-- **Any function with up to 252 octets of data is framed as such a unit.** -/
theorem exists_framed (transaction : UInt16) (unit function : UInt8) {data : Octets}
    (h : data.length ≤ 252) :
    ∃ adu : Adu, adu.transaction = transaction ∧ adu.unit = unit ∧ adu.pdu = function :: data
      ∧ Frame.tcp transaction unit function data = .ok adu.octets :=
  ⟨⟨transaction, unit, function :: data, Nat.le_add_left 1 _, Nat.succ_le_succ h⟩, rfl, rfl, rfl,
    Frame.tcp_ok_iff.mpr ⟨Nat.succ_le_succ h, rfl⟩⟩

/-- What a reception makes of the unit: with the number that is waited for it is the response. -/
def Answers (adu : Adu) (number : UInt16) (result : Except Fault Response) : Prop :=
  if adu.transaction = number then
    ∃ response, result = .ok response ∧ response.unit = adu.unit ∧ response.pdu = adu.pdu
  else result = .error .protocolViolation

end Adu

/-! ## §2. One reception. -/

section Reception

variable {σ : Type} [OctetStream σ] {holds : Octets → σ → Prop}

/-- **A reception takes one unit off the stream**, accepts it or not, and keeps the connection. -/
theorem receiveResponse_readable (hreadable : Readable holds) {session : Session σ}
    (hopen : session.master.connection = some .tcp) (adu : Adu) {rest : Octets}
    (hholds : holds (adu.octets ++ rest) session.line.platform) (timeoutMs : UInt32) :
    ∃ result line, session.receiveResponse timeoutMs = (result, { session with line := line })
      ∧ adu.Answers session.master.transaction result
      ∧ (∃ events, line.events = session.line.events ++ events
        ∧ Traffic.received events = adu.octets)
      ∧ holds rest line.platform := by
  obtain ⟨response, hunit, hpdu, hframe⟩ := adu.octets_framed
  obtain ⟨line, hreceive, hreceived, hrest⟩ :=
    receiveResponse_framed hreadable hopen hframe hholds timeoutMs
  refine ⟨_, line, hreceive, ?_, hreceived, hrest⟩
  unfold Adu.Answers
  split
  · exact ⟨response, rfl, hunit, hpdu⟩
  · rfl

end Reception

/-! ## §3. Any number of receptions. -/

section Receptions

variable {σ : Type} [OctetStream σ] [Dialer σ] [SerialBus σ] {holds : Octets → σ → Prop}

/-- The call took this unit off the stream, and nothing else; the master is as before. -/
structure Exchange.TakesIn (master : Master) (adu : Adu) (exchange : Exchange σ) : Prop where
  /-- Every octet that was read is of the unit, and the whole unit was read. -/
  received_eq : Traffic.received exchange.events = adu.octets
  /-- The connection is still open. -/
  master_eq : exchange.after.master = master
  /-- The reply goes by the number. -/
  reply_eq : ∃ result : Except Fault Response, exchange.reply = result.map .response
    ∧ adu.Answers master.transaction result

/-- Receptions, one behind the other. -/
def Operation.receptions (timeouts : List UInt32) : List (Operation σ) :=
  timeouts.map .receiveResponse

theorem receptions_readable (hreadable : Readable holds) (adus : List Adu)
    (timeouts : List UInt32) (hlength : timeouts.length = adus.length) {rest : Octets}
    {session : Session σ} (hopen : session.master.connection = some .tcp)
    (hholds : holds (adus.flatMap Adu.octets ++ rest) session.line.platform) :
    List.Forall₂ (fun adu exchange => exchange.TakesIn session.master adu) adus
        (session.history (Operation.receptions timeouts))
      ∧ (session.run (Operation.receptions timeouts)).master = session.master
      ∧ holds rest (session.run (Operation.receptions timeouts)).line.platform := by
  induction adus generalizing timeouts session with
  | nil =>
    obtain rfl := List.length_eq_zero_iff.mp hlength
    exact ⟨.nil, rfl, hholds⟩
  | cons adu adus ih =>
    obtain ⟨timeoutMs, timeouts, rfl⟩ := List.exists_cons_of_length_eq_add_one hlength
    rw [List.flatMap_cons, List.append_assoc] at hholds
    obtain ⟨result, line, hreceive, hanswers, ⟨events, hlog, hoctets⟩, hholds'⟩ :=
      receiveResponse_readable hreadable hopen adu hholds timeoutMs
    -- the call leaves the same master on another line
    have happly : session.apply (.receiveResponse timeoutMs)
        = (result.map .response, { session with line := line }) := by
      rw [Session.apply, Session.replying, hreceive]
    obtain ⟨hlater, hmaster, hlast⟩ :=
      @ih timeouts (Nat.succ.inj hlength) { session with line := line } hopen hholds'
    have hhistory : session.history (Operation.receptions (timeoutMs :: timeouts))
        = ⟨session, .receiveResponse timeoutMs⟩
          :: Session.history { session with line := line } (Operation.receptions timeouts) := by
      show _ :: Session.history (session.apply (.receiveResponse timeoutMs)).2 _ = _
      rw [happly]
      rfl
    have hrun : session.run (Operation.receptions (timeoutMs :: timeouts))
        = Session.run { session with line := line } (Operation.receptions timeouts) := by
      show Session.run (session.apply (.receiveResponse timeoutMs)).2 _ = _
      rw [happly]
      rfl
    rw [hhistory, hrun]
    refine ⟨.cons ⟨?_, ?_, result, ?_, hanswers⟩ hlater, hmaster, hlast⟩
    · have hevents : (⟨session, .receiveResponse timeoutMs⟩ : Exchange σ).events = events := by
        refine Exchange.events_eq ?_
        show (session.apply (.receiveResponse timeoutMs)).2.line.events = _
        rw [happly]
        exact hlog
      rw [hevents]
      exact hoctets
    · show (session.apply (.receiveResponse timeoutMs)).2.master = _
      rw [happly]
    · show (session.apply (.receiveResponse timeoutMs)).1 = _
      rw [happly]

/-- **A master on a TCP connection stays in step with the stream.**  From every session with such a
connection, on every platform that can be read, units of any number, device and length follow each
other in pieces of any size, and as many responses are received.  Each call takes exactly the octets
of its own unit and leaves the master as it is; it gives the device and the unit if the unit has the
number of the last request, and reports a violation of the protocol otherwise.  What is behind the
units is still there at the end.  In particular every function with up to 252 octets of data can be
framed with that number, and is received as it was framed. -/
theorem receptions_in_step (hreadable : Readable holds) {session : Session σ}
    (hopen : session.master.connection = some .tcp) :
    (∀ (adus : List Adu) (timeouts : List UInt32) (rest : Octets),
        timeouts.length = adus.length →
        holds (adus.flatMap Adu.octets ++ rest) session.line.platform →
        let receptions : List (Operation σ) := Operation.receptions timeouts
        List.Forall₂ (fun adu exchange => exchange.TakesIn session.master adu) adus
            (session.history receptions)
          ∧ (session.run receptions).master = session.master
          ∧ holds rest (session.run receptions).line.platform)
      ∧ ∀ (unit function : UInt8) (data : Octets), data.length ≤ 252 →
        ∃ frame, Frame.tcp session.master.transaction unit function data = .ok frame
          ∧ ∀ (rest : Octets) (timeoutMs : UInt32),
            holds (frame ++ rest) session.line.platform →
            ∃ response line, session.receiveResponse timeoutMs
                = (.ok response, { session with line := line })
              ∧ response.unit = unit ∧ response.function = function ∧ response.data = data
              ∧ holds rest line.platform := by
  refine ⟨fun adus timeouts rest hlength hholds =>
    receptions_readable hreadable adus timeouts hlength hopen hholds, ?_⟩
  intro unit function data hdata
  obtain ⟨adu, hnumber, rfl, hpdu, hframe⟩ :=
    Adu.exists_framed session.master.transaction unit function hdata
  refine ⟨adu.octets, hframe, fun rest timeoutMs hholds => ?_⟩
  obtain ⟨result, line, hreceive, hanswers, -, hrest⟩ :=
    receiveResponse_readable hreadable hopen adu hholds timeoutMs
  rw [Adu.Answers, if_pos hnumber] at hanswers
  obtain ⟨response, rfl, hunit, hsame⟩ := hanswers
  obtain ⟨hfunction, hrestData⟩ := List.cons.inj (hsame.trans hpdu)
  exact ⟨response, line, hreceive, hunit, hfunction, hrestData, hrest⟩

end Receptions

namespace Specimen

/-- A unit that answers an earlier request. -/
def belated : Adu where
  transaction := 6
  unit := 1
  pdu := [3, 2, 0, 41]
  pdu_pos := by decide
  pdu_le := by decide

/-- The unit that is waited for. -/
def awaited : Adu where
  transaction := 7
  unit := 9
  pdu := [3, 2, 0, 42]
  pdu_pos := by decide
  pdu_le := by decide

/-- A master that waits for answer 7, on a connection that takes no octet and brings these
chunks. -/
def waiting (chunks : List Octets) : Session Wire where
  master := { connection := some .tcp, transaction := 7 }
  line := { platform := { inbound := chunks.map .chunk, writeBudget := some 0 } }

end Specimen

/-- Two units in five chunks that end elsewhere than they do: the one with the earlier number is
refused, and the other one is received.  A frame that was built is received as it was built. -/
theorem receptions_in_step_specimen :
    let both := Specimen.waiting
      [[0, 6, 0], [0, 0, 4, 1, 3, 2, 0, 41, 0, 7], [0, 0, 0, 4], [9, 3, 2], [0, 42]]
    let single := Specimen.waiting [[0, 7, 0, 0], [0, 4, 9, 3, 2, 0, 42]]
    let receptions : List (Operation Wire) := Operation.receptions [1000, 1000]
    Readable Wire.Feeds
      ∧ List.Forall₂ (fun adu exchange => exchange.TakesIn both.master adu)
        [Specimen.belated, Specimen.awaited] (both.history receptions)
      ∧ (∃ result, (both.history receptions).map Exchange.reply
        = [.error .protocolViolation, .ok (.response result)] ∧ result.unit = 9)
      ∧ Frame.tcp single.master.transaction 9 3 [2, 0, 42]
        = .ok [0, 7, 0, 0, 0, 4, 9, 3, 2, 0, 42]
      ∧ ∃ response line, single.receiveResponse 1000 = (.ok response, { single with line := line })
        ∧ response.unit = 9 ∧ response.function = 3 ∧ response.data = [2, 0, 42] := by
  intro both single receptions
  have hboth : Wire.Feeds ([Specimen.belated, Specimen.awaited].flatMap Adu.octets ++ [])
      both.line.platform := ⟨⟨_, rfl, by decide, by decide +kernel⟩, rfl⟩
  have hframe : Frame.tcp single.master.transaction 9 3 [2, 0, 42]
      = .ok [0, 7, 0, 0, 0, 4, 9, 3, 2, 0, 42] := by decide +kernel
  have hsingle : Wire.Feeds ([0, 7, 0, 0, 0, 4, 9, 3, 2, 0, 42] ++ []) single.line.platform :=
    ⟨⟨_, rfl, by decide, rfl⟩, rfl⟩
  obtain ⟨hreceptions, -⟩ := receptions_in_step Wire.feeds_readable
    (show both.master.connection = some .tcp from rfl)
  obtain ⟨-, hframes⟩ := receptions_in_step Wire.feeds_readable
    (show single.master.connection = some .tcp from rfl)
  obtain ⟨hhistory, -, -⟩ := hreceptions [Specimen.belated, Specimen.awaited] [1000, 1000] [] rfl
    hboth
  obtain ⟨frame, hbuilt, hreceived⟩ := hframes 9 3 [2, 0, 42] (by decide)
  obtain rfl := Except.ok.inj (hframe.symm.trans hbuilt)
  obtain ⟨response, line, hreceive, hunit, hfunction, hdata, -⟩ := hreceived [] 1000 hsingle
  exact ⟨Wire.feeds_readable, hhistory, ⟨⟨9, 3, [2, 0, 42], by decide⟩, by decide +kernel, rfl⟩,
    hframe, response, line, hreceive, hunit, hfunction, hdata⟩

end FieldLink.Modbus
