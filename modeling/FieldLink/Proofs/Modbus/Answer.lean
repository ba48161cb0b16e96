/-
  FieldLink.Proofs.Modbus.Answer
  ────────────────────────────────
  **A REQUEST AND ITS ANSWER OVER A LINE THAT WORKS.**

  Where no call fails, a master takes the frame of an answer off the line
  and nothing else.  Over TCP the frame may come in any pieces, since its
  header tells where it ends; on a serial line it has to come at once
  (`Framing.Suits`).  A request is then answered by what the line holds, if
  that is the frame of a response that was asked for:

      receiveTcp_readable    — one frame off a stream of frames
      receiveRtu_unbroken    — one frame with one read
      receiveResponse_framed — a frame over TCP, accepted or not
      receiveResponse_suits  — either of them, on the open connection
      exchange_suits         — a whole request
      exchange_received      — what came in during a request that succeeded
-/
import FieldLink.Proofs.Line.Delivery
import FieldLink.Proofs.Modbus.Calls
import FieldLink.Proofs.Modbus.SerialFrame

namespace FieldLink.Modbus

/-! ## §1. Frames over TCP. -/

namespace Frame

theorem tcp_ok_iff {transaction : UInt16} {unit function : UInt8} {data frame : Octets} :
    tcp transaction unit function data = .ok frame ↔ data.length + 1 ≤ maxPduLength
      ∧ frame = Octets.big transaction ++ [0, 0] ++ Octets.big (UInt16.ofNat (data.length + 1))
        ++ unit :: function :: data := by
  unfold tcp
  split
  · next hlong =>
    refine ⟨nofun, fun h => ?_⟩
    omega
  · next hfits =>
    rw [Except.ok.injEq, eq_comm]
    exact ⟨fun h => ⟨by omega, h⟩, And.right⟩

/-- **A header is read as it was built.** -/
theorem header_built (transaction : UInt16) (unit : UInt8) {length : Nat} (hpos : 1 ≤ length)
    (hle : length ≤ maxPduLength) :
    header (Octets.big transaction ++ [0, 0] ++ Octets.big (UInt16.ofNat length) ++ [unit])
      = .ok ⟨transaction, length, unit⟩ := by
  have hvalue : (UInt16.ofNat length).toNat = length := by
    rw [maxPduLength] at hle
    rw [UInt16.toNat_ofNat', Nat.mod_eq_of_lt (by omega)]
  have hzero : Octets.word 0 0 = 0 := rfl
  show header [_, _, 0, 0, _, _, unit] = _
  unfold header
  dsimp only
  rw [Octets.word_big, Octets.word_big, hvalue, hzero, if_neg]
  intro hbad
  rcases hbad with hprotocol | hempty | hlong
  · exact hprotocol rfl
  · omega
  · omega

end Frame

namespace Framing

/-- What a platform has to do for a framing: over TCP the octets may come in any pieces, on a
serial line what is there comes with one read. -/
def Suits {σ : Type} [OctetStream σ] (framing : Framing) (holds : Octets → σ → Prop) : Prop :=
  match framing with
  | .tcp => Reliable holds
  | .rtu => Unbroken holds

theorem Suits.reliable {σ : Type} [OctetStream σ] {framing : Framing} {holds : Octets → σ → Prop}
    (h : framing.Suits holds) : Reliable holds := by
  cases framing with
  | tcp => exact h
  | rtu => exact h.toReliable

/-- Function and data that fit into a unit can be framed. -/
theorem exists_frame (framing : Framing) (transaction : UInt16) (unit function : UInt8)
    {data : Octets} (h : data.length + 1 ≤ maxPduLength) :
    ∃ frame, framing.frame transaction unit function data = .ok frame := by
  cases framing with
  | tcp => exact ⟨_, Frame.tcp_ok_iff.mpr ⟨h, rfl⟩⟩
  | rtu => exact ⟨_, Frame.rtu_ok_iff.mpr ⟨h, rfl⟩⟩

/-- Only what does not fit into a unit cannot be framed. -/
theorem frame_error {framing : Framing} {transaction : UInt16} {unit function : UInt8}
    {data : Octets} {fault : Fault}
    (h : framing.frame transaction unit function data = .error fault) :
    fault = .capacityExceeded ∧ 252 < data.length := by
  by_cases hfits : data.length + 1 ≤ maxPduLength
  · obtain ⟨frame, hframe⟩ := framing.exists_frame transaction unit function hfits
    cases hframe.symm.trans h
  · have hlong := Nat.not_le.mp hfits
    have hfault : fault = .capacityExceeded := by
      cases framing with
      | tcp => exact (Except.error.inj ((if_pos hlong).symm.trans h)).symm
      | rtu => exact (Except.error.inj ((if_pos hlong).symm.trans h)).symm
    exact ⟨hfault, Nat.lt_of_succ_lt_succ hlong⟩

/-- Only over TCP the number of a request is a part of its frame. -/
theorem frame_numbered (framing : Framing) (master : Master) (unit function : UInt8)
    (data : Octets) :
    framing.frame (master.numbered framing).transaction unit function data
      = framing.frame (master.transaction + 1) unit function data := by
  cases framing <;> rfl

end Framing

/-! ## §2. Taking a frame. -/

section Taking

variable {σ : Type} [OctetStream σ] {holds : Octets → σ → Prop}

/-- **A frame is taken off a stream of frames**, and what comes behind it is left. -/
theorem receiveTcp_readable (hreadable : Readable holds) {response : Response}
    {transaction : UInt16} {frame rest : Octets} {line : Line σ}
    (hframe : Frame.tcp transaction response.unit response.function response.data = .ok frame)
    (hholds : holds (frame ++ rest) line.platform) :
    ∃ line', Session.receiveTcp line = (.ok (transaction, response), line')
      ∧ holds rest line'.platform := by
  obtain ⟨hfits, rfl⟩ := Frame.tcp_ok_iff.mp hframe
  -- ===== the header =====
  have hparts : Octets.big transaction ++ [0, 0]
        ++ Octets.big (UInt16.ofNat (response.data.length + 1))
        ++ response.unit :: response.function :: response.data ++ rest
      = (Octets.big transaction ++ [0, 0]
        ++ Octets.big (UInt16.ofNat (response.data.length + 1)) ++ [response.unit])
        ++ (response.pdu ++ rest) := by
    simp [Response.pdu]
  rw [hparts] at hholds
  obtain ⟨line₁, hread, -, hholds₁⟩ :=
    Line.readExact_readable hreadable (show _ = tcpHeaderLength from rfl) hholds
  -- ===== the unit behind it =====
  obtain ⟨line₂, hread', -, hholds₂⟩ :=
    Line.readExact_readable hreadable (show _ = response.data.length + 1 from rfl) hholds₁
  refine ⟨line₂, ?_, hholds₂⟩
  unfold Session.receiveTcp
  rw [hread]
  dsimp only
  rw [Frame.header_built transaction response.unit (Nat.le_add_left 1 _) hfits]
  dsimp only
  rw [hread']
  dsimp only
  rw [Response.ofPdu_fits]
  rfl

/-- **A serial frame is taken with one read.** -/
theorem receiveRtu_unbroken (hunbroken : Unbroken holds) {response : Response}
    (hdata : response.data ≠ []) {frame : Octets} {line : Line σ}
    (hframe : Frame.rtu response.unit response.function response.data = .ok frame)
    (hholds : holds frame line.platform) :
    ∃ line', Session.receiveRtu line = (.ok response, line') ∧ holds [] line'.platform := by
  obtain ⟨hfits, hbody⟩ := Frame.rtu_ok_iff.mp hframe
  have hlength : frame.length ≤ maxSerialFrameLength := by
    rw [hbody, Frame.withChecksum]
    simp only [List.length_append, List.length_cons, Octets.length_little, maxPduLength,
      maxSerialFrameLength] at hfits ⊢
    omega
  have hnonempty : frame ≠ [] := by
    rw [hbody]
    exact List.cons_ne_nil _ _
  obtain ⟨line', hread, hempty⟩ := Line.read_unbroken hunbroken hholds hnonempty hlength
  refine ⟨line', Prod.ext ?_ (receiveRtu_line hread), hempty⟩
  exact ((receiveRtu_ok_iff hread).1 response).mpr ⟨hdata, hframe⟩

/-- **A frame over TCP is received whole**: its octets are taken and nothing else, and the number
decides whether the response is accepted. -/
theorem receiveResponse_framed (hreadable : Readable holds) {session : Session σ}
    (hopen : session.master.connection = some .tcp) {response : Response} {number : UInt16}
    {frame rest : Octets}
    (hframe : Frame.tcp number response.unit response.function response.data = .ok frame)
    (hholds : holds (frame ++ rest) session.line.platform) (timeoutMs : UInt32) :
    ∃ line, session.receiveResponse timeoutMs
        = (if number = session.master.transaction then .ok response
          else .error .protocolViolation, { session with line := line })
      ∧ (∃ events, line.events = session.line.events ++ events
        ∧ Traffic.received events = frame)
      ∧ holds rest line.platform := by
  have hset := Line.events_setTimeout timeoutMs session.line
  obtain ⟨line₁, hwait, hholds₁⟩ := Line.setTimeout_readable hreadable timeoutMs hholds
  rw [hwait] at hset
  obtain ⟨line₂, hreceive, hrest⟩ := receiveTcp_readable hreadable hframe hholds₁
  -- ===== what was read is the frame =====
  obtain ⟨-, -, reads, hlog, -, hoctets⟩ := receiveTcp_ok hreceive
  rw [hset, List.append_assoc] at hlog
  refine ⟨line₂, ?_, ⟨_, hlog, ?_⟩, hrest⟩
  · unfold Session.receiveResponse
    rw [hopen, hwait]
    dsimp only
    rw [hreceive]
    dsimp only
    split <;> rfl
  · rw [Traffic.received_append, hoctets, (Frame.tcp_ok_iff.mp hframe).2]
    rfl

/-- **A response is received from the frame that the line holds**, if it is numbered as the last
request. -/
theorem receiveResponse_suits {framing : Framing} (hsuits : framing.Suits holds)
    {session : Session σ} (hopen : session.master.connection = some framing)
    {response : Response} (hdata : response.data ≠ []) {frame : Octets}
    (hframe : framing.frame session.master.transaction response.unit response.function
      response.data = .ok frame)
    (hholds : holds frame session.line.platform) (timeoutMs : UInt32) :
    ∃ line, session.receiveResponse timeoutMs = (.ok response, { session with line := line })
      ∧ holds [] line.platform := by
  cases framing with
  | tcp =>
    rw [← List.append_nil frame] at hholds
    obtain ⟨line, hreceive, -, hempty⟩ :=
      receiveResponse_framed hsuits.reliable.readable hopen hframe hholds timeoutMs
    rw [if_pos rfl] at hreceive
    exact ⟨line, hreceive, hempty⟩
  | rtu =>
    obtain ⟨line₁, hset, hholds₁⟩ :=
      Line.setTimeout_readable hsuits.reliable.readable timeoutMs hholds
    obtain ⟨line₂, hreceive, hempty⟩ := receiveRtu_unbroken hsuits hdata hframe hholds₁
    refine ⟨line₂, ?_, hempty⟩
    unfold Session.receiveResponse
    rw [hopen, hset]
    dsimp only
    rw [hreceive]

/-- A frame is written, and nothing is read. -/
theorem sendRequest_reliable (hreliable : Reliable holds) {session : Session σ}
    {framing : Framing} (hopen : session.master.connection = some framing) {backlog : Octets}
    (hholds : holds backlog session.line.platform) (frame : Octets) :
    ∃ line, session.sendRequest frame = (.ok (), { session with line := line })
      ∧ holds backlog line.platform := by
  obtain ⟨line, hwrite, hleft⟩ := Line.writeAll_reliable hreliable frame hholds
  refine ⟨line, ?_, hleft⟩
  unfold Session.sendRequest
  rw [if_pos (by rw [Master.isConnected, hopen]; rfl), hwrite]

end Taking

/-! ## §3. A whole request. -/

section Requests

variable {σ : Type} [OctetStream σ] {holds : Octets → σ → Prop}

theorem Response.exception?_eq_none {response : Response} (h : response.isException = false) :
    response.exception? = none := by
  unfold Response.exception?
  rw [h]
  rfl

/-- **A request is answered by the frame that the line holds**, if that is the frame of a response
from the addressed device for the same function, with the number of the request. -/
theorem exchange_suits {framing : Framing} (hsuits : framing.Suits holds) {session : Session σ}
    (hopen : session.master.connection = some framing) {data : Octets}
    (hfits : data.length + 1 ≤ maxPduLength) {response : Response}
    (hunit : response.unit = session.master.unit) (hregular : response.isException = false)
    (hdata : response.data ≠ []) {frame : Octets}
    (hframe : framing.frame (session.master.transaction + 1) response.unit response.function
      response.data = .ok frame)
    (hholds : holds frame session.line.platform) :
    ∃ line, session.exchange response.function data
        = (.ok response, ⟨session.master.numbered framing, line⟩)
      ∧ holds [] line.platform := by
  obtain ⟨request, hrequest⟩ := framing.exists_frame (session.master.transaction + 1)
    session.master.unit response.function hfits
  rw [← framing.frame_numbered session.master] at hframe
  obtain ⟨line₁, hsend, hholds₁⟩ :=
    sendRequest_reliable hsuits.reliable (numbered_open hopen session.line) hholds request
  obtain ⟨line₂, hreceive, hempty⟩ :=
    receiveResponse_suits hsuits (numbered_open hopen line₁) hdata hframe hholds₁ defaultTimeoutMs
  refine ⟨line₂, ?_, hempty⟩
  unfold Session.exchange
  rw [buildRequest_some hopen, hrequest]
  dsimp only
  rw [hsend]
  dsimp only
  rw [hreceive]
  dsimp only
  rw [Response.exception?_eq_none hregular]
  exact if_pos ⟨rfl, by rw [Master.numbered_unit, hunit]⟩

/-- What was read for an accepted response is its frame. -/
theorem Accepted.frame_eq {framing : Framing} {transaction : UInt16} {response : Response}
    {reads : List Event} (h : Accepted framing transaction response reads) :
    framing.frame transaction response.unit response.function response.data
      = .ok (Traffic.received reads) := by
  cases framing with
  | tcp =>
    obtain ⟨-, -, hreceived⟩ := h.over_tcp rfl
    exact Frame.tcp_ok_iff.mpr ⟨response.data_fits, hreceived⟩
  | rtu =>
    refine Frame.rtu_ok_iff.mpr ⟨response.data_fits, ?_⟩
    rw [h.over_rtu rfl, Traffic.received_cons, Traffic.received_nil, List.append_nil]
    rfl

/-- **What came in during a request that succeeded** is the frame of its response. -/
theorem exchange_received {framing : Framing} {session after : Session σ}
    (hopen : session.master.connection = some framing) {function : UInt8} {data : Octets}
    {response : Response} (h : session.exchange function data = (.ok response, after)) :
    ∃ events, after.line.events = session.line.events ++ events
      ∧ framing.frame (session.master.transaction + 1) response.unit response.function
        response.data = .ok (Traffic.received events) := by
  have hexchanging := exchange_exchanging function data session
  rw [h] at hexchanging
  cases hexchanging with
  | answered hconnection hrequest hmaster hlog hwritten hunit hfunction hregular haccepted =>
    obtain rfl := Option.some.inj (hopen.symm.trans hconnection)
    refine ⟨_, hlog, ?_⟩
    rw [haccepted.frame_eq, Traffic.received_append, hwritten.received_eq, Traffic.received_cons]
    rfl

end Requests

end FieldLink.Modbus
