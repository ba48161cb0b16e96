/-
  FieldLink.Proofs.Mqtt.Outbound
  ────────────────────────────────
  **THE PACKETS OF A CLIENT.**

  Whatever a client writes is one of the packets that its builders give
  back.  Each builder gives a header octet of its own, the announced number
  of octets, and that many octets; which one a packet is can be told by its
  header octet:

      framed_isOutbound    — what frames a body within the limit
      Draft.isOutbound     — and what is built of a draft
      connect_isOutbound,
      publish_isOutbound,
      subscribe_isOutbound,
      unsubscribe_isOutbound,
      puback_isOutbound,
      disconnect_isOutbound — one builder after another
-/
import FieldLink.Proofs.Mqtt.Draft

namespace FieldLink.Mqtt.Packet

/-- The header octets of the packets that a client sends. -/
def outboundHeaders : List UInt8 := [0x10, 0x30, 0x31, 0x32, 0x33, 0x40, 0x82, 0xA2, 0xE0]

/-- A complete packet that a client sends: a header octet, the number of octets behind it as the
length field has it, and these octets. -/
def IsOutbound (packet : Octets) : Prop :=
  ∃ header field body, header ∈ outboundHeaders
    ∧ RemainingLength.encode body.length = .ok field ∧ packet = header :: (field ++ body)

/-- The packet asks for a session. -/
def IsConnect (packet : Octets) : Prop :=
  ∃ clientId keepAliveSeconds cleanSession,
    connect clientId keepAliveSeconds cleanSession = .ok packet

theorem framed_isOutbound {header : UInt8} {body : Octets} (hheader : header ∈ outboundHeaders)
    (hbody : body.length ≤ RemainingLength.maximum) : IsOutbound (framed header body) :=
  ⟨header, RemainingLength.digits body.length, body, hheader,
    RemainingLength.encode_ok_iff.mpr ⟨hbody, rfl⟩, rfl⟩

/-- Every draft that can be built has one of the header octets. -/
theorem Draft.IsAdmissible.header_mem {draft : Draft} (h : draft.IsAdmissible) :
    draft.header ∈ outboundHeaders := by
  cases draft with
  | connect => exact (by decide : (0x10 : UInt8) ∈ outboundHeaders)
  | publish topic payload qos retain packetId =>
    rw [Draft.header_publish]
    rcases h with rfl | ⟨rfl, -⟩ <;> cases retain <;> decide
  | subscribe => exact (by decide : (0x82 : UInt8) ∈ outboundHeaders)
  | unsubscribe => exact (by decide : (0xA2 : UInt8) ∈ outboundHeaders)

/-- **What is built of a draft is a packet of a client.** -/
theorem Draft.isOutbound (draft : Draft) {packet : Octets} (h : draft.build = .ok packet) :
    IsOutbound packet := by
  obtain ⟨hadmissible, rfl, hshort⟩ := Draft.build_ok_iff.mp h
  have hmaximum : RemainingLength.maximum = 268435455 := rfl
  have hlength := draft.length_body
  exact framed_isOutbound hadmissible.header_mem (by omega)

/-! ## §1. One builder after another. -/

theorem IsConnect.isOutbound {packet : Octets} (h : IsConnect packet) : IsOutbound packet := by
  obtain ⟨clientId, keepAliveSeconds, cleanSession, hpacket⟩ := h
  exact Draft.isOutbound (.connect clientId keepAliveSeconds cleanSession) hpacket

/-- A message of either guarantee that a client can ask for, to be kept by the broker or not. -/
theorem publish_isOutbound {topic : String} {payload : Octets} {qos : Qos} {retain : Bool}
    {packetId : Option UInt16} {packet : Octets}
    (h : publish topic payload qos retain packetId = .ok packet) : IsOutbound packet :=
  Draft.isOutbound (.publish topic payload qos retain packetId) h

theorem subscribe_isOutbound {id : UInt16} {topic : String} {packet : Octets}
    (h : subscribe id topic = .ok packet) : IsOutbound packet :=
  Draft.isOutbound (.subscribe id topic) h

theorem unsubscribe_isOutbound {id : UInt16} {topic : String} {packet : Octets}
    (h : unsubscribe id topic = .ok packet) : IsOutbound packet :=
  Draft.isOutbound (.unsubscribe id topic) h

/-- An acknowledgement announces the two octets of its identifier. -/
theorem puback_eq (id : UInt16) : puback id = framed pubackHeader (Octets.big id) := by
  rw [framed, Octets.length_big, RemainingLength.digits, if_pos (by decide)]
  rfl

/-- The octets of an acknowledgement. -/
theorem puback_octets (id : UInt16) :
    puback id = [0x40, 2, UInt8.ofNat (id.toNat / 256), UInt8.ofNat (id.toNat % 256)] := rfl

theorem puback_isOutbound (id : UInt16) : IsOutbound (puback id) := by
  rw [puback_eq]
  exact framed_isOutbound (by decide) (by rw [Octets.length_big]; decide)

/-- The good-bye announces nothing behind it. -/
theorem disconnect_eq : disconnect = framed disconnectHeader [] := by
  rw [framed, List.length_nil, RemainingLength.digits, if_pos (by decide)]
  rfl

theorem disconnect_isOutbound : IsOutbound disconnect := by
  rw [disconnect_eq]
  exact framed_isOutbound (by decide) (Nat.zero_le _)

end FieldLink.Mqtt.Packet
