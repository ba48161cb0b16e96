/-
  FieldLink.Proofs.Mqtt.ControlPacket
  ────────────────────────────────
  **PACKETS AS THEY STAND ON THE STREAM.**

  A length field is one to four octets of which the last and only the last
  leaves its high bit clear; leading digits may be zero, so that a number
  has several fields.  A `ControlPacket` is a header octet, a length field
  and the body that the field announces.  A stream falls into such packets
  in at most one way:

      decode_append          — a field is decoded whatever comes behind it
      IsField.append_inj     — no field is the front of another one
      octets_append_inj      — no packet is the front of another one
      Unfinished             — octets that are not one whole packet
-/
import Mathlib.Algebra.Group.Nat.Defs
import FieldLink.Mqtt.Packet

namespace FieldLink.Mqtt

/-! ## §1. Length fields. -/

namespace RemainingLength

/-- The number that base-128 digits stand for, lowest digit first; the high bits do not count. -/
def value : Octets → Nat
  | [] => 0
  | octet :: octets => octet.toNat % 128 + 128 * value octets

/-- Every octet says that another one follows. -/
def IsOpen (octets : Octets) : Prop := ∀ octet ∈ octets, 128 ≤ octet

/-- A whole length field: at most four octets, and only the last one says that none follows. -/
structure IsField (field : Octets) : Prop where
  /-- There are not too many octets. -/
  length_le : field.length ≤ maxOctets
  /-- The last octet ends the field, and no earlier one does. -/
  closed : ∃ marked last, field = marked ++ [last] ∧ IsOpen marked ∧ last < 128

theorem value_lt (octets : Octets) : value octets < 128 ^ octets.length := by
  induction octets with
  | nil => exact Nat.one_pos
  | cons octet octets ih =>
    have hdigit : octet.toNat % 128 < 128 := Nat.mod_lt _ (by omega)
    rw [value, List.length_cons, Nat.pow_succ]
    omega

theorem IsOpen.tail {octet : UInt8} {octets : Octets} (h : IsOpen (octet :: octets)) :
    IsOpen octets :=
  fun other hother => h other (List.mem_cons_of_mem _ hother)

theorem IsOpen.not_lt {octet : UInt8} {octets : Octets} (h : IsOpen (octet :: octets)) :
    ¬ octet < 128 := by
  have hle : 128 ≤ octet := h octet List.mem_cons_self
  exact UInt8.not_lt.mpr hle

theorem IsOpen.concat {octets : Octets} {last : UInt8} (h : IsOpen octets)
    (hlast : ¬ last < 128) : IsOpen (octets ++ [last]) := by
  intro octet hmem
  rcases List.mem_append.mp hmem with hfront | hback
  · exact h octet hfront
  · rw [List.mem_singleton.mp hback]
    exact UInt8.not_lt.mp hlast

/-- The end of a field is found, and what comes behind it is not looked at. -/
theorem decodeWithin_closed {allowed : Nat} {marked : Octets} {last : UInt8}
    (hopen : IsOpen marked) (hlast : last < 128) (hlength : marked.length < allowed)
    (rest : Octets) :
    decodeWithin allowed (marked ++ last :: rest)
      = .ok (some (value (marked ++ [last]), marked.length + 1)) := by
  -- induction on the marked octets: each of them uses up one that is allowed
  induction marked generalizing allowed with
  | nil =>
    cases allowed with
    | zero => exact absurd hlength (Nat.not_lt_zero _)
    | succ more =>
      have hlt : last.toNat < 128 := UInt8.lt_iff_toNat_lt.mp hlast
      have hvalue : value [last] = last.toNat := by
        rw [value, value, Nat.mod_eq_of_lt hlt]
        omega
      show decodeWithin (more + 1) (last :: rest) = .ok (some (value [last], 1))
      rw [decodeWithin, if_pos hlast, hvalue]
  | cons octet marked ih =>
    cases allowed with
    | zero => exact absurd hlength (Nat.not_lt_zero _)
    | succ more =>
      have hshort : marked.length < more := Nat.lt_of_succ_lt_succ hlength
      have hrest := ih hopen.tail hshort
      show decodeWithin (more + 1) (octet :: (marked ++ last :: rest)) = _
      rw [decodeWithin, if_neg hopen.not_lt, hrest]
      rfl

/-- While every octet is marked more of them are needed. -/
theorem decodeWithin_open {allowed : Nat} {octets : Octets} (hopen : IsOpen octets)
    (hlength : octets.length < allowed) : decodeWithin allowed octets = .ok none := by
  induction octets generalizing allowed with
  | nil =>
    cases allowed with
    | zero => exact absurd hlength (Nat.not_lt_zero _)
    | succ more => rfl
  | cons octet octets ih =>
    cases allowed with
    | zero => exact absurd hlength (Nat.not_lt_zero _)
    | succ more =>
      have hshort : octets.length < more := Nat.lt_of_succ_lt_succ hlength
      have hrest := ih hopen.tail hshort
      rw [decodeWithin, if_neg hopen.not_lt, hrest]

/-- A field that has not ended when no more octets are allowed is malformed, whatever comes behind
it. -/
theorem decodeWithin_overlong {octets : Octets} (hopen : IsOpen octets) (rest : Octets) :
    decodeWithin octets.length (octets ++ rest) = .error .protocolViolation := by
  induction octets with
  | nil => rfl
  | cons octet octets ih =>
    rw [List.length_cons, List.cons_append, decodeWithin, if_neg hopen.not_lt, ih hopen.tail]

/-- **A field is decoded whatever comes behind it.** -/
theorem decode_append {field : Octets} (h : IsField field) (rest : Octets) :
    decode (field ++ rest) = .ok (some (value field, field.length)) := by
  obtain ⟨hlength, marked, last, rfl, hopen, hlast⟩ := h
  have hshort : marked.length < maxOctets := by
    rw [List.length_append, List.length_singleton] at hlength
    exact hlength
  rw [decode, List.append_assoc, List.singleton_append, decodeWithin_closed hopen hlast hshort]
  simp

theorem decode_isField {field : Octets} (h : IsField field) :
    decode field = .ok (some (value field, field.length)) := by
  simpa using decode_append h []

theorem decode_open {octets : Octets} (hopen : IsOpen octets)
    (hlength : octets.length < maxOctets) : decode octets = .ok none :=
  decodeWithin_open hopen hlength

theorem decode_overlong_append {octets : Octets} (hopen : IsOpen octets)
    (hlength : octets.length = maxOctets) (rest : Octets) :
    decode (octets ++ rest) = .error .protocolViolation := by
  rw [decode, ← hlength]
  exact decodeWithin_overlong hopen rest

theorem decode_overlong {octets : Octets} (hopen : IsOpen octets)
    (hlength : octets.length = maxOctets) : decode octets = .error .protocolViolation := by
  simpa using decode_overlong_append hopen hlength []

/-- No field announces more than four octets can carry. -/
theorem IsField.value_le {field : Octets} (h : IsField field) : value field ≤ maximum := by
  have hlt : value field < 128 ^ field.length := value_lt field
  have hpow : 128 ^ field.length ≤ 128 ^ maxOctets := Nat.pow_le_pow_right (by omega) h.length_le
  have hmax : 128 ^ maxOctets = maximum + 1 := rfl
  omega

theorem IsField.ne_nil {field : Octets} (h : IsField field) : field ≠ [] := by
  obtain ⟨-, marked, last, rfl, -, -⟩ := h
  simp

theorem IsField.not_isOpen {field : Octets} (h : IsField field) : ¬ IsOpen field := by
  obtain ⟨-, marked, last, rfl, -, hlast⟩ := h
  intro hopen
  exact UInt8.not_lt.mpr (hopen last (by simp)) hlast

/-- As long as octets are missing from a field, every octet of it is marked. -/
theorem IsField.isOpen_front {front back : Octets} {octet : UInt8}
    (h : IsField (front ++ octet :: back)) : IsOpen front := by
  obtain ⟨-, marked, last, heq, hopen, -⟩ := h
  rcases List.eq_nil_or_concat (octet :: back) with hnil | ⟨init, final, hback⟩
  · cases hnil
  · rw [hback, List.concat_eq_append, ← List.append_assoc] at heq
    obtain ⟨rfl, -⟩ := List.append_inj' heq rfl
    intro other hother
    exact hopen other (List.mem_append_left init hother)

/-- **No field is the front of another one.** -/
theorem IsField.append_inj {field field' rest rest' : Octets} (h : IsField field)
    (h' : IsField field') (heq : field ++ rest = field' ++ rest') :
    field = field' ∧ rest = rest' := by
  -- both sides are the same string, and decoding it finds the length of either field
  have hdecode := decode_append h rest
  rw [heq, decode_append h' rest'] at hdecode
  have hlength : field.length = field'.length := by
    simp only [Except.ok.injEq, Option.some.injEq, Prod.mk.injEq] at hdecode
    exact hdecode.2.symm
  exact List.append_inj heq hlength

end RemainingLength

/-! ## §2. Packets. -/

/-- A packet as it stands on the stream. -/
@[ext]
structure ControlPacket where
  /-- The kind of packet, with its flags. -/
  header : UInt8
  /-- The length field, minimal or not. -/
  field : Octets
  /-- What the field announces. -/
  body : Octets
  /-- The field is one. -/
  isField : RemainingLength.IsField field
  /-- The field announces the body. -/
  value_field : RemainingLength.value field = body.length

namespace ControlPacket

/-- The packet as octets. -/
def octets (packet : ControlPacket) : Octets := packet.header :: (packet.field ++ packet.body)

/-- **No packet is the front of another one**: a stream is cut into packets in one way only. -/
theorem octets_append_inj {packet packet' : ControlPacket} {rest rest' : Octets}
    (h : packet.octets ++ rest = packet'.octets ++ rest') : packet = packet' ∧ rest = rest' := by
  simp only [octets, List.cons_append, List.append_assoc, List.cons.injEq] at h
  obtain ⟨hheader, htail⟩ := h
  obtain ⟨hfield, hbodies⟩ := packet.isField.append_inj packet'.isField htail
  have hlength : packet.body.length = packet'.body.length := by
    rw [← packet.value_field, ← packet'.value_field, hfield]
  obtain ⟨hbody, hrest⟩ := List.append_inj hbodies hlength
  exact ⟨ControlPacket.ext hheader hfield hbody, hrest⟩

theorem octets_inj {packet packet' : ControlPacket} (h : packet.octets = packet'.octets) :
    packet = packet' := by
  have happend : packet.octets ++ [] = packet'.octets ++ [] := by rw [h]
  exact (octets_append_inj happend).1

theorem two_le_length_octets (packet : ControlPacket) : 2 ≤ packet.octets.length := by
  have hfield : 0 < packet.field.length := List.length_pos_iff.mpr packet.isField.ne_nil
  simp only [octets, List.length_cons, List.length_append]
  omega

end ControlPacket

/-! ## §3. What is not a whole packet. -/

/-- The octets are not one whole packet. -/
def Unfinished (octets : Octets) : Prop := ∀ packet : ControlPacket, packet.octets ≠ octets

theorem unfinished_of_length_lt {octets : Octets} (h : octets.length < 2) : Unfinished octets := by
  intro packet heq
  have hlength : 2 ≤ packet.octets.length := packet.two_le_length_octets
  rw [heq] at hlength
  omega

/-- A length field that has not ended announces nothing. -/
theorem unfinished_of_isOpen (header : UInt8) {octets : Octets}
    (hopen : RemainingLength.IsOpen octets) : Unfinished (header :: octets) := by
  intro packet heq
  simp only [ControlPacket.octets, List.cons.injEq] at heq
  apply packet.isField.not_isOpen
  intro octet hmem
  exact hopen octet (heq.2 ▸ List.mem_append_left _ hmem)

/-- A body that is too short is not the announced one. -/
theorem unfinished_of_length_lt_value (header : UInt8) {field part : Octets}
    (hfield : RemainingLength.IsField field) (hpart : part.length < RemainingLength.value field) :
    Unfinished (header :: (field ++ part)) := by
  intro packet heq
  simp only [ControlPacket.octets, List.cons.injEq] at heq
  obtain ⟨hfields, hbody⟩ := packet.isField.append_inj hfield heq.2
  have hlength : packet.body.length = RemainingLength.value field := by
    rw [← packet.value_field, hfields]
  rw [hbody] at hlength
  omega

end FieldLink.Mqtt
