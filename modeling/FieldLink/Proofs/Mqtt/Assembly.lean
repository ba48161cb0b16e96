/-
  FieldLink.Proofs.Mqtt.Assembly
  ────────────────────────────────
  **PACKETS ARE PUT TOGETHER FROM FIELDS.**

  A packet is a header octet, a length field and the fields behind it.  All
  of this has to fit the packet buffer of 1280 octets, and a text has to be
  counted by two octets in front of it.  Nothing else can go wrong; but the
  packet is framed only if the number that is announced is the true one:

      encode_ok_iff         — which numbers have a length field
      length_framed_le_iff  — the longest body
      put_ok_iff            — one field more
      putAll_ok_iff         — one field after another
      assemble_ok_iff       — what is put together if the announced number is true
      length_topicField     — how long a text is with its count
-/
import Mathlib.Algebra.Group.Nat.Defs
import FieldLink.Mqtt.Packet

namespace FieldLink.Mqtt

/-! ## §1. Length fields. -/

namespace RemainingLength

/-- A number below 128 to the power of `k` has at most `k` digits, but at least one. -/
theorem length_digits_le {k n : Nat} (h : n < 128 ^ (k + 1)) : (digits n).length ≤ k + 1 := by
  induction k generalizing n with
  | zero =>
    rw [digits, if_pos (by simpa using h)]
    exact Nat.le_refl 1
  | succ k ih =>
    rw [digits]
    split
    · simp
    · have hquotient : n / 128 < 128 ^ (k + 1) := by
        apply Nat.div_lt_of_lt_mul
        rw [Nat.pow_succ, Nat.mul_comm] at h
        exact h
      have hrest := ih hquotient
      simp only [List.length_cons]
      omega

/-- From 128 on one octet is not enough. -/
theorem two_le_length_digits {n : Nat} (h : 128 ≤ n) : 2 ≤ (digits n).length := by
  have hrest : 1 ≤ (digits (n / 128)).length := by
    rw [digits]
    split <;> simp
  rw [digits, if_neg (Nat.not_lt.mpr h), List.length_cons]
  omega

/-- **A number is written just if four octets can carry it.** -/
theorem encode_ok_iff {n : Nat} {field : Octets} :
    encode n = .ok field ↔ n ≤ maximum ∧ field = digits n := by
  unfold encode
  split
  · next hlarge => exact iff_of_false nofun fun h => absurd h.1 (Nat.not_le.mpr hlarge)
  · next hsmall =>
    rw [Except.ok.injEq, eq_comm]
    exact (and_iff_right (Nat.not_lt.mp hsmall)).symm

end RemainingLength

namespace Packet

/-! ## §2. Packets. -/

/-- A packet of a header and a body. -/
def framed (header : UInt8) (body : Octets) : Octets :=
  header :: RemainingLength.digits body.length ++ body

/-- **The longest body.**  With its header octet and two octets that announce it, it fills the packet
buffer. -/
theorem length_framed_le_iff {header : UInt8} {body : Octets} :
    (framed header body).length ≤ maxPacketLength ↔ body.length ≤ 1277 := by
  have hmax : maxPacketLength = 1280 := rfl
  have hlength : (framed header body).length
      = 1 + (RemainingLength.digits body.length).length + body.length := by
    simp only [framed, List.length_append, List.length_cons]
    omega
  rw [hlength, hmax]
  constructor
  · intro hfits
    by_cases hsmall : body.length < 128
    · omega
    · -- one octet is not enough to announce it
      have htwo := RemainingLength.two_le_length_digits (Nat.not_lt.mp hsmall)
      omega
  · intro hshort
    have htwo : (RemainingLength.digits body.length).length ≤ 2 :=
      RemainingLength.length_digits_le (show body.length < 128 ^ (1 + 1) by omega)
    omega

/-- **A field is put in just if it can be counted and there is room for it.** -/
theorem put_ok_iff {packet packet' : Octets} {field : Field} :
    put packet field = .ok packet'
      ↔ field.isCountable = true ∧ packet' = packet ++ field.encode
        ∧ packet'.length ≤ maxPacketLength := by
  unfold put
  split
  · next huncountable => exact iff_of_false nofun fun h => huncountable h.1
  · next hcountable =>
    rw [← List.length_append]
    split
    · next hlong =>
      refine iff_of_false nofun ?_
      rintro ⟨-, rfl, hshort⟩
      exact Nat.not_le.mpr hlong hshort
    · next hshort =>
      constructor
      · rintro ⟨⟩
        exact ⟨Classical.not_not.mp hcountable, rfl, Nat.not_lt.mp hshort⟩
      · rintro ⟨-, rfl, -⟩
        rfl

/-- **Fields are put in one after another just if all of them can be counted and there is room for
all.** -/
theorem putAll_ok_iff {packet packet' : Octets} {fields : List Field}
    (h : packet.length ≤ maxPacketLength) :
    fields.foldlM put packet = .ok packet'
      ↔ fields.all Field.isCountable = true ∧ packet' = packet ++ fields.flatMap Field.encode
        ∧ packet'.length ≤ maxPacketLength := by
  -- what has been put in so far has found room, and with no field left nothing more is needed
  induction fields generalizing packet with
  | nil =>
    show Except.ok packet = .ok packet' ↔ _
    rw [Except.ok.injEq, List.flatMap_nil, List.append_nil]
    constructor
    · rintro rfl
      exact ⟨rfl, rfl, h⟩
    · exact fun hpacket => hpacket.2.1.symm
  | cons field fields ih =>
    rw [List.foldlM_cons, List.all_cons, Bool.and_eq_true, List.flatMap_cons, ← List.append_assoc]
    constructor
    · intro hputAll
      match hput : put packet field with
      | .error fault =>
        rw [hput] at hputAll
        cases hputAll
      | .ok next =>
        rw [hput] at hputAll
        obtain ⟨hcountable, rfl, hroom⟩ := put_ok_iff.mp hput
        obtain ⟨hcountables, rfl, hshort⟩ := (ih hroom).mp hputAll
        exact ⟨⟨hcountable, hcountables⟩, rfl, hshort⟩
    · rintro ⟨⟨hcountable, hcountables⟩, rfl, hshort⟩
      have hroom : (packet ++ field.encode).length ≤ maxPacketLength := by
        rw [List.length_append] at hshort
        omega
      rw [put_ok_iff.mpr ⟨hcountable, rfl, hroom⟩]
      exact (ih hroom).mpr ⟨hcountables, rfl, hshort⟩

/-- **A packet is put together just if its texts can be counted and it fits the packet buffer**, and
it is framed if the number that is announced is the true one. -/
theorem assemble_ok_iff {header : UInt8} {announced : Nat} {fields : List Field} {packet : Octets}
    (htrue : (fields.flatMap Field.encode).length = announced) :
    assemble header announced fields = .ok packet
      ↔ fields.all Field.isCountable = true
        ∧ packet = framed header (fields.flatMap Field.encode) ∧ announced ≤ 1277 := by
  have hmaximum : RemainingLength.maximum = 268435455 := rfl
  subst htrue
  rw [← @length_framed_le_iff header]
  unfold assemble
  split
  · next fault hfault =>
    -- what cannot be announced is too long
    refine iff_of_false nofun fun ⟨_, _, hfits⟩ => ?_
    have hshort := length_framed_le_iff.mp hfits
    rw [RemainingLength.encode_ok_iff.mpr ⟨by omega, rfl⟩] at hfault
    cases hfault
  · next field hfield =>
    obtain ⟨hannounced, rfl⟩ := RemainingLength.encode_ok_iff.mp hfield
    have hstart : (header :: RemainingLength.digits (fields.flatMap Field.encode).length).length
        ≤ maxPacketLength := by
      have hfour := RemainingLength.length_digits_le
        (show (fields.flatMap Field.encode).length < 128 ^ (3 + 1) by omega)
      have hmax : maxPacketLength = 1280 := rfl
      rw [List.length_cons]
      omega
    rw [putAll_ok_iff hstart]
    constructor
    · rintro ⟨hcountable, rfl, hshort⟩
      exact ⟨hcountable, rfl, hshort⟩
    · rintro ⟨hcountable, rfl, hshort⟩
      exact ⟨hcountable, rfl, hshort⟩

/-! ## §3. Fields. -/

/-- The octets of a topic behind their length. -/
def topicField (topic : String) : Octets :=
  Octets.big (UInt16.ofNat topic.utf8ByteSize) ++ Octets.ofText topic

@[simp] theorem encode_plain (octets : Octets) : (Field.plain octets).encode = octets := rfl

@[simp] theorem encode_word (w : UInt16) : (Field.word w).encode = Octets.big w := rfl

@[simp] theorem encode_text (topic : String) : (Field.text topic).encode = topicField topic := by
  simp [Field.text, Field.encode, topicField]

@[simp] theorem isCountable_plain (octets : Octets) : (Field.plain octets).isCountable = true := rfl

@[simp] theorem isCountable_word (w : UInt16) : (Field.word w).isCountable = true := rfl

theorem length_topicField (topic : String) :
    (topicField topic).length = topic.utf8ByteSize + 2 := by
  simp [topicField]
  omega

theorem isCountable_text_iff {topic : String} :
    (Field.text topic).isCountable = true ↔ topic.utf8ByteSize < 65536 := by
  simp only [Field.text, Field.isCountable, Octets.length_ofText, decide_eq_true_eq]

end Packet

end FieldLink.Mqtt
