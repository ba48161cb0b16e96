/-
  FieldLink.Proofs.Mqtt.Message
  ────────────────────────────────
  **READING A MESSAGE.**

  A body is read as a message or refused, and every refusal names the same
  cause.  What is read is told by the parts that the body falls into: the
  topic behind its length, an identifier if the guarantee has one, and the
  payload.  A body falls into parts in one way only, and it is read just if
  it has them and its topic is a text:

      parse_error               — the one cause of a refusal
      splitCounted_eq_some_iff  — which octets are counted
      Layout.unique             — a body has one layout
      parse_ok_iff              — what is read is what the layout tells
      packetId_of_parse         — what asks to be acknowledged has an identifier
-/
import Mathlib.Data.List.Basic
import FieldLink.Mqtt.Packet

namespace FieldLink.Mqtt

/-! ## §1. Guarantees and flags. -/

/-- A number that is no guarantee is a violation. -/
theorem Qos.ofLevel_error {level : Nat} {fault : Fault} (h : Qos.ofLevel level = .error fault) :
    fault = .protocolViolation := by
  unfold Qos.ofLevel at h
  split at h <;> cases h
  rfl

theorem Qos.ofLevel_eq_ok_iff {level : Nat} {qos : Qos} :
    Qos.ofLevel level = .ok qos ↔ qos.level = level := by
  constructor
  · intro h
    unfold Qos.ofLevel at h
    split at h <;> cases h <;> rfl
  · rintro rfl
    exact Qos.ofLevel_level qos

namespace Message

/-- The number of the guarantee that flags ask for. -/
def levelOf (flags : UInt8) : Nat := flags.toNat / 2 % 4

theorem toNat_levelBits (flags : UInt8) : ((flags >>> 1) &&& 3).toNat = levelOf flags := by
  rw [UInt8.toNat_and, UInt8.toNat_shiftRight]
  show flags.toNat >>> 1 &&& (2 ^ 2 - 1) = _
  rw [Nat.and_two_pow_sub_one_eq_mod, Nat.shiftRight_eq_div_pow]
  rfl

/-- Of the four numbers only 3 is no guarantee. -/
theorem levelOf_ne_three_iff {flags : UInt8} :
    levelOf flags ≠ 3 ↔ ∃ qos : Qos, qos.level = levelOf flags := by
  have hlt : levelOf flags < 4 := Nat.mod_lt _ (by decide)
  constructor
  · intro hne
    match hlevel : levelOf flags, (by omega : levelOf flags < 3) with
    | 0, _ => exact ⟨.atMostOnce, rfl⟩
    | 1, _ => exact ⟨.atLeastOnce, rfl⟩
    | 2, _ => exact ⟨.exactlyOnce, rfl⟩
  · rintro ⟨qos, hqos⟩
    rw [← hqos]
    cases qos <;> decide

/-- The retain flag is the lowest bit. -/
theorem retain_eq_testBit (flags : UInt8) :
    decide (flags &&& Packet.retainFlag ≠ 0) = flags.toNat.testBit 0 := by
  have hbit : (flags &&& Packet.retainFlag).toNat = flags.toNat % 2 := by
    rw [UInt8.toNat_and]
    exact Nat.and_two_pow_sub_one_eq_mod flags.toNat 1
  rw [Nat.testBit_zero, decide_eq_decide, Ne, ← UInt8.toNat_inj, hbit]
  show ¬ flags.toNat % 2 = 0 ↔ _
  omega

/-- **Every refusal is a violation of the protocol.** -/
theorem parse_error {flags : UInt8} {body : Octets} {fault : Fault}
    (h : parse flags body = .error fault) : fault = .protocolViolation := by
  unfold parse at h
  split at h
  · next heq =>
    obtain rfl := Except.error.inj h
    exact Qos.ofLevel_error heq
  · split at h
    · exact (Except.error.inj h).symm
    · split at h
      · exact (Except.error.inj h).symm
      · dsimp only at h
        split at h
        · cases h
        · exact (Except.error.inj h).symm
        · cases h

/-! ## §2. The parts of a body. -/

/-- **Octets are counted just if two octets in front of them tell how many they are.** -/
theorem splitCounted_eq_some_iff {body counted rest : Octets} :
    splitCounted body = some (counted, rest)
      ↔ counted.length < 65536
        ∧ body = Octets.big (UInt16.ofNat counted.length) ++ counted ++ rest := by
  constructor
  · intro h
    unfold splitCounted at h
    split at h
    · next high low octets =>
      dsimp only at h
      split at h
      · cases h
      · next henough =>
        cases h
        -- the count was read from two octets, so two octets can hold it
        have hlength : (octets.take (Octets.word high low).toNat).length
            = (Octets.word high low).toNat := by
          rw [List.length_take]
          exact Nat.min_eq_left (Nat.not_lt.mp henough)
        rw [hlength, UInt16.ofNat_toNat, Octets.big_word, List.append_assoc,
          List.take_append_drop]
        exact ⟨(Octets.word high low).toNat_lt, rfl⟩
    · cases h
  · rintro ⟨hlength, rfl⟩
    have hcount : (UInt16.ofNat counted.length).toNat = counted.length := by
      rw [UInt16.toNat_ofNat']
      exact Nat.mod_eq_of_lt hlength
    show splitCounted (_ :: _ :: (counted ++ rest)) = _
    simp only [splitCounted, Octets.word_big]
    rw [hcount, if_neg (by rw [List.length_append]; omega), List.take_left, List.drop_left]

/-- The parts of a body, for the guarantee with this number. -/
@[ext]
structure Layout (level : Nat) (body : Octets) where
  /-- What is counted. -/
  topic : Octets
  /-- What names the message, if that is needed. -/
  identifier : Octets
  /-- What is left. -/
  payload : Octets
  /-- Two octets can count the topic. -/
  topic_countable : topic.length < 65536
  /-- Only a message that is acknowledged has an identifier, of two octets. -/
  length_identifier : identifier.length = if level = 1 then 2 else 0
  /-- The parts stand behind one another, and the number of octets in the topic in front. -/
  body_eq : body
    = Octets.big (UInt16.ofNat topic.length) ++ topic ++ identifier ++ payload

/-- The identifier that two octets stand for. -/
def identifierOf : Octets → Option UInt16
  | [high, low] => some (Octets.word high low)
  | _ => none

namespace Layout

variable {level : Nat} {body : Octets}

/-- **A body falls into its parts in one way only.** -/
theorem unique (layout layout' : Layout level body) : layout = layout' := by
  have hbodies := layout.body_eq.symm.trans layout'.body_eq
  simp only [List.append_assoc] at hbodies
  -- the counts are the same octets, so the topics are of one length, and so are the identifiers
  obtain ⟨hcounts, hbehind⟩ := List.append_inj hbodies rfl
  have hlength : layout.topic.length = layout'.topic.length := by
    have hwords := congrArg UInt16.toNat (Octets.big_inj hcounts)
    rw [UInt16.toNat_ofNat', UInt16.toNat_ofNat', Nat.mod_eq_of_lt layout.topic_countable,
      Nat.mod_eq_of_lt layout'.topic_countable] at hwords
    exact hwords
  obtain ⟨htopics, hbehind⟩ := List.append_inj hbehind hlength
  obtain ⟨hidentifiers, hpayloads⟩ := List.append_inj hbehind
    (layout.length_identifier.trans layout'.length_identifier.symm)
  exact Layout.ext htopics hidentifiers hpayloads

/-- A message that is to be acknowledged is named by two octets. -/
theorem exists_identifier (layout : Layout level body) (h : level = 1) :
    ∃ high low, layout.identifier = [high, low] :=
  List.length_eq_two.mp (by rw [layout.length_identifier, if_pos h])

/-- No other message is named. -/
theorem identifier_eq_nil (layout : Layout level body) (h : level ≠ 1) :
    layout.identifier = [] :=
  List.length_eq_zero_iff.mp (by rw [layout.length_identifier, if_neg h])

theorem splitCounted_eq (layout : Layout level body) :
    splitCounted body = some (layout.topic, layout.identifier ++ layout.payload) := by
  refine splitCounted_eq_some_iff.mpr ⟨layout.topic_countable, ?_⟩
  rw [← List.append_assoc]
  exact layout.body_eq

/-- Under these flags the parts tell this message. -/
structure Tells (layout : Layout level body) (flags : UInt8) (message : Message) : Prop where
  /-- The topic is a text. -/
  topic_eq : Octets.ofText message.topic = layout.topic
  /-- The guarantee is the one that was asked for. -/
  level_eq : message.qos.level = level
  /-- The identifier is there or is missing. -/
  packetId_eq : message.packetId = identifierOf layout.identifier
  /-- The lowest flag says whether the message had been kept. -/
  retain_eq : message.retain = flags.toNat.testBit 0
  /-- The payload is all of the rest. -/
  payload_eq : message.payload = layout.payload

/-- Every topic that is a text is the topic of a message. -/
theorem exists_message (layout : Layout level body) (flags : UInt8) {qos : Qos}
    (hlevel : qos.level = level) {text : String} (htext : Octets.ofText text = layout.topic) :
    ∃ message, layout.Tells flags message :=
  ⟨⟨text, qos, identifierOf layout.identifier, flags.toNat.testBit 0, layout.payload⟩, htext,
    hlevel, rfl, rfl, rfl⟩

end Layout

/-! ## §3. What is read. -/

/-- **A message is read just if the parts of the body tell it.** -/
theorem parse_ok_iff {flags : UInt8} {body : Octets} {message : Message} :
    parse flags body = .ok message
      ↔ ∃ layout : Layout (levelOf flags) body, layout.Tells flags message := by
  constructor
  · intro h
    unfold parse at h
    rw [toNat_levelBits] at h
    split at h
    · cases h
    · next qos hqos =>
      have hlevel : qos.level = levelOf flags := Qos.ofLevel_eq_ok_iff.mp hqos
      split at h
      · cases h
      · next topic rest hsplit =>
        obtain ⟨hlength, hbody⟩ := splitCounted_eq_some_iff.mp hsplit
        split at h
        · cases h
        · next text htext =>
          have htopic : Octets.ofText text = topic := Octets.ofText_toText htext
          dsimp only at h
          split at h
          · -- the identifier is taken from the front of the rest
            next high low payload =>
            obtain rfl := Except.ok.inj h
            have htwo : 2 = if levelOf flags = 1 then 2 else 0 := by rw [← hlevel]; rfl
            exact ⟨⟨topic, [high, low], payload, hlength, htwo, by rw [hbody]; simp⟩, htopic, hlevel,
              rfl, retain_eq_testBit flags, rfl⟩
          · cases h
          · -- the rest is the payload
            next hother _ =>
            obtain rfl := Except.ok.inj h
            have hnone : 0 = if levelOf flags = 1 then 2 else 0 := by
              rw [← hlevel]
              cases qos with
              | atLeastOnce => exact absurd rfl hother
              | atMostOnce | exactlyOnce => rfl
            exact ⟨⟨topic, [], rest, hlength, hnone, by rw [hbody]; simp⟩, htopic, hlevel, rfl,
              retain_eq_testBit flags, rfl⟩
  · rintro ⟨layout, htopic, hlevel, hpacketId, hretain, hpayload⟩
    obtain ⟨topic, qos, packetId, retain, payload⟩ := message
    subst hpacketId hretain hpayload
    replace hlevel : qos.level = levelOf flags := hlevel
    have htext : Octets.toText? layout.topic = some topic := by
      rw [← htopic, Octets.toText_ofText]
    simp only [parse, toNat_levelBits, Qos.ofLevel_eq_ok_iff.mpr hlevel, layout.splitCounted_eq,
      htext, retain_eq_testBit]
    cases qos with
    | atLeastOnce =>
      obtain ⟨high, low, hidentifier⟩ := layout.exists_identifier hlevel.symm
      rw [hidentifier]
      rfl
    | atMostOnce | exactlyOnce =>
      rw [layout.identifier_eq_nil (by rw [← hlevel]; decide)]
      rfl

/-- **A message that asks for an acknowledgement says what to acknowledge.** -/
theorem packetId_of_parse {flags : UInt8} {body : Octets} {message : Message}
    (h : parse flags body = .ok message) (hqos : message.qos = .atLeastOnce) :
    ∃ id, message.packetId = some id := by
  obtain ⟨layout, htells⟩ := parse_ok_iff.mp h
  obtain ⟨high, low, hidentifier⟩ := layout.exists_identifier (by rw [← htells.level_eq, hqos]; rfl)
  rw [htells.packetId_eq, hidentifier]
  exact ⟨Octets.word high low, rfl⟩

end Message

end FieldLink.Mqtt
