/-
  FieldLink.Proofs.Mqtt.Storage
  ────────────────────────────────
  **WHAT IS STORED IS WHAT WAS GIVEN.**

  A copy is made if and only if the original fits, and it says the same as
  the original; two texts with one copy are the same text.  The table of
  subscriptions, whose keys are copies, is therefore a finite map on plain
  texts, and a text that is too long is never found in it:

      ofText?_eq_some_iff,
      ofOctets?_eq_some_iff  — the copy of a text, of octets
      copy?_eq_some_iff      — the copy of a message
      get?_insert?           — the new topic has the new handler
      get?_erase             — the removed topic has none
      get?_modify            — the changed topic has its changed handler
      insert?_eq_none_iff    — a topic is refused only if it is new and the table full
-/
import Mathlib.Data.List.Nodup
import FieldLink.Proofs.Table
import FieldLink.Mqtt.Storage

namespace FieldLink.Mqtt

/-! ## §1. Copies. -/

namespace Topic

/-- **A text has a copy that says the same, if it fits.** -/
theorem ofText?_eq_some_iff {text : String} {topic : Topic} :
    ofText? text = some topic ↔ topic.text = text := by
  rw [ofText?, Option.dite_none_right_eq_some]
  constructor
  · intro hgiven
    obtain ⟨hfits, hcopy⟩ := hgiven
    rw [← Option.some.inj hcopy]
  · intro htext
    subst htext
    exact ⟨topic.text_fits, rfl⟩

theorem ofText?_text (topic : Topic) : ofText? topic.text = some topic :=
  ofText?_eq_some_iff.mpr rfl

theorem text_injective : Function.Injective text := by
  intro a b h
  have hcopy := ofText?_text a
  rw [h, ofText?_text] at hcopy
  exact (Option.some.inj hcopy).symm

/-- A text without a copy is none of those that are stored. -/
theorem ne_text {text : String} (h : ofText? text = none) (topic : Topic) : text ≠ topic.text := by
  intro hsame
  rw [hsame, ofText?_text] at h
  cases h

/-- What passes the check of a topic can be stored. -/
theorem exists_of_isTopic {text : String} (h : isTopic text = true) :
    ∃ topic : Topic, topic.text = text := by
  rw [isTopic, Bool.and_eq_true, decide_eq_true_iff, decide_eq_true_iff] at h
  exact ⟨⟨text, h.2⟩, rfl⟩

/-- What is stored passes the check unless it is empty. -/
theorem isTopic_text_iff (topic : Topic) : isTopic topic.text = true ↔ topic.text ≠ "" := by
  rw [isTopic, Bool.and_eq_true, decide_eq_true_iff, decide_eq_true_iff]
  exact and_iff_left topic.text_fits

end Topic

/-- **Octets have a copy that says the same, if they fit.** -/
theorem Payload.ofOctets?_eq_some_iff {octets : Octets} {payload : Payload} :
    ofOctets? octets = some payload ↔ payload.octets = octets := by
  rw [ofOctets?, Option.dite_none_right_eq_some]
  constructor
  · intro hgiven
    obtain ⟨hfit, hcopy⟩ := hgiven
    rw [← Option.some.inj hcopy]
  · intro hoctets
    subst hoctets
    exact ⟨payload.octets_fit, rfl⟩

namespace Pending

variable {topic : String} {payload : Octets}

/-- **The copy of a message has its topic, its octets and its flag**, and the time of the call. -/
theorem copy?_eq_some_iff {retain : Bool} {now : Nat} {pending : Pending} :
    copy? topic payload retain now = some pending
      ↔ pending.topic.text = topic ∧ pending.payload.octets = payload
        ∧ pending.retain = retain ∧ pending.lastSentMs = now := by
  rw [← Topic.ofText?_eq_some_iff, ← Payload.ofOctets?_eq_some_iff]
  obtain ⟨key, octets, flag, time⟩ := pending
  constructor
  · intro hcopy
    obtain ⟨key', hkey, hrest⟩ := Option.bind_eq_some_iff.mp hcopy
    obtain ⟨octets', hoctets, hdone⟩ := Option.bind_eq_some_iff.mp hrest
    cases hdone
    exact ⟨hkey, hoctets, rfl, rfl⟩
  · intro hparts
    obtain ⟨hkey, hoctets, rfl, rfl⟩ := hparts
    dsimp only at hkey hoctets
    simp only [copy?, hkey, hoctets]
    rfl

/-- What passes the checks of a publication can be stored. -/
theorem exists_copy? (htopic : isTopic topic = true) (hpayload : payload.length ≤ maxPayloadLength)
    (retain : Bool) (now : Nat) : ∃ pending, copy? topic payload retain now = some pending := by
  obtain ⟨key, hkey⟩ := Topic.exists_of_isTopic htopic
  exact ⟨⟨key, ⟨payload, hpayload⟩, retain, now⟩, copy?_eq_some_iff.mpr ⟨hkey, rfl, rfl, rfl⟩⟩

end Pending

/-! ## §2. Looking up a handler. -/

namespace Subscriptions

variable {η : Type}

theorem size_le (subscriptions : Subscriptions η) : subscriptions.size ≤ maxSubscriptions :=
  subscriptions.table.size_le

theorem not_isFull_iff (subscriptions : Subscriptions η) :
    ¬ subscriptions.isFull = true ↔ subscriptions.size < maxSubscriptions :=
  subscriptions.table.not_isFull_iff

theorem keys_nodup (subscriptions : Subscriptions η) : subscriptions.keys.Nodup :=
  subscriptions.table.keys_nodup.map Topic.text_injective

theorem get?_empty (topic : String) : (empty : Subscriptions η).get? topic = none := by
  rw [get?]
  cases Topic.ofText? topic with
  | none => rfl
  | some key => rfl

theorem get?_text (subscriptions : Subscriptions η) (topic : Topic) :
    subscriptions.get? topic.text = subscriptions.table.get? topic := by
  rw [get?, Topic.ofText?_text, Option.bind_some]

/-- A topic with a handler fits. -/
theorem exists_key_of_get? {subscriptions : Subscriptions η} {topic : String} {handler : η}
    (h : subscriptions.get? topic = some handler) : ∃ key : Topic, key.text = topic := by
  obtain ⟨key, hkey, -⟩ := Option.bind_eq_some_iff.mp h
  exact ⟨key, Topic.ofText?_eq_some_iff.mp hkey⟩

theorem mem_keys_iff (subscriptions : Subscriptions η) (topic : String) :
    topic ∈ subscriptions.keys ↔ ∃ handler, subscriptions.get? topic = some handler := by
  rw [keys, List.mem_map]
  constructor
  · intro hgiven
    obtain ⟨key, hkey, rfl⟩ := hgiven
    rw [get?_text]
    exact (Table.mem_keys_iff _ key).mp hkey
  · intro hgiven
    obtain ⟨handler, hget⟩ := hgiven
    obtain ⟨key, rfl⟩ := exists_key_of_get? hget
    rw [get?_text] at hget
    exact ⟨key, (Table.mem_keys_iff _ key).mpr ⟨handler, hget⟩, rfl⟩

theorem contains_iff (subscriptions : Subscriptions η) (topic : String) :
    subscriptions.contains topic = true ↔ ∃ handler, subscriptions.get? topic = some handler := by
  unfold contains get?
  cases Topic.ofText? topic with
  | none => simp
  | some key => exact Table.contains_iff _ key

theorem contains_iff_mem {subscriptions : Subscriptions η} {topic : String} :
    subscriptions.contains topic = true ↔ topic ∈ subscriptions.keys :=
  (contains_iff subscriptions topic).trans (mem_keys_iff subscriptions topic).symm

/-! ## §3. Changing the table. -/

/-- A change of the table at one key is a change of the map at one text: what is at the others,
and at a text that is too long, stays. -/
theorem get?_update (new : Option η → Option η) (hnone : new none = none)
    {change : Topic → Table Topic η maxSubscriptions → Table Topic η maxSubscriptions}
    (hchange : ∀ key table other, (change key table).get? other
      = if other = key then new (table.get? other) else table.get? other)
    (topic : String) (subscriptions : Subscriptions η) (other : String) :
    (subscriptions.update topic change).get? other
      = if other = topic then new (subscriptions.get? other) else subscriptions.get? other := by
  cases hother : Topic.ofText? other with
  | none => simp [get?, hother, hnone]
  | some otherKey =>
    obtain rfl := Topic.ofText?_eq_some_iff.mp hother
    unfold update
    split
    · next hlong =>
      -- the topic that is changed has no copy, so it is another one
      rw [if_neg (Topic.ne_text hlong otherKey).symm]
    · next key hkey =>
      obtain rfl := Topic.ofText?_eq_some_iff.mp hkey
      rw [get?_text, get?_text, hchange]
      simp only [Topic.text_injective.eq_iff]

theorem get?_modify (topic : String) (change : η → η) (subscriptions : Subscriptions η)
    (other : String) :
    (subscriptions.modify topic change).get? other
      = if other = topic then (subscriptions.get? other).map change
        else subscriptions.get? other :=
  get?_update (Option.map change) rfl (fun key table => Table.get?_modify key change table) topic
    subscriptions other

/-- **The removed topic has no handler**, and every other topic the one it had. -/
theorem get?_erase (topic : String) (subscriptions : Subscriptions η) (other : String) :
    (subscriptions.erase topic).get? other
      = if other = topic then none else subscriptions.get? other :=
  get?_update (fun _ => none) rfl Table.get?_erase topic subscriptions other

/-- **The new topic has the new handler**, and every other topic the one it had. -/
theorem get?_insert? {topic : Topic} {handler : η} {subscriptions subscriptions' : Subscriptions η}
    (h : subscriptions.insert? topic handler = some subscriptions') (other : String) :
    subscriptions'.get? other
      = if other = topic.text then some handler else subscriptions.get? other := by
  obtain ⟨table, htable, rfl⟩ := Option.map_eq_some_iff.mp h
  cases hother : Topic.ofText? other with
  | none =>
    rw [if_neg (Topic.ne_text hother topic)]
    simp [get?, hother]
  | some otherKey =>
    obtain rfl := Topic.ofText?_eq_some_iff.mp hother
    rw [get?_text, get?_text, Table.get?_insert? htable]
    simp only [Topic.text_injective.eq_iff]

/-- A topic is refused only if it is new and no further topic has room. -/
theorem insert?_eq_none_iff (topic : Topic) (handler : η) (subscriptions : Subscriptions η) :
    subscriptions.insert? topic handler = none
      ↔ subscriptions.contains topic.text = false ∧ subscriptions.isFull = true := by
  rw [insert?, Option.map_eq_none_iff, Table.insert?_eq_none_iff, contains, Topic.ofText?_text]
  rfl

/-- A topic is refused if and only if as many other topics are there as there is room for. -/
theorem insert?_eq_none_iff_others (topic : Topic) (handler : η)
    (subscriptions : Subscriptions η) :
    subscriptions.insert? topic handler = none
      ↔ (subscriptions.keys.filter (· ≠ topic.text)).length = maxSubscriptions := by
  rw [insert?, Option.map_eq_none_iff, Table.insert?_eq_none_iff_others, keys, List.filter_map,
    List.length_map]
  have hsame : (fun other : Topic => decide (other ≠ topic))
      = (fun other => decide (other ≠ topic.text)) ∘ Topic.text := by
    funext other
    exact decide_eq_decide.mpr (not_congr Topic.text_injective.eq_iff.symm)
  rw [hsame]

end Subscriptions

end FieldLink.Mqtt
