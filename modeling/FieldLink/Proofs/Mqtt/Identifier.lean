/-
  FieldLink.Proofs.Mqtt.Identifier
  ────────────────────────────────
  **FRESH PACKET IDENTIFIERS.**

  The 65535 identifiers that are not 0 stand in a cycle, and `successor`
  goes one step along it.  The search for a fresh identifier walks the
  cycle from where the last one was found; fewer steps than there are
  identifiers never meet one twice, so a walk one longer than the number of
  pending messages must leave them:

      iterate_successor_inj  — the walk does not repeat within 65535 steps
      firstFree_eq           — where the search stops, and what it passed over
      allocate_stops         — it stops at an identifier of no pending message
      Searches.unique        — a search without a bound can end in one way only
      first_free_allocated   — it does end, where the bounded one stops
-/
import Mathlib.Logic.Function.Iterate
import FieldLink.Mqtt.Client
import FieldLink.Proofs.Table

namespace FieldLink.Mqtt

namespace Client

/-! ## §1. The cycle of identifiers. -/

/-- How many identifiers there are. -/
def identifierCount : Nat := 65535

theorem toNat_successor (id : UInt16) :
    (successor id).toNat = id.toNat % identifierCount + 1 := by
  have hlt := id.toNat_lt
  have hsum : (id + 1).toNat = (id.toNat + 1) % 65536 := UInt16.toNat_add id 1
  unfold successor identifierCount
  by_cases hzero : id + 1 = 0
  · have hwrap : (id + 1).toNat = 0 := by rw [hzero]; rfl
    rw [if_pos hzero]
    show 1 = id.toNat % 65535 + 1
    omega
  · have hne : (id + 1).toNat ≠ 0 := by
      intro h
      exact hzero (UInt16.toNat_inj.mp h)
    rw [if_neg hzero]
    omega

theorem successor_ne_zero (id : UInt16) : successor id ≠ 0 := by
  intro hzero
  have hpos := toNat_successor id
  rw [hzero] at hpos
  simp at hpos

/-- A walk along the cycle counts on from where it began. -/
theorem toNat_iterate_successor {start : UInt16} (hstart : start ≠ 0) (steps : Nat) :
    (successor^[steps] start).toNat = (start.toNat - 1 + steps) % identifierCount + 1 := by
  have hlt := start.toNat_lt
  have hpos : start.toNat ≠ 0 := by
    intro h
    exact hstart (UInt16.toNat_inj.mp h)
  induction steps with
  | zero =>
    rw [Function.iterate_zero, id_eq]
    unfold identifierCount
    omega
  | succ steps ih =>
    rw [Function.iterate_succ_apply', toNat_successor, ih]
    unfold identifierCount
    omega

theorem iterate_successor_ne_zero {start : UInt16} (hstart : start ≠ 0) (steps : Nat) :
    successor^[steps] start ≠ 0 := by
  intro hzero
  have hpos := toNat_iterate_successor hstart steps
  rw [hzero] at hpos
  simp at hpos

/-- **A walk does not meet an identifier twice** before it has met them all. -/
theorem iterate_successor_inj {start : UInt16} (hstart : start ≠ 0) {i j : Nat}
    (hi : i < identifierCount) (hj : j < identifierCount)
    (h : successor^[i] start = successor^[j] start) : i = j := by
  have hlt := start.toNat_lt
  have hi' := toNat_iterate_successor hstart i
  have hj' := toNat_iterate_successor hstart j
  rw [h, hj'] at hi'
  unfold identifierCount at hi hj hi'
  omega

/-! ## §2. The search. -/

/-- The search stops at the first identifier on its way that is free, or at the end of its way. -/
theorem firstFree_eq (taken : UInt16 → Bool) (tries : Nat) (start : UInt16) :
    ∃ steps ≤ tries, firstFree taken tries start = successor^[steps] start
      ∧ (∀ earlier < steps, taken (successor^[earlier] start) = true)
      ∧ (steps < tries → taken (successor^[steps] start) = false) := by
  induction tries generalizing start with
  | zero => exact ⟨0, Nat.le_refl 0, rfl, by omega, by omega⟩
  | succ tries ih =>
    rw [firstFree]
    by_cases htaken : taken start = true
    · rw [if_pos htaken]
      obtain ⟨steps, hle, heq, hpassed, hfree⟩ := ih (successor start)
      refine ⟨steps + 1, by omega, ?_, ?_, ?_⟩
      · rw [heq, Function.iterate_succ_apply]
      · intro earlier hearlier
        cases earlier with
        | zero => exact htaken
        | succ earlier =>
          rw [Function.iterate_succ_apply]
          exact hpassed earlier (by omega)
      · intro hlt
        rw [Function.iterate_succ_apply]
        exact hfree (by omega)
    · rw [if_neg htaken]
      exact ⟨0, Nat.zero_le _, rfl, by omega, fun _ => Bool.not_eq_true _ ▸ htaken⟩

/-- A table with fewer entries than there are identifiers leaves one free on every walk that is
longer than the table. -/
theorem exists_free {ν : Type} {capacity : Nat} (table : Table UInt16 ν capacity)
    {start : UInt16} (hstart : start ≠ 0) (hcapacity : capacity < identifierCount) :
    ∃ steps ≤ table.size, table.contains (successor^[steps] start) = false := by
  by_contra hall
  -- otherwise the walk is a list of keys without repetition that is longer than the table
  let walk := (List.range (table.size + 1)).map fun steps => successor^[steps] start
  have hsize := table.size_le
  have hnodup : walk.Nodup := by
    rw [List.Nodup, List.pairwise_map]
    refine List.nodup_range.imp_of_mem ?_
    intro i j hi hj hne heq
    have hi' := List.mem_range.mp hi
    have hj' := List.mem_range.mp hj
    exact hne (iterate_successor_inj hstart (by omega) (by omega) heq)
  have hsubset : walk ⊆ table.keys := by
    intro id hid
    obtain ⟨steps, hsteps, rfl⟩ := List.mem_map.mp hid
    have hle : steps ≤ table.size := Nat.lt_succ_iff.mp (List.mem_range.mp hsteps)
    have hcontains : table.contains (successor^[steps] start) = true := by
      by_contra hfree
      exact hall ⟨steps, hle, Bool.not_eq_true _ ▸ hfree⟩
    simpa [Table.contains] using hcontains
  have hlength := hnodup.length_le_of_subset hsubset
  have hkeys : table.keys.length = table.size := by simp [Table.keys, Table.size]
  simp only [walk, List.length_map, List.length_range] at hlength
  omega

variable {η : Type}

/-- **The search stops at the first identifier on its way that is no pending message's**, and passes
over no more identifiers than there are pending messages. -/
theorem allocate_stops (client : Client η) (h : client.nextPacketId ≠ 0) :
    ∃ steps ≤ client.pending.size, client.allocate.1 = successor^[steps] client.nextPacketId
      ∧ (∀ earlier < steps,
        client.pending.contains (successor^[earlier] client.nextPacketId) = true)
      ∧ client.pending.contains (successor^[steps] client.nextPacketId) = false := by
  obtain ⟨steps, hle, heq, hpassed, hfree⟩ :=
    firstFree_eq client.pending.contains client.pending.size client.nextPacketId
  obtain ⟨free, hfreele, hisFree⟩ :=
    exists_free client.pending h (show maxPending < identifierCount by decide)
  refine ⟨steps, hle, heq, hpassed, ?_⟩
  by_cases hlt : steps < client.pending.size
  · exact hfree hlt
  · -- the whole way was walked: the free identifier on it can only be its end
    have hend : free = steps := by
      by_contra hne
      have htaken := hpassed free (by omega)
      rw [hisFree] at htaken
      cases htaken
    rw [← hend]
    exact hisFree

/-- **A new identifier is no pending message's and not 0.** -/
theorem allocate_fresh (client : Client η) (h : client.nextPacketId ≠ 0) :
    client.allocate.1 ≠ 0 ∧ client.pending.contains client.allocate.1 = false := by
  obtain ⟨steps, -, hid, -, hfree⟩ := allocate_stops client h
  rw [hid]
  exact ⟨iterate_successor_ne_zero h steps, hfree⟩

/-! ## §3. The search without a bound. -/

/-- The client once the search has moved on by one identifier. -/
def advance (client : Client η) : Client η :=
  { client with nextPacketId := successor client.nextPacketId }

/-- A search that nothing bounds, with the number of its turns: each turn takes the identifier that
is next and moves on, and the search goes on until a turn has taken one that is no pending
message's. -/
inductive Searches : Client η → Nat → UInt16 → Client η → Prop where
  /-- The last turn. -/
  | found {client : Client η} (hfree : client.pending.contains client.nextPacketId = false) :
      Searches client 1 client.nextPacketId client.advance
  /-- A turn that passes over the identifier of a pending message. -/
  | passed {client after : Client η} {turns : Nat} {id : UInt16}
      (htaken : client.pending.contains client.nextPacketId = true)
      (hrest : Searches client.advance turns id after) : Searches client (turns + 1) id after

/-- **A search can end in one way only.** -/
theorem Searches.unique {client after after' : Client η} {turns turns' : Nat} {id id' : UInt16}
    (h : Searches client turns id after) (h' : Searches client turns' id' after') :
    turns = turns' ∧ id = id' ∧ after = after' := by
  induction h generalizing turns' with
  | found hfree =>
    cases h' with
    | found => exact ⟨rfl, rfl, rfl⟩
    | passed htaken => cases hfree.symm.trans htaken
  | passed htaken hrest ih =>
    cases h' with
    | found hfree => cases hfree.symm.trans htaken
    | passed _ hrest' =>
      obtain ⟨rfl, rfl, rfl⟩ := ih hrest'
      exact ⟨rfl, rfl, rfl⟩

/-- A search ends once it comes to an identifier that is free. -/
theorem searches_of_free {client : Client η} {steps : Nat}
    (hpassed : ∀ earlier < steps,
      client.pending.contains (successor^[earlier] client.nextPacketId) = true)
    (hfree : client.pending.contains (successor^[steps] client.nextPacketId) = false) :
    Searches client (steps + 1) (successor^[steps] client.nextPacketId)
      { client with nextPacketId := successor^[steps + 1] client.nextPacketId } := by
  induction steps generalizing client with
  | zero => exact .found hfree
  | succ steps ih =>
    -- the rest is the search of the client that has moved on, which walks the same cycle
    refine .passed (hpassed 0 (by omega)) (@ih client.advance ?_ hfree)
    intro earlier hearlier
    exact hpassed (earlier + 1) (by omega)

/-- The identifier that comes so many steps behind another one in the order 1, 2, …, 65535, 1, … -/
def following (start : UInt16) (steps : Nat) : UInt16 :=
  UInt16.ofNat ((start.toNat - 1 + steps) % identifierCount + 1)

theorem following_eq_iterate {start : UInt16} (hstart : start ≠ 0) (steps : Nat) :
    following start steps = successor^[steps] start := by
  have hwalk := toNat_iterate_successor hstart steps
  apply UInt16.toNat_inj.mp
  rw [following, UInt16.toNat_ofNat', hwalk]
  unfold identifierCount
  omega

/-- **The first free identifier is allocated.**  However the pending messages are numbered, the
search ends, after one turn more than the identifiers that it passes over, of which there are no
more than pending messages.  Its result is the first identifier that is no pending message's, in the
order 1, 2, …, 65535, 1, … from where it began; the next search begins one behind it, never at 0,
and nothing else is changed. -/
theorem first_free_allocated (client : Client η) (h : client.nextPacketId ≠ 0) :
    ∃ passed ≤ client.pending.size,
      client.allocate.1 = following client.nextPacketId passed
        ∧ client.pending.contains client.allocate.1 = false
        ∧ (∀ earlier < passed,
          client.pending.contains (following client.nextPacketId earlier) = true)
        ∧ client.allocate.2 = { client with nextPacketId := following client.allocate.1 1 }
        ∧ client.allocate.2.nextPacketId ≠ 0
        ∧ ∀ turns id after, Searches client turns id after ↔
          turns = passed + 1 ∧ (id, after) = client.allocate := by
  obtain ⟨steps, hle, hid, hpassed, hfree⟩ := allocate_stops client h
  have hnext : successor client.allocate.1 = following client.allocate.1 1 :=
    (following_eq_iterate (allocate_fresh client h).1 1).symm
  have hsearch : Searches client (steps + 1) client.allocate.1 client.allocate.2 := by
    have hended := searches_of_free hpassed hfree
    rw [Function.iterate_succ_apply', ← hid] at hended
    exact hended
  refine ⟨steps, hle, hid.trans (following_eq_iterate h steps).symm, hid ▸ hfree, ?_, ?_,
    successor_ne_zero _, ?_⟩
  · intro earlier hearlier
    rw [following_eq_iterate h]
    exact hpassed earlier hearlier
  · rw [← hnext]
    rfl
  · intro turns id after
    constructor
    · intro hother
      obtain ⟨rfl, rfl, rfl⟩ := hother.unique hsearch
      exact ⟨rfl, rfl⟩
    · rintro ⟨rfl, hresult⟩
      cases hresult
      exact hsearch

end Client

namespace Specimen

/-- A client with three pending messages, numbered across the end of the cycle. -/
def straddling : Client Unit where
  clientId := "pump-7"
  clientId_fits := by decide
  keepAliveSeconds := 60
  cleanSession := true
  subscriptions := .empty
  pending := {
    entries := [1, 65535, 2].map fun id => (id, ⟨⟨"a", by decide⟩, ⟨[7], by decide⟩, false, 0⟩)
    keys_nodup := by decide
    length_le := by decide }
  nextPacketId := 65535

end Specimen

/-- Three identifiers are passed over, 65535, 1 and 2, so the search ends with 3 in its fourth
turn. -/
theorem first_free_allocated_specimen :
    Specimen.straddling.nextPacketId ≠ 0
      ∧ Specimen.straddling.allocate.1 = 3 ∧ Specimen.straddling.allocate.2.nextPacketId = 4
      ∧ Client.Searches Specimen.straddling 4 3 Specimen.straddling.allocate.2 := by
  have hstart : Specimen.straddling.nextPacketId ≠ 0 := by decide
  obtain ⟨passed, hle, hid, -, -, hafter, -, hsearch⟩ :=
    Client.first_free_allocated Specimen.straddling hstart
  have hthird : Specimen.straddling.allocate.1 = 3 := by decide +kernel
  rw [hthird] at hid hafter
  have hplace : ∀ steps ≤ 3, 3 = Client.following 65535 steps → steps = 3 := by decide +kernel
  obtain rfl : passed = 3 := hplace passed hle hid
  refine ⟨hstart, hthird, ?_, (hsearch 4 3 _).mpr ⟨rfl, ?_⟩⟩
  · rw [hafter]
    decide +kernel
  · exact Prod.ext hthird.symm rfl

end FieldLink.Mqtt
