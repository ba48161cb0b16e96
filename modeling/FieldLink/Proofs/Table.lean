/-
  FieldLink.Proofs.Table
  ────────────────────────────────
  **A TABLE IS A FINITE MAP.**

  Whatever the order of its entries, a table is known by what it holds at
  each key, since no key stands twice.  Each operation changes the table at
  one key only, and moving the last entry into a gap changes nothing:

      get?_insert?         — the new key holds the new value
      get?_erase           — the removed key holds nothing
      get?_mapValues       — every key holds its changed value
      insert?_eq_none_iff  — a key is refused only if it is new and the table full
-/
import FieldLink.Table

namespace FieldLink.Table

variable {κ ν : Type} {capacity : Nat}

theorem size_le (table : Table κ ν capacity) : table.size ≤ capacity := table.length_le

theorem not_isFull_iff (table : Table κ ν capacity) :
    ¬ table.isFull = true ↔ table.size < capacity := by
  rw [isFull, decide_eq_true_iff]
  exact Nat.not_le

variable [DecidableEq κ]

/-! ## §1. Looking up. -/

/-- **What a key holds is what its entry says.** -/
theorem get?_eq_some_iff (table : Table κ ν capacity) (key : κ) (value : ν) :
    table.get? key = some value ↔ (key, value) ∈ table.entries := by
  rw [get?, List.lookup_eq_some_iff]
  constructor
  · intro hgiven
    obtain ⟨front, back, heq, -⟩ := hgiven
    rw [heq]
    simp
  · intro hmem
    obtain ⟨front, back, heq⟩ := List.append_of_mem hmem
    refine ⟨front, back, heq, ?_⟩
    intro entry hentry
    -- an earlier entry with the same key would make the keys repeat
    have hnodup := table.keys_nodup
    rw [heq, List.map_append, List.map_cons] at hnodup
    have hdisjoint := (List.nodup_append.mp hnodup).2.2
    have hne : entry.1 ≠ key :=
      hdisjoint entry.1 (List.mem_map_of_mem hentry) key List.mem_cons_self
    simpa using hne.symm

theorem mem_keys_iff (table : Table κ ν capacity) (key : κ) :
    key ∈ table.keys ↔ ∃ value, table.get? key = some value := by
  rw [keys, List.mem_map]
  constructor
  · intro hgiven
    obtain ⟨⟨other, value⟩, hmem, rfl⟩ := hgiven
    exact ⟨value, (get?_eq_some_iff table other value).mpr hmem⟩
  · intro hgiven
    obtain ⟨value, hget⟩ := hgiven
    exact ⟨(key, value), (get?_eq_some_iff table key value).mp hget, rfl⟩

theorem contains_iff (table : Table κ ν capacity) (key : κ) :
    table.contains key = true ↔ ∃ value, table.get? key = some value := by
  rw [contains, decide_eq_true_iff, mem_keys_iff]

/-! ## §2. Changing values. -/

theorem get?_mapValues (change : κ → ν → ν) (table : Table κ ν capacity) (key : κ) :
    (table.mapValues change).get? key = (table.get? key).map (change key) := by
  apply Option.ext
  intro value
  rw [get?_eq_some_iff, Option.map_eq_some_iff]
  constructor
  · intro hmem
    obtain ⟨⟨other, old⟩, hold, heq⟩ := List.mem_map.mp hmem
    obtain ⟨rfl, rfl⟩ := Prod.mk.inj heq
    exact ⟨old, (get?_eq_some_iff table other old).mpr hold, rfl⟩
  · intro hgiven
    obtain ⟨old, hold, rfl⟩ := hgiven
    exact List.mem_map.mpr ⟨(key, old), (get?_eq_some_iff table key old).mp hold, rfl⟩

theorem get?_modify (key : κ) (change : ν → ν) (table : Table κ ν capacity) (other : κ) :
    (table.modify key change).get? other
      = if other = key then (table.get? other).map change else table.get? other := by
  rw [modify, get?_mapValues]
  by_cases h : other = key
  · simp [h]
  · simp [h]

/-! ## §3. Changing keys. -/

/-- **The new key holds the new value**, and every other key what it held. -/
theorem get?_insert? {key : κ} {value : ν} {table table' : Table κ ν capacity}
    (h : table.insert? key value = some table') (other : κ) :
    table'.get? other = if other = key then some value else table.get? other := by
  unfold insert? at h
  split at h
  · next hkey =>
    obtain rfl := Option.some.inj h
    obtain ⟨old, hold⟩ := (mem_keys_iff table key).mp hkey
    rw [get?_modify]
    by_cases hother : other = key
    · simp [hother, hold]
    · simp [hother]
  · next hkey =>
    split at h
    · obtain rfl := Option.some.inj h
      apply Option.ext
      intro found
      rw [get?_eq_some_iff, List.mem_append, List.mem_singleton, ← get?_eq_some_iff]
      by_cases hother : other = key
      · subst hother
        have hnone : table.get? other = none := by
          rw [Option.eq_none_iff_forall_ne_some]
          intro old hold
          exact hkey ((mem_keys_iff table other).mpr ⟨old, hold⟩)
        simp [hnone, eq_comm]
      · simp [hother]
    · cases h

/-- A key is refused only if it is new and no further key has room. -/
theorem insert?_eq_none_iff (key : κ) (value : ν) (table : Table κ ν capacity) :
    table.insert? key value = none ↔ table.contains key = false ∧ table.isFull = true := by
  unfold insert? contains isFull
  by_cases hkey : key ∈ table.keys
  · simp [hkey]
  · by_cases hsize : table.size < capacity
    · simp [hkey, hsize]
    · simp [hkey, hsize, Nat.not_lt.mp hsize]

/-- A key is refused if and only if as many other keys are there as there is room for. -/
theorem insert?_eq_none_iff_others (key : κ) (value : ν) (table : Table κ ν capacity) :
    table.insert? key value = none ↔ (table.keys.filter (· ≠ key)).length = capacity := by
  have hkeys : table.keys.length = table.size := List.length_map _
  have hroom := table.size_le
  rw [insert?_eq_none_iff, contains, isFull, decide_eq_false_iff_not, decide_eq_true_iff]
  constructor
  · rintro ⟨hnew, hfull⟩
    rw [List.filter_eq_self.mpr, hkeys]
    · exact Nat.le_antisymm hroom hfull
    · intro other hother
      exact decide_eq_true fun hsame => hnew (hsame ▸ hother)
  · intro hothers
    have hle := List.length_filter_le (fun other => decide (other ≠ key)) table.keys
    have hall := List.length_filter_eq_length_iff.mp
      (show (table.keys.filter (· ≠ key)).length = table.keys.length by omega)
    refine ⟨fun hkey => ?_, by omega⟩
    exact of_decide_eq_true (hall key hkey) rfl

/-- A table that is not full takes every key. -/
theorem exists_insert? (table : Table κ ν capacity) (h : ¬ table.isFull = true) (key : κ)
    (value : ν) : ∃ table', table.insert? key value = some table' := by
  apply Option.ne_none_iff_exists'.mp
  intro hnone
  exact h ((insert?_eq_none_iff key value table).mp hnone).2

/-- Without repetitions, removing a key removes its entry and keeps the others. -/
theorem mem_withoutKey {entries : List (κ × ν)} (hnodup : (entries.map Prod.fst).Nodup)
    (key other : κ) (value : ν) :
    (other, value) ∈ withoutKey key entries ↔ (other, value) ∈ entries ∧ other ≠ key := by
  rcases List.eq_nil_or_concat entries with rfl | ⟨init, last, rfl⟩
  · simp [withoutKey]
  · rw [List.concat_eq_append] at hnodup ⊢
    rw [withoutKey_concat]
    rw [List.map_append, List.nodup_append] at hnodup
    obtain ⟨hinit, -, hlast⟩ := hnodup
    have hne : ∀ entry ∈ init, entry.1 ≠ last.1 := fun entry hentry =>
      hlast entry.1 (List.mem_map_of_mem hentry) last.1 (by simp)
    by_cases hkey : key ∈ (init ++ [last]).map Prod.fst
    · rw [if_pos hkey, List.mem_map]
      constructor
      · intro hgiven
        obtain ⟨entry, hentry, heq⟩ := hgiven
        by_cases hsame : entry.1 = key
        · rw [if_pos hsame] at heq
          subst heq
          exact ⟨by simp, fun hother => hne entry hentry (hsame.trans hother.symm)⟩
        · rw [if_neg hsame] at heq
          subst heq
          exact ⟨List.mem_append_left _ hentry, hsame⟩
      · intro hgiven
        obtain ⟨hmem, hother⟩ := hgiven
        rcases List.mem_append.mp hmem with hfront | hback
        · exact ⟨(other, value), hfront, by rw [if_neg hother]⟩
        · -- the last entry stays: it now stands where the removed key stood
          have hback : (other, value) = last := List.mem_singleton.mp hback
          have hgap : key ∈ init.map Prod.fst := by
            rw [List.map_append, List.mem_append] at hkey
            rcases hkey with hgap | hlast
            · exact hgap
            · rw [List.map_singleton, List.mem_singleton, ← hback] at hlast
              exact absurd hlast.symm hother
          obtain ⟨entry, hentry, hsame⟩ := List.mem_map.mp hgap
          exact ⟨entry, hentry, by rw [if_pos hsame, hback]⟩
    · rw [if_neg hkey]
      constructor
      · intro hmem
        refine ⟨hmem, ?_⟩
        rintro rfl
        exact hkey (List.mem_map_of_mem hmem)
      · exact fun h => h.1

/-- **The removed key holds nothing**, and every other key what it held. -/
theorem get?_erase (key : κ) (table : Table κ ν capacity) (other : κ) :
    (table.erase key).get? other = if other = key then none else table.get? other := by
  apply Option.ext
  intro value
  rw [get?_eq_some_iff]
  have hmem := mem_withoutKey table.keys_nodup key other value
  by_cases hother : other = key
  · simp only [hother, ne_eq, not_true_eq_false, and_false, iff_false] at hmem
    simpa [hother, erase] using hmem
  · simp only [hother, ne_eq, not_false_eq_true, and_true] at hmem
    rw [if_neg hother, get?_eq_some_iff]
    exact hmem

end FieldLink.Table
