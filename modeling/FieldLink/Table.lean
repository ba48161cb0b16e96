/-
  FieldLink.Table
  ────────────────────────────────
  **TABLES OF FIXED CAPACITY IN A FIXED ORDER.**

  A table maps keys to values, holds each key once and never more entries
  than its capacity.  Entries keep the order in which they came; putting a
  key that is there replaces its value where it stands, even in a full
  table, and removing an entry moves the last one into its place.
-/
namespace FieldLink

/-- At most `capacity` entries with different keys. -/
structure Table (κ ν : Type) (capacity : Nat) where
  /-- The entries in their order. -/
  entries : List (κ × ν) := []
  /-- No key stands twice. -/
  keys_nodup : (entries.map Prod.fst).Nodup := by simp
  /-- There is room for the entries. -/
  length_le : entries.length ≤ capacity := by simp

namespace Table

variable {κ ν : Type} {capacity : Nat}

/-- A table without entries. -/
def empty : Table κ ν capacity := {}

/-- Number of entries. -/
def size (table : Table κ ν capacity) : Nat := table.entries.length

/-- The keys in their order. -/
def keys (table : Table κ ν capacity) : List κ := table.entries.map Prod.fst

/-- No further key has room. -/
def isFull (table : Table κ ν capacity) : Bool := capacity ≤ table.size

/-! ## §1. Changing values. -/

/-- Changes values and keeps the keys. -/
def mapValues (change : κ → ν → ν) (table : Table κ ν capacity) : Table κ ν capacity where
  entries := table.entries.map fun (key, value) => (key, change key value)
  keys_nodup := by
    rw [List.map_map]
    exact table.keys_nodup
  length_le := by
    rw [List.length_map]
    exact table.length_le

variable [DecidableEq κ]

/-- The value of a key. -/
def get? (table : Table κ ν capacity) (key : κ) : Option ν := table.entries.lookup key

/-- Whether a key is there. -/
def contains (table : Table κ ν capacity) (key : κ) : Bool := key ∈ table.keys

/-- Changes the value of one key, if it is there. -/
def modify (key : κ) (change : ν → ν) (table : Table κ ν capacity) : Table κ ν capacity :=
  table.mapValues fun other value => if other = key then change value else value

/-! ## §2. Changing keys. -/

/-- Puts a value at a key; nothing comes of it if the key is new and the table full. -/
def insert? (key : κ) (value : ν) (table : Table κ ν capacity) : Option (Table κ ν capacity) :=
  if hkey : key ∈ table.keys then some (table.modify key fun _ => value)
  else if hsize : table.size < capacity then
    some {
      entries := table.entries ++ [(key, value)]
      keys_nodup := by
        rw [List.map_append, List.nodup_append]
        exact ⟨table.keys_nodup, by simp, by
          intro a ha b hb
          obtain rfl : b = key := by simpa using hb
          rintro rfl
          exact hkey ha⟩
      length_le := by
        rw [List.length_append]
        exact hsize }
  else none

/-- The entries without a key: the last one moves into its place. -/
def withoutKey (key : κ) (entries : List (κ × ν)) : List (κ × ν) :=
  match entries.getLast? with
  | none => []
  | some last =>
    if key ∈ entries.map Prod.fst then
      entries.dropLast.map fun entry => if entry.1 = key then last else entry
    else entries

theorem withoutKey_concat (key : κ) (entries : List (κ × ν)) (last : κ × ν) :
    withoutKey key (entries ++ [last])
      = if key ∈ (entries ++ [last]).map Prod.fst then
          entries.map fun entry => if entry.1 = key then last else entry
        else entries ++ [last] := by
  simp [withoutKey]

theorem length_withoutKey_le (key : κ) (entries : List (κ × ν)) :
    (withoutKey key entries).length ≤ entries.length := by
  rcases List.eq_nil_or_concat entries with rfl | ⟨init, last, rfl⟩
  · simp [withoutKey]
  · rw [List.concat_eq_append, withoutKey_concat]
    split <;> simp

theorem keys_withoutKey_nodup (key : κ) {entries : List (κ × ν)}
    (h : (entries.map Prod.fst).Nodup) : ((withoutKey key entries).map Prod.fst).Nodup := by
  rcases List.eq_nil_or_concat entries with rfl | ⟨init, last, rfl⟩
  · simp [withoutKey]
  · rw [List.concat_eq_append] at h ⊢
    rw [withoutKey_concat]
    split
    · rw [List.map_append, List.nodup_append] at h
      obtain ⟨hinit, -, hlast⟩ := h
      have hne : ∀ entry ∈ init, entry.1 ≠ last.1 := fun entry hmem =>
        hlast entry.1 (List.mem_map_of_mem hmem) last.1 (by simp)
      rw [List.Nodup, List.pairwise_map] at hinit
      rw [List.Nodup, List.map_map, List.pairwise_map]
      refine hinit.imp_of_mem ?_
      intro a b ha hb hab
      simp only [Function.comp_apply]
      split <;> split
      · rename_i hak hbk
        exact absurd (hak.trans hbk.symm) hab
      · exact fun heq => hne b hb heq.symm
      · exact hne a ha
      · exact hab
    · exact h

/-- Removes a key, if it is there. -/
def erase (key : κ) (table : Table κ ν capacity) : Table κ ν capacity where
  entries := withoutKey key table.entries
  keys_nodup := keys_withoutKey_nodup key table.keys_nodup
  length_le := Nat.le_trans (length_withoutKey_le key table.entries) table.length_le

end Table

end FieldLink
