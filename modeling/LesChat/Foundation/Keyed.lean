import Mathlib.Data.List.Nodup
import Mathlib.Tactic.TypeStar

/-! Association lists with unique keys, and the high-water marks kept in them. -/

namespace Foundation

namespace Keyed

variable {κ β : Type*} [DecidableEq κ]

/-- The value stored under a key. -/
def lookup (entries : List (κ × β)) (key : κ) : Option β :=
  -- Keys are unique in a well-formed list, so the first match is the only one.
  (entries.find? fun entry => entry.1 == key).map Prod.snd

/-- Storing a value: an existing key keeps its place and takes the new value. -/
def upsert (entries : List (κ × β)) (key : κ) (value : β) : List (κ × β) :=
  -- The last value stored under a key is the one that stays.
  if key ∈ entries.map Prod.fst then
    entries.map fun entry => if entry.1 = key then (key, value) else entry
  else entries ++ [(key, value)]

/-- Storing under a fresh key appends the entry. -/
theorem upsert_of_notMem {entries : List (κ × β)} {key : κ} (fresh : key ∉ entries.map Prod.fst)
    (value : β) : upsert entries key value = entries ++ [(key, value)] := by
  -- A new key is put at the end.
  simp only [upsert, if_neg fresh]

/-- A key without an entry has no value. -/
theorem lookup_eq_none_iff (entries : List (κ × β)) (key : κ) :
    lookup entries key = none ↔ key ∉ entries.map Prod.fst := by
  -- The search fails exactly when every entry has another key.
  simp only [lookup, Option.map_eq_none_iff, List.find?_eq_none, beq_iff_eq, List.mem_map,
    not_exists, not_and]

/-- A value that is found is stored under its key. -/
theorem mem_of_lookup {entries : List (κ × β)} {key : κ} {value : β}
    (found : lookup entries key = some value) : (key, value) ∈ entries := by
  -- The search returns an entry whose key is the one asked for.
  obtain ⟨entry, located, rfl⟩ := Option.map_eq_some_iff.mp found
  have member := List.mem_of_find?_eq_some located
  have named : entry.1 = key := by simpa using List.find?_some located
  rw [← named]
  exact member

/-- With unique keys, every stored entry is found under its key. -/
theorem lookup_of_mem {entries : List (κ × β)} (unique : (entries.map Prod.fst).Nodup)
    {key : κ} {value : β} (member : (key, value) ∈ entries) : lookup entries key = some value := by
  induction entries with
  | nil => simp at member
  | cons entry rest ih =>
    rw [List.map_cons, List.nodup_cons] at unique
    rcases List.mem_cons.mp member with rfl | later
    · simp [lookup]
    · -- An earlier entry with the same key would repeat it.
      have other : entry.1 ≠ key := by
        intro same
        have stored : (key, value).1 ∈ rest.map Prod.fst := List.mem_map_of_mem later
        exact unique.1 (same ▸ stored)
      simpa [lookup, other] using ih unique.2 later

/-- Storing a value makes it the one found under the key. -/
theorem lookup_upsert_same (entries : List (κ × β)) (key : κ) (value : β) :
    lookup (upsert entries key value) key = some value := by
  by_cases present : key ∈ entries.map Prod.fst
  · -- The entries before the key are kept, and the key's own entry is replaced.
    simp only [upsert, if_pos present, lookup]
    induction entries with
    | nil => simp at present
    | cons entry rest ih =>
      by_cases same : entry.1 = key
      · simp [same]
      · have later : key ∈ rest.map Prod.fst := by
          simpa [Ne.symm same] using present
        simpa [same] using ih later
  · -- A fresh key is found at the end, past entries with other keys.
    have absent : entries.find? (fun entry => entry.1 == key) = none := by
      simp only [List.find?_eq_none, beq_iff_eq]
      intro entry inEntries same
      exact present (List.mem_map.mpr ⟨entry, inEntries, same⟩)
    simp [upsert, if_neg present, lookup, List.find?_append, absent]

/-- Storing a value leaves the values under other keys alone. -/
theorem lookup_upsert_other (entries : List (κ × β)) {key other : κ} (value : β)
    (different : other ≠ key) : lookup (upsert entries key value) other = lookup entries other := by
  by_cases present : key ∈ entries.map Prod.fst
  · -- Replaced entries keep their keys, so the search meets the same positions.
    simp only [upsert, if_pos present, lookup]
    clear present
    induction entries with
    | nil => rfl
    | cons entry rest ih =>
      by_cases same : entry.1 = key
      · have replaced : (key == other) = false := beq_eq_false_iff_ne.mpr (Ne.symm different)
        have original : (entry.1 == other) = false := same ▸ replaced
        simpa only [List.map_cons, if_pos same, List.find?_cons, replaced, original] using ih
      · by_cases found : entry.1 = other
        · simp [found, different]
        · simpa [same, found] using ih
  · -- An appended entry has a key the search is not looking for.
    simp [upsert, if_neg present, lookup, List.find?_append, Ne.symm different]

/-- An entry after storing is the new one, or was there before. -/
theorem mem_of_mem_upsert {entries : List (κ × β)} {key : κ} {value : β} {entry : κ × β}
    (member : entry ∈ upsert entries key value) : entry = (key, value) ∨ entry ∈ entries := by
  unfold upsert at member
  split at member
  · -- Every entry is kept, except the one that is replaced.
    obtain ⟨old, inOld, same⟩ := List.mem_map.mp member
    split at same
    · exact .inl same.symm
    · exact .inr (same ▸ inOld)
  · rcases List.mem_append.mp member with old | new
    · exact .inr old
    · exact .inl (List.mem_singleton.mp new)

/-- The keys after storing: the old ones, then the new one if it was not there. -/
theorem keys_upsert (entries : List (κ × β)) (key : κ) (value : β) :
    (upsert entries key value).map Prod.fst =
      if key ∈ entries.map Prod.fst then entries.map Prod.fst
      else entries.map Prod.fst ++ [key] := by
  by_cases present : key ∈ entries.map Prod.fst
  · -- Replacing an entry's value keeps every key.
    simp only [upsert, if_pos present, List.map_map]
    apply List.map_congr_left
    intro entry _
    by_cases same : entry.1 = key <;> simp [same]
  · simp [upsert, if_neg present]

/-- Storing keeps the keys unique. -/
theorem nodup_keys_upsert {entries : List (κ × β)} (unique : (entries.map Prod.fst).Nodup)
    (key : κ) (value : β) : ((upsert entries key value).map Prod.fst).Nodup := by
  -- Only an absent key is appended.
  rw [keys_upsert]
  split
  · exact unique
  · rename_i absent
    exact List.nodup_append.mpr ⟨unique, by simp, by
      intro left inOld right isNew same
      simp only [List.mem_singleton] at isNew
      exact absent (isNew ▸ same ▸ inOld)⟩

/-- Of the values stored one after the other, the last one under a key is the one found. -/
theorem lookup_foldl_upsert {α : Type*} (key : α → κ) (value : α → β) (stored : List α)
    (entries : List (κ × β)) (wanted : κ) :
    lookup (stored.foldl (fun built event => upsert built (key event) (value event)) entries) wanted =
      ((stored.filter fun event => key event = wanted).getLast?.map value).or
        (lookup entries wanted) := by
  -- The induction follows the values stored, each of which hides what was found before it.
  induction stored generalizing entries with
  | nil => rfl
  | cons event rest ih =>
    rw [List.foldl_cons, ih]
    by_cases same : key event = wanted
    · subst same
      rw [lookup_upsert_same]
      cases later : (rest.filter fun other => key other = key event).getLast? with
      | none => simp [List.getLast?_cons, later]
      | some last => simp [List.getLast?_cons, later]
    · rw [lookup_upsert_other entries _ (Ne.symm same)]
      simp [same]

end Keyed

/-- A high-water mark for each of finitely many keys. -/
structure Marks (κ : Type*) where
  /-- The marks, one for each key that has one. -/
  entries : List (κ × Nat)
  /-- The key is the primary key of the table the marks are kept in. -/
  unique : (entries.map Prod.fst).Nodup

namespace Marks

variable {κ : Type*} [DecidableEq κ]

/-- No marks at all. -/
def empty : Marks κ := ⟨[], List.nodup_nil⟩

/-- The mark of a key, absent when the key has none. -/
def get? (marks : Marks κ) (key : κ) : Option Nat := Keyed.lookup marks.entries key

/-- The mark of a key, zero when the key has none. -/
def value (marks : Marks κ) (key : κ) : Nat := (marks.get? key).getD 0

/-- Raising a mark: it becomes the larger of the old mark and the new rank. -/
def raise (marks : Marks κ) (key : κ) (rank : Nat) : Marks κ where
  -- A key without a mark takes the rank as it is.
  entries := Keyed.upsert marks.entries key (max (marks.value key) rank)
  unique := Keyed.nodup_keys_upsert marks.unique key _

/-- A key that was never raised has no mark. -/
@[simp] theorem get?_empty (key : κ) : (empty : Marks κ).get? key = none := rfl

/-- Raising a key leaves the larger of its old mark and the rank. -/
theorem get?_raise_same (marks : Marks κ) (key : κ) (rank : Nat) :
    (marks.raise key rank).get? key = some (max (marks.value key) rank) :=
  -- The mark that is written is the greater one.
  Keyed.lookup_upsert_same _ _ _

/-- Raising a key leaves the other marks alone. -/
theorem get?_raise_other (marks : Marks κ) {key other : κ} (rank : Nat) (different : other ≠ key) :
    (marks.raise key rank).get? other = marks.get? other :=
  -- Only the mark of the key is written.
  Keyed.lookup_upsert_other _ _ different

/-- What raising one key does to the mark of any key. -/
theorem value_raise (marks : Marks κ) (key other : κ) (rank : Nat) :
    (marks.raise key rank).value other =
      if key = other then max (marks.value other) rank else marks.value other := by
  -- A mark that is raised keeps its value when that is the greater one.
  by_cases same : key = other
  · subst same
    simp [value, get?_raise_same]
  · simp only [value, get?_raise_other marks rank (Ne.symm same), if_neg same]

/-- An entry of the table is exactly the mark of its key. -/
theorem mem_entries_iff (marks : Marks κ) (key : κ) (rank : Nat) :
    (key, rank) ∈ marks.entries ↔ marks.get? key = some rank :=
  -- Each key has one entry, so a search finds it.
  ⟨Keyed.lookup_of_mem marks.unique, Keyed.mem_of_lookup⟩

end Marks

end Foundation
