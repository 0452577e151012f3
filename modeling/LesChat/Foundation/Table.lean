import Mathlib.Data.List.Nodup
import Mathlib.Tactic.TypeStar

/-! A table with an autoincremented integer key and two unique columns, as SQL defines it. -/

namespace Foundation

/--
The rows of a table in the order of their integer keys.

The fields are the constraints the database itself enforces, so no statement can break them.
-/
structure Table {α κ μ : Type*} (first : α → κ) (second : α → μ) where
  /-- The rows, each with the key it was assigned. -/
  rows : List (Nat × α)
  /-- The largest key ever assigned, which deleting rows does not lower. -/
  lastId : Nat
  /-- Keys increase in storage order. -/
  ordered : (rows.map Prod.fst).Pairwise (· < ·)
  /-- No row has a key that is still to be assigned. -/
  assigned : ∀ row ∈ rows, row.1 ≤ lastId
  /-- The first unique column. -/
  uniqueFirst : (rows.map fun row => first row.2).Nodup
  /-- The second unique column. -/
  uniqueSecond : (rows.map fun row => second row.2).Nodup

namespace Table

variable {α κ μ : Type*} {first : α → κ} {second : α → μ}

/-- A table as it is created. -/
def empty : Table first second where
  rows := []
  lastId := 0
  ordered := List.Pairwise.nil
  assigned := by simp
  uniqueFirst := List.nodup_nil
  uniqueSecond := List.nodup_nil

/-- The stored values, oldest key first. -/
def values (table : Table first second) : List α := table.rows.map Prod.snd

/-- A value that collides with no stored row on either unique column. -/
def Fresh (table : Table first second) (value : α) : Prop :=
  -- Both columns are compared with every row.
  ∀ stored ∈ table.values, first stored ≠ first value ∧ second stored ≠ second value

/-- Collisions can be looked for by scanning the rows. -/
instance [DecidableEq κ] [DecidableEq μ] (table : Table first second) (value : α) :
    Decidable (table.Fresh value) :=
  inferInstanceAs (Decidable (∀ stored ∈ table.values, _))

/-- A value is fresh exactly when its columns are among neither column's stored entries. -/
theorem fresh_iff (table : Table first second) (value : α) :
    table.Fresh value ↔
      first value ∉ table.values.map first ∧ second value ∉ table.values.map second := by
  -- Membership in a mapped list names a row with that entry.
  simp only [Fresh, List.mem_map, not_exists, not_and]
  constructor
  · intro fresh
    exact ⟨fun stored member => (fresh stored member).1, fun stored member => (fresh stored member).2⟩
  · intro absent stored member
    exact ⟨absent.1 stored member, absent.2 stored member⟩

/-- The first column's entries are those of the stored values. -/
theorem map_first_values (table : Table first second) :
    table.values.map first = table.rows.map fun row => first row.2 := by
  -- A value is the second half of its row.
  simp [values]

/-- The second column's entries are those of the stored values. -/
theorem map_second_values (table : Table first second) :
    table.values.map second = table.rows.map fun row => second row.2 := by
  -- A value is the second half of its row.
  simp [values]

/-- No two stored values agree on the first column. -/
theorem nodup_first (table : Table first second) : (table.values.map first).Nodup :=
  -- The constraint is stated on the rows.
  table.map_first_values ▸ table.uniqueFirst

/-- No two stored values agree on the second column. -/
theorem nodup_second (table : Table first second) : (table.values.map second).Nodup :=
  -- The second key is unique among the rows.
  table.map_second_values ▸ table.uniqueSecond

/-- `INSERT`: a fresh value is appended under the next key. -/
def insert (table : Table first second) (value : α) (fresh : table.Fresh value) :
    Table first second where
  rows := table.rows ++ [(table.lastId + 1, value)]
  lastId := table.lastId + 1
  ordered := by
    -- The new key is above every assigned one.
    simp only [List.map_append, List.map_cons, List.map_nil]
    refine List.pairwise_append.mpr ⟨table.ordered, List.pairwise_singleton _ _, ?_⟩
    intro key member next isNew
    obtain ⟨row, inRows, rfl⟩ := List.mem_map.mp member
    have bound := table.assigned row inRows
    simp only [List.mem_singleton] at isNew
    omega
  assigned := by
    intro row member
    rcases List.mem_append.mp member with old | new
    · exact Nat.le_succ_of_le (table.assigned row old)
    · simp only [List.mem_singleton] at new
      simp [new]
  uniqueFirst := by
    -- The new entry differs from every stored one.
    have absent := ((table.fresh_iff value).mp fresh).1
    rw [table.map_first_values] at absent
    rw [List.map_append]
    exact List.nodup_append.mpr ⟨table.uniqueFirst, List.nodup_singleton _, by
      intro entry member other isNew same
      subst same
      simp only [List.map_cons, List.map_nil, List.mem_singleton] at isNew
      exact absent (isNew ▸ member)⟩
  uniqueSecond := by
    have absent := ((table.fresh_iff value).mp fresh).2
    rw [table.map_second_values] at absent
    rw [List.map_append]
    exact List.nodup_append.mpr ⟨table.uniqueSecond, List.nodup_singleton _, by
      intro entry member other isNew same
      subst same
      simp only [List.map_cons, List.map_nil, List.mem_singleton] at isNew
      exact absent (isNew ▸ member)⟩

/-- Keeping only some of the rows keeps every constraint. -/
def keep (table : Table first second) (kept : Nat × α → Bool) : Table first second where
  rows := table.rows.filter kept
  lastId := table.lastId
  ordered := table.ordered.sublist (List.filter_sublist.map _)
  assigned := fun row member => table.assigned row (List.mem_of_mem_filter member)
  uniqueFirst := table.uniqueFirst.sublist (List.filter_sublist.map _)
  uniqueSecond := table.uniqueSecond.sublist (List.filter_sublist.map _)

/-- `DELETE` of the rows whose key is among the lowest `count` keys. -/
def deleteOldest (table : Table first second) (count : Nat) : Table first second :=
  -- The subquery selects keys in increasing order, up to the limit.
  table.keep fun row => decide (row.1 ∉ (table.rows.map Prod.fst).take count)

/-- An empty table stores nothing. -/
@[simp] theorem values_empty : (empty : Table first second).values = [] := rfl

/-- Inserting appends the value. -/
@[simp] theorem values_insert (table : Table first second) (value : α) (fresh : table.Fresh value) :
    (table.insert value fresh).values = table.values ++ [value] := by
  -- A row is inserted behind the others.
  simp [values, insert]

/-- Filtering out the keys of the front leaves the back, since keys increase. -/
private theorem filter_front_keys (front back : List (Nat × α))
    (ordered : ((front ++ back).map Prod.fst).Pairwise (· < ·)) :
    (front ++ back).filter (fun row => decide (row.1 ∉ front.map Prod.fst)) = back := by
  -- Every key of the front is below every key behind it.
  have below : ∀ early ∈ front, ∀ late ∈ back, early.1 < late.1 := by
    intro early inFront late inBack
    rw [List.map_append] at ordered
    exact (List.pairwise_append.mp ordered).2.2 early.1 (List.mem_map_of_mem inFront) late.1
      (List.mem_map_of_mem inBack)
  have removed : front.filter (fun row => decide (row.1 ∉ front.map Prod.fst)) = [] := by
    rw [List.filter_eq_nil_iff]
    intro row member
    simpa using Exists.intro row.2 member
  have kept : back.filter (fun row => decide (row.1 ∉ front.map Prod.fst)) = back := by
    rw [List.filter_eq_self]
    intro row member
    simp only [decide_eq_true_eq, List.mem_map, not_exists, not_and]
    intro early inFront same
    have := below early inFront row member
    omega
  rw [List.filter_append, removed, kept, List.nil_append]

/-- The rows left after deleting the lowest keys. -/
theorem rows_deleteOldest (table : Table first second) (count : Nat) :
    (table.deleteOldest count).rows = table.rows.drop count := by
  -- Keys ascend, so the front of the rows has the smallest of them.
  have split := List.take_append_drop count table.rows
  have front := filter_front_keys (table.rows.take count) (table.rows.drop count)
    (split.symm ▸ table.ordered)
  rw [split, List.map_take] at front
  exact front

/-- Deleting the lowest keys drops the values stored first. -/
@[simp] theorem values_deleteOldest (table : Table first second) (count : Nat) :
    (table.deleteOldest count).values = table.values.drop count := by
  -- Rows and values are dropped together.
  simp only [values, rows_deleteOldest, List.map_drop]

end Table

end Foundation
