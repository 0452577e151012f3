import Mathlib.Data.List.Basic
import Mathlib.Order.Basic
import Mathlib.Tactic.TypeStar

/-! A log that is only ever appended to, the window of it still held, and the largest rank per key. -/

namespace Foundation

variable {α κ : Type*}

/-- What is held of a log after dropping some of its oldest entries. -/
def Window (log held : List α) : Prop :=
  -- Whatever was dropped came before everything still held.
  ∃ dropped, held = log.drop dropped

/-- Everything is held of a log nothing was dropped from. -/
theorem Window.refl (log : List α) : Window log log := ⟨0, rfl⟩

/-- Appending to the log appends to what is held of it. -/
theorem Window.append {log held : List α} (window : Window log held) (entry : α) :
    Window (log ++ [entry]) (held ++ [entry]) := by
  obtain ⟨dropped, rfl⟩ := window
  -- Dropping more than the log holds is dropping all of it.
  refine ⟨min dropped log.length, ?_⟩
  rw [List.drop_append_of_le_length (Nat.min_le_right _ _)]
  rcases Nat.le_total dropped log.length with inside | beyond
  · rw [Nat.min_eq_left inside]
  · rw [Nat.min_eq_right beyond, List.drop_eq_nil_of_le beyond, List.drop_length]

/-- Dropping the oldest held entries leaves a window of the same log. -/
theorem Window.drop {log held : List α} (window : Window log held) (count : Nat) :
    Window log (held.drop count) := by
  -- The entries dropped before and now are a front of the log.
  obtain ⟨dropped, rfl⟩ := window
  exact ⟨dropped + count, by rw [List.drop_drop]⟩

/-- Everything held was logged. -/
theorem Window.subset {log held : List α} (window : Window log held) {entry : α}
    (member : entry ∈ held) : entry ∈ log := by
  -- What is held is the rest of the log.
  obtain ⟨dropped, rfl⟩ := window
  exact List.mem_of_mem_drop member

/-- The largest rank logged under a key, zero when nothing was. -/
def highWater [DecidableEq κ] (key : α → κ) (rank : α → Nat) (log : List α) (wanted : κ) : Nat :=
  -- Only entries of the wanted key count.
  ((log.filter fun entry => key entry = wanted).map rank).foldr max 0

section HighWater

variable [DecidableEq κ] (key : α → κ) (rank : α → Nat)

/-- Nothing was logged under any key of an empty log. -/
@[simp] theorem highWater_nil (wanted : κ) : highWater key rank [] wanted = 0 := rfl

/-- Reading the log from its head, one entry at a time. -/
theorem highWater_cons (entry : α) (log : List α) (wanted : κ) :
    highWater key rank (entry :: log) wanted =
      if key entry = wanted then max (rank entry) (highWater key rank log wanted)
      else highWater key rank log wanted := by
  -- The first entry counts for its own key only.
  by_cases same : key entry = wanted <;> simp [highWater, same]

/-- A bound on the largest rank is a bound on every rank under the key. -/
theorem highWater_le_iff (log : List α) (wanted : κ) (bound : Nat) :
    highWater key rank log wanted ≤ bound ↔
      ∀ entry ∈ log, key entry = wanted → rank entry ≤ bound := by
  -- Each entry is compared with the bound on its own.
  induction log with
  | nil => simp
  | cons entry rest ih =>
    rw [highWater_cons]
    by_cases same : key entry = wanted
    · rw [if_pos same, Nat.max_le, ih]
      simp [same]
    · simp [same, ih]

/-- Every logged rank is at most the largest one under its key. -/
theorem le_highWater {log : List α} {entry : α} (member : entry ∈ log) :
    rank entry ≤ highWater key rank log (key entry) :=
  -- The mark bounds itself, and so every entry of its key.
  (highWater_le_iff key rank log _ _).mp (Nat.le_refl _) entry member rfl

/-- A positive largest rank belongs to some entry of the key. -/
theorem exists_of_highWater_pos {log : List α} {wanted : κ}
    (positive : 0 < highWater key rank log wanted) :
    ∃ entry ∈ log, key entry = wanted ∧ rank entry = highWater key rank log wanted := by
  -- The maximum is either the head's rank or that of the rest.
  induction log with
  | nil => simp at positive
  | cons entry rest ih =>
    rw [highWater_cons] at positive ⊢
    by_cases same : key entry = wanted
    · simp only [same, if_true] at positive ⊢
      rcases Nat.le_total (highWater key rank rest wanted) (rank entry) with head | tail
      · exact ⟨entry, by simp, same, by omega⟩
      · by_cases zero : highWater key rank rest wanted = 0
        · exact ⟨entry, by simp, same, by omega⟩
        · obtain ⟨other, member, named, equal⟩ := ih (by omega)
          exact ⟨other, by simp [member], named, by omega⟩
    · simp only [same, if_false] at positive ⊢
      obtain ⟨other, member, named, equal⟩ := ih positive
      exact ⟨other, by simp [member], named, equal⟩

/-- The largest rank depends only on which entries were logged. -/
theorem highWater_congr {left right : List α} (same : ∀ entry, entry ∈ left ↔ entry ∈ right)
    (wanted : κ) : highWater key rank left wanted = highWater key rank right wanted := by
  -- Each side is bounded by the other.
  apply Nat.le_antisymm
  · rw [highWater_le_iff]
    intro entry member same
    subst same
    exact le_highWater key rank ((same entry).mp member)
  · rw [highWater_le_iff]
    intro entry member same
    subst same
    exact le_highWater key rank ((same entry).mpr member)

/-- Logging an entry raises the mark of its key only. -/
theorem highWater_append (log : List α) (entry : α) (wanted : κ) :
    highWater key rank (log ++ [entry]) wanted =
      if key entry = wanted then max (highWater key rank log wanted) (rank entry)
      else highWater key rank log wanted := by
  -- The order of the log does not matter, so the new entry may be read first.
  have front : highWater key rank (log ++ [entry]) wanted =
      highWater key rank (entry :: log) wanted :=
    highWater_congr key rank (by intro other; simp [or_comm]) wanted
  rw [front, highWater_cons]
  split
  · exact Nat.max_comm _ _
  · rfl

/-- A longer log has marks at least as high. -/
theorem highWater_mono {left right : List α} (subset : ∀ entry ∈ left, entry ∈ right)
    (wanted : κ) : highWater key rank left wanted ≤ highWater key rank right wanted := by
  -- Every entry on the left is bounded by the mark on the right.
  rw [highWater_le_iff]
  intro entry member same
  subst same
  exact le_highWater key rank (subset entry member)

end HighWater

end Foundation
