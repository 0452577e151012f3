import Mathlib.Data.List.Basic
import Mathlib.Tactic.TypeStar

/-! A list that is fed one item after the other, and passes over items it already shows. -/

namespace Foundation

namespace Feed

variable {α τ : Type*} [DecidableEq τ] (name : α → τ) (fits : α → Bool)

/-- An item of the same name is in the list. -/
def Shows (list : List α) (item : α) : Prop := ∃ other ∈ list, name other = name item

/-- Whether a list shows an item can be seen by scanning it. -/
instance (list : List α) (item : α) : Decidable (Shows name list item) :=
  inferInstanceAs (Decidable (∃ other ∈ list, name other = name item))

/-- An item is put at the end, when it fits and is not shown yet. -/
def add (list : List α) (item : α) : List α :=
  if Shows name list item then list else if fits item then list ++ [item] else list

/-- Items are added in order. -/
def feed (list items : List α) : List α := items.foldl (add name fits) list

/-- Feeding one item first adds it. -/
theorem feed_cons (list : List α) (item : α) (rest : List α) :
    feed name fits list (item :: rest) = feed name fits (add name fits list item) rest := rfl

/-- Feeding one item last adds it to the rest. -/
theorem feed_concat (list items : List α) (item : α) :
    feed name fits list (items ++ [item]) = add name fits (feed name fits list items) item :=
  -- The last item is added to what the others made.
  List.foldl_append

variable {name fits} {list : List α} {item : α}

/-- An item that is shown changes nothing. -/
theorem add_of_shows (shows : Shows name list item) : add name fits list item = list :=
  -- An item that is shown is skipped.
  if_pos shows

/-- An item that is not shown is put at the end when it fits. -/
theorem add_of_new (fresh : ¬Shows name list item) (fitting : fits item = true) :
    add name fits list item = list ++ [item] := by
  -- Both tests are passed.
  rw [add, if_neg fresh, if_pos fitting]

/-- Adding an item adds that item or nothing. -/
theorem add_cases (list : List α) (item : α) :
    add name fits list item = list ∨
      ¬Shows name list item ∧ add name fits list item = list ++ [item] := by
  -- The three branches leave two outcomes.
  unfold add
  split
  · exact .inl rfl
  · rename_i fresh
    split
    · exact .inr ⟨fresh, rfl⟩
    · exact .inl rfl

/-- What is shown after adding an item: what was shown, and what has its name if it fits. -/
theorem shows_add_iff (list : List α) (item other : α) :
    Shows name (add name fits list item) other ↔
      Shows name list other ∨ fits item = true ∧ name item = name other := by
  -- An item that is shown already brings no new name.
  by_cases shows : Shows name list item
  · rw [add_of_shows shows]
    constructor
    · exact .inl
    · intro either
      rcases either with before | ⟨_, same⟩
      · exact before
      · obtain ⟨found, member, named⟩ := shows
        exact ⟨found, member, named.trans same⟩
  · rw [add, if_neg shows]
    by_cases fitting : fits item = true
    · simp [Shows, fitting, or_and_right, exists_or]
    · simp [fitting]

/-- Whatever a fed list holds was in the list or among the items. -/
theorem mem_feed {items : List α} {found : α} (member : found ∈ feed name fits list items) :
    found ∈ list ∨ found ∈ items := by
  -- The induction follows the items.
  induction items generalizing list with
  | nil => exact .inl member
  | cons item rest ih =>
    rcases ih member with before | later
    · rcases @add_cases _ _ _ name fits list item with kept | ⟨_, added⟩
      · exact .inl (kept ▸ before)
      · rw [added] at before
        rcases List.mem_append.mp before with old | new
        · exact .inl old
        · exact .inr (by simp [List.mem_singleton.mp new])
    · exact .inr (by simp [later])

/-- An item that was shown and is in the fed list was in the list itself. -/
theorem mem_of_mem_feed {items : List α} {found : α} (member : found ∈ feed name fits list items)
    (shows : Shows name list found) : found ∈ list := by
  -- The induction follows the items: what is shown is never put in again.
  induction items generalizing list with
  | nil => exact member
  | cons item rest ih =>
    have before := ih member ((shows_add_iff list item found).mpr (.inl shows))
    rcases @add_cases _ _ _ name fits list item with kept | ⟨fresh, added⟩
    · exact kept ▸ before
    · rw [added] at before
      rcases List.mem_append.mp before with old | new
      · exact old
      · exact absurd (List.mem_singleton.mp new ▸ shows) fresh

section Selecting

variable (kept : α → Bool)

/-- Adding an item that is not selected leaves the selection alone. -/
theorem filter_add_of_neg (skipped : ¬kept item = true) (list : List α) :
    (add name fits list item).filter kept = list.filter kept := by
  -- What may be added is what the filter drops.
  rcases @add_cases _ _ _ name fits list item with same | ⟨_, added⟩
  · rw [same]
  · rw [added, List.filter_append, List.filter_cons_of_neg skipped, List.filter_nil,
      List.append_nil]

/-- Feeding items that are shown, or are not selected, leaves the selection alone. -/
theorem filter_feed_of_shows {items : List α}
    (covered : ∀ item ∈ items, kept item = true → Shows name list item) :
    (feed name fits list items).filter kept = list.filter kept := by
  -- The induction follows the items, none of which the selection can gain.
  induction items generalizing list with
  | nil => rfl
  | cons item rest ih =>
    have later := @ih (add name fits list item) fun other member selected =>
      (shows_add_iff list item other).mpr (.inl (covered other (by simp [member]) selected))
    rw [feed_cons, later]
    by_cases selected : kept item = true
    · rw [add_of_shows (covered item (by simp) selected)]
    · exact filter_add_of_neg kept selected list

/--
Feeding two lists alike keeps them alike, as far as a selection goes.

They have to show the same of the selected items, and what else they hold does not matter.
-/
theorem filter_feed_congr {left right items : List α}
    (same : left.filter kept = right.filter kept)
    (alike : ∀ item ∈ items, kept item = true → (Shows name left item ↔ Shows name right item)) :
    (feed name fits left items).filter kept = (feed name fits right items).filter kept := by
  -- The induction follows the items: each is added to both lists, or cannot be selected.
  induction items generalizing left right with
  | nil => exact same
  | cons item rest ih =>
    rw [feed_cons, feed_cons]
    apply ih
    · by_cases selected : kept item = true
      · have both := alike item (by simp) selected
        by_cases shows : Shows name left item
        · rw [add_of_shows shows, add_of_shows (both.mp shows), same]
        · rw [add, add, if_neg shows, if_neg (mt both.mpr shows)]
          split
          · rw [List.filter_append, List.filter_append, same]
          · exact same
      · rw [filter_add_of_neg kept selected, filter_add_of_neg kept selected, same]
    · intro other member selected
      rw [shows_add_iff, shows_add_iff, alike other (by simp [member]) selected]

end Selecting

end Feed

end Foundation
