import Mathlib.Data.List.Sort
import Mathlib.Order.Defs.LinearOrder

/-! Sorting by a key, and why a key that identifies its values leaves one sorted order only. -/

namespace Foundation

variable {α κ : Type*} [LinearOrder κ] (key : α → κ)

/-- A stable sort by a key. -/
def sortBy (values : List α) : List α :=
  values.mergeSort fun left right => decide (key left ≤ key right)

/-- Sorting rearranges. -/
theorem sortBy_perm (values : List α) : (sortBy key values).Perm values :=
  -- Merge sort only rearranges.
  List.mergeSort_perm values _

/-- Sorted values have their keys in order. -/
theorem sortBy_ordered (values : List α) :
    (sortBy key values).Pairwise fun left right => key left ≤ key right := by
  -- The keys are compared by a total order.
  have transitive : ∀ left middle right, decide (key left ≤ key middle) = true →
      decide (key middle ≤ key right) = true → decide (key left ≤ key right) = true := by
    intro left middle right first second
    simp only [decide_eq_true_eq] at first second ⊢
    exact le_trans first second
  have total : ∀ left right,
      (decide (key left ≤ key right) || decide (key right ≤ key left)) = true := by
    intro left right
    simp only [Bool.or_eq_true, decide_eq_true_eq]
    exact le_total _ _
  exact (List.pairwise_mergeSort transitive total values).imp fun le => of_decide_eq_true le

/-- Of two values in an ordered list, the one with the smaller key comes first. -/
theorem pair_sublist_of_ordered {ordered : List α}
    (increasing : ordered.Pairwise fun left right => key left ≤ key right) {small large : α}
    (smallMember : small ∈ ordered) (largeMember : large ∈ ordered)
    (less : key small < key large) : [small, large].Sublist ordered := by
  -- The induction follows the list up to the first of the two.
  induction ordered with
  | nil => simp at smallMember
  | cons head rest ih =>
    obtain ⟨least, later⟩ := List.pairwise_cons.mp increasing
    rcases List.mem_cons.mp smallMember with isHead | smallRest
    · subst isHead
      have largeRest := (List.mem_cons.mp largeMember).resolve_left fun same =>
        absurd less (by rw [same]; exact lt_irrefl _)
      exact (List.singleton_sublist.mpr largeRest).cons_cons _
    · have largeRest := (List.mem_cons.mp largeMember).resolve_left fun same =>
        absurd less (by rw [same]; exact not_lt_of_ge (least small smallRest))
      exact (ih later smallRest largeRest).cons _

/-- Values in the order of their keys are sorted, when no two of them share a key. -/
theorem sortBy_eq_of_ordered {values ordered : List α} (rearranged : ordered.Perm values)
    (increasing : ordered.Pairwise fun left right => key left ≤ key right)
    (identifies : ∀ first ∈ values, ∀ second ∈ values, key first = key second → first = second) :
    sortBy key values = ordered := by
  -- Both are orderings of the same values, and the order is antisymmetric on them.
  have same : (sortBy key values).Perm ordered := (sortBy_perm key values).trans rearranged.symm
  refine same.eq_of_pairwise ?_ (sortBy_ordered key values) increasing
  intro first second firstMember secondMember forward backward
  exact identifies first ((sortBy_perm key values).mem_iff.mp firstMember) second
    (rearranged.mem_iff.mp secondMember) (le_antisymm forward backward)

/-- Rearranged values sort alike when no two of them share a key. -/
theorem sortBy_eq_of_perm {left right : List α} (rearranged : left.Perm right)
    (identifies : ∀ first ∈ left, ∀ second ∈ left, key first = key second → first = second) :
    sortBy key left = sortBy key right := by
  -- The sort of one list is an ordering of the other.
  apply sortBy_eq_of_ordered key
  · exact (sortBy_perm key right).trans rearranged.symm
  · exact sortBy_ordered key right
  · exact identifies

/-- Inserting a value before the first one with a larger key. -/
def insertBy (value : α) : List α → List α
  | [] => [value]
  | other :: rest =>
    if key value < key other then value :: other :: rest else other :: insertBy value rest

/-- Inserting adds the value. -/
theorem insertBy_perm (value : α) (values : List α) :
    (insertBy key value values).Perm (value :: values) := by
  -- The induction is on the values that are passed over.
  induction values with
  | nil => exact List.Perm.refl _
  | cons other rest ih =>
    rw [insertBy]
    split
    · exact List.Perm.refl _
    · exact (ih.cons other).trans (List.Perm.swap value other rest)

/-- Inserting into ordered values keeps them ordered. -/
theorem insertBy_ordered (value : α) {values : List α}
    (increasing : values.Pairwise fun left right => key left ≤ key right) :
    (insertBy key value values).Pairwise fun left right => key left ≤ key right := by
  -- The induction follows the list, up to the place of the value.
  induction values with
  | nil => exact List.pairwise_singleton _ _
  | cons other rest ih =>
    obtain ⟨least, later⟩ := List.pairwise_cons.mp increasing
    rw [insertBy]
    split
    · rename_i before
      refine List.pairwise_cons.mpr ⟨?_, increasing⟩
      intro next member
      rcases List.mem_cons.mp member with same | inRest
      · rw [same]
        exact le_of_lt before
      · exact le_trans (le_of_lt before) (least next inRest)
    · rename_i after
      refine List.pairwise_cons.mpr ⟨?_, ih later⟩
      intro next member
      rcases List.mem_cons.mp ((insertBy_perm key value rest).mem_iff.mp member) with same | inRest
      · rw [same]
        exact not_lt.mp after
      · exact least next inRest

/-- Inserting into the sorted list sorts the value among the others, when no two share a key. -/
theorem insertBy_sortBy (value : α) (values : List α)
    (identifies : ∀ first ∈ value :: values, ∀ second ∈ value :: values,
      key first = key second → first = second) :
    insertBy key value (sortBy key values) = sortBy key (value :: values) := by
  -- Both lists have the same members in order, and the key tells members apart.
  refine (sortBy_eq_of_ordered key ?_ ?_ identifies).symm
  · exact (insertBy_perm key value _).trans ((sortBy_perm key values).cons value)
  · exact insertBy_ordered key value (sortBy_ordered key values)

end Foundation
