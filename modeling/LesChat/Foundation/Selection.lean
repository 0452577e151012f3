import LesChat.Foundation.Journal
import LesChat.Foundation.Sorting

/-! The first items above the marks of their keys, and when such a selection leaves no gap. -/

namespace Foundation

section Taking

variable {α : Type*} {items : List α} {limit : Nat}

/-- An item among the first is among the first that pass a test, when it passes it. -/
theorem mem_take_filter {test : α → Bool} {item : α} (member : item ∈ items.take limit)
    (passes : test item = true) : item ∈ (items.filter test).take limit := by
  -- The induction follows the items: one that fails the test only makes room.
  induction items generalizing limit with
  | nil => simp at member
  | cons head rest ih =>
    cases limit with
    | zero => simp at member
    | succ limit =>
      rcases List.mem_cons.mp member with same | later
      · subst same
        simp [passes]
      · have kept := ih later
        by_cases tested : test head = true
        · rw [List.filter_cons_of_pos tested, List.take_succ_cons]
          exact List.mem_cons_of_mem _ kept
        · rw [List.filter_cons_of_neg tested]
          exact (List.take_subset_take_left _ (Nat.le_succ limit)) kept

/-- What comes before one of the first items is among them. -/
theorem mem_take_of_pair (distinct : items.Nodup) {early late : α}
    (pair : [early, late].Sublist items) (member : late ∈ items.take limit) :
    early ∈ items.take limit := by
  induction items generalizing limit with
  | nil => simp at member
  | cons head rest ih =>
    obtain ⟨absent, others⟩ := List.nodup_cons.mp distinct
    cases limit with
    | zero => simp at member
    | succ limit =>
      rw [List.take_succ_cons] at member ⊢
      cases pair with
      | cons_cons _ _ => exact List.mem_cons_self
      | cons _ behind =>
        -- The later one is not the head, which occurs once only.
        have inRest : late ∈ rest := behind.subset (by simp)
        rcases List.mem_cons.mp member with same | later
        · exact absurd (same ▸ inRest) absent
        · exact List.mem_cons_of_mem _ (ih others behind later)

end Taking

variable {α κ : Type*} (key : α → κ) (rank : α → Nat)

/-- The first items whose ranks are above the marks of their keys. -/
def above (marks : κ → Nat) (limit : Nat) (items : List α) : List α :=
  (items.filter fun item => marks (key item) < rank item).take limit

/-- With an item, a selection has every item held of the same key between the mark and its rank. -/
def GapFree (held : List α) (marks : κ → Nat) (selected : List α) : Prop :=
  ∀ ahead ∈ selected, ∀ late ∈ held, key late = key ahead → rank late < rank ahead →
    marks (key late) < rank late → late ∈ selected

/--
No item is overtaken where it matters.

What is held below an item of the same key is listed before it, or is among the first.
-/
def Timely (limit : Nat) (items held : List α) : Prop :=
  ∀ late ∈ held, ∀ ahead ∈ items, key late = key ahead → rank late < rank ahead →
    late ∈ items.take limit ∨ [late, ahead].Sublist items

/-- Selections of timely items leave no gap, whatever the marks. -/
theorem gapFree_of_timely {limit : Nat} {items held : List α} (distinct : items.Nodup)
    (timely : Timely key rank limit items held) (marks : κ → Nat) :
    GapFree key rank held marks (above key rank marks limit items) := by
  -- Either the late item is among the first anyway, or it comes before the one ahead.
  intro ahead selected late isHeld same lower outstanding
  have chosen := List.mem_filter.mp (List.mem_of_mem_take selected)
  rcases timely late isHeld ahead chosen.1 same lower with front | before
  · exact mem_take_filter front (decide_eq_true outstanding)
  · -- The filter keeps the order of the two.
    have pair : [late, ahead].Sublist
        (items.filter fun item => decide (marks (key item) < rank item)) := by
      have both : [late, ahead].filter (fun item => decide (marks (key item) < rank item)) =
          [late, ahead] := by
        rw [List.filter_eq_self]
        intro item member
        rcases List.mem_pair.mp member with rfl | rfl
        · exact decide_eq_true outstanding
        · exact chosen.2
      rw [← both]
      exact before.filter _
    exact mem_take_of_pair (distinct.filter _) pair selected

variable [DecidableEq κ]

/-- Marks can be chosen to leave any number of items above them. -/
theorem exists_covered {items : List α}
    (identified : (items.map fun item => (key item, rank item)).Nodup)
    (positive : ∀ item ∈ items, 0 < rank item) {count : Nat} (within : count ≤ items.length) :
    ∃ covered : List α, (∀ entry ∈ covered, entry ∈ items) ∧
      (items.filter fun item =>
        highWater key rank covered (key item) < rank item).length = count := by
  -- The items of the lowest ranks are covered, and those of higher ranks stay above them.
  let sorted := sortBy rank items
  let split := items.length - count
  have rearranged := sortBy_perm rank items
  have parts : sorted.take split ++ sorted.drop split = sorted := List.take_append_drop split sorted
  have distinct : (sorted.map fun item => (key item, rank item)).Nodup :=
    (rearranged.map _).nodup_iff.mpr identified
  have ordered := sortBy_ordered rank items
  rw [show sortBy rank items = _ from parts.symm] at ordered
  rw [← parts, List.map_append] at distinct
  have low : (sorted.take split).filter (fun item =>
      highWater key rank (sorted.take split) (key item) < rank item) = [] := by
    rw [List.filter_eq_nil_iff]
    intro item member
    have reached := le_highWater key rank member
    simp only [decide_eq_true_eq]
    omega
  have high : (sorted.drop split).filter (fun item =>
      highWater key rank (sorted.take split) (key item) < rank item) = sorted.drop split := by
    rw [List.filter_eq_self]
    intro item member
    have least := positive item (rearranged.mem_iff.mp (List.mem_of_mem_drop member))
    have below : highWater key rank (sorted.take split) (key item) ≤ rank item - 1 := by
      rw [highWater_le_iff]
      intro entry covered same
      have lower := (List.pairwise_append.mp ordered).2.2 entry covered item member
      -- Two items of one key have different ranks.
      have different : rank entry ≠ rank item := by
        intro equal
        exact (List.nodup_append.mp distinct).2.2 _ (List.mem_map_of_mem covered) _
          (List.mem_map_of_mem member) (by rw [same, equal])
      omega
    simp only [decide_eq_true_eq]
    omega
  refine ⟨sorted.take split,
    fun entry member => rearranged.mem_iff.mp (List.mem_of_mem_take member), ?_⟩
  rw [← (rearranged.filter _).length_eq, show sortBy rank items = _ from parts.symm,
    List.filter_append, low, high, List.nil_append, List.length_drop, rearranged.length_eq]
  omega

/--
Overtaken items split at the first one ahead.

Whatever is listed before that one and has the same key is below.
-/
theorem exists_first_ahead {items held : List α}
    (identified : (held.map fun item => (key item, rank item)).Nodup)
    (listed : items.Sublist held) {late ahead : α} (isHeld : late ∈ held) (member : ahead ∈ items)
    (same : key late = key ahead) (lower : rank late < rank ahead)
    (unordered : ¬[late, ahead].Sublist items) :
    ∃ before first after, items = before ++ first :: after ∧
      key late = key first ∧ rank late < rank first ∧ late ∉ before ∧
      ∀ item ∈ before, key item = key late → rank item < rank late := by
  cases found : items.find? fun item => decide (key late = key item ∧ rank late < rank item) with
  | none =>
    have none := List.find?_eq_none.mp found ahead member
    exact absurd (decide_eq_true ⟨same, lower⟩) none
  | some first =>
    obtain ⟨isAhead, before, after, split, earlier⟩ := List.find?_eq_some_iff_append.mp found
    obtain ⟨firstKey, firstRank⟩ := of_decide_eq_true isAhead
    have notEarlier : ∀ item ∈ before, ¬(key late = key item ∧ rank late < rank item) := by
      intro item inFront
      simpa only [Bool.not_eq_true', decide_eq_false_iff_not] using earlier item inFront
    have absent : late ∉ before := by
      intro inFront
      have inBack : ahead ∈ first :: after := by
        rw [split] at member
        exact (List.mem_append.mp member).resolve_left fun wrong =>
          notEarlier ahead wrong ⟨same, lower⟩
      apply unordered
      rw [split]
      exact (List.singleton_sublist.mpr inFront).append (List.singleton_sublist.mpr inBack)
    refine ⟨before, first, after, split, firstKey, firstRank, absent, ?_⟩
    -- An item of the same rank would be the late one itself.
    intro item inFront sameKey
    have inHeld : item ∈ held := listed.subset (by rw [split]; simp [inFront])
    have different : rank item ≠ rank late := by
      intro equal
      have equalItems := List.inj_on_of_nodup_map identified inHeld isHeld (by rw [sameKey, equal])
      exact absent (equalItems ▸ inFront)
    by_contra notLower
    exact notEarlier item inFront ⟨sameKey.symm, by omega⟩

/-- Where no selection leaves a gap, the items are timely. -/
theorem timely_of_gapFree {limit : Nat} {items held : List α} (room : 0 < limit)
    (identified : (held.map fun item => (key item, rank item)).Nodup)
    (listed : items.Sublist held) (positive : ∀ item ∈ held, 0 < rank item)
    (gapFree : ∀ covered : List α, (∀ entry ∈ covered, entry ∈ items) →
      GapFree key rank held (highWater key rank covered)
        (above key rank (highWater key rank covered) limit items)) :
    Timely key rank limit items held := by
  -- Were an item overtaken, marks could be chosen under which the selection leaves it out.
  intro late isHeld ahead member same lower
  by_contra overtaken
  obtain ⟨behind, unordered⟩ := not_or.mp overtaken
  obtain ⟨before, first, after, split, firstKey, firstRank, absent, earlierLower⟩ :=
    exists_first_ahead key rank identified listed isHeld member same lower unordered
  have lowest := positive late isHeld
  rcases Nat.lt_or_ge before.length limit with early | full
  · -- With nothing covered, the first items are selected.
    have all : above key rank (highWater key rank []) limit items = items.take limit := by
      rw [above, List.filter_eq_self.mpr]
      intro item inItems
      exact decide_eq_true (positive item (listed.subset inItems))
    have selected : first ∈ items.take limit := by
      rw [split, List.take_append]
      obtain ⟨spare, room⟩ := Nat.exists_eq_add_of_lt early
      rw [show limit - before.length = spare + 1 by omega, List.take_succ_cons]
      simp
    have inFront := gapFree [] (by simp) first (all ▸ selected) late isHeld firstKey firstRank
      lowest
    exact behind (all ▸ inFront)
  · -- Enough is covered that the first item ahead is the last one selected.
    have sublist : before.Sublist held :=
      (split ▸ List.sublist_append_left before (first :: after)).trans listed
    obtain ⟨covered, inBefore, count⟩ := exists_covered key rank
      (identified.sublist (sublist.map _))
      (fun item inFront => positive item (sublist.subset inFront))
      (show limit - 1 ≤ before.length by omega)
    have lateMark : highWater key rank covered (key late) < rank late := by
      have bound : highWater key rank covered (key late) ≤ rank late - 1 := by
        rw [highWater_le_iff]
        intro entry isCovered sameKey
        have := earlierLower entry (inBefore entry isCovered) sameKey
        omega
      omega
    have firstMark : highWater key rank covered (key first) < rank first := by
      rw [← firstKey]
      omega
    let uncovered := fun item => decide (highWater key rank covered (key item) < rank item)
    let front := before.filter uncovered
    have size : front.length = limit - 1 := count
    have selection : above key rank (highWater key rank covered) limit items =
        front ++ [first] := by
      show (items.filter uncovered).take limit = front ++ [first]
      have isUncovered : uncovered first = true := decide_eq_true firstMark
      rw [split, List.filter_append, List.filter_cons_of_pos isUncovered, List.take_append,
        List.take_of_length_le (show front.length ≤ limit by omega)]
      rw [show limit - front.length = 0 + 1 by omega, List.take_succ_cons, List.take_zero]
    have inFront := gapFree covered (fun entry isCovered => by
      rw [split]
      exact List.mem_append_left _ (inBefore entry isCovered)) first (by rw [selection]; simp)
      late isHeld firstKey firstRank lateMark
    rw [selection] at inFront
    rcases List.mem_append.mp inFront with wrong | wrong
    · exact absent (List.mem_of_mem_filter wrong)
    · rw [List.mem_singleton.mp wrong] at firstRank
      omega

end Foundation
