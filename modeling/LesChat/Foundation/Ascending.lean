import LesChat.Foundation.Selection

/-! Lists whose ranks ascend under every key, what is selected from them, and prefixes of them. -/

namespace Foundation

section Strict

variable {α : Type*} (rank : α → Nat)

/-- Lists that ascend strictly are the same when they have the same members. -/
theorem eq_of_ascends {left right : List α}
    (leftAscends : left.Pairwise fun earlier later => rank earlier < rank later)
    (rightAscends : right.Pairwise fun earlier later => rank earlier < rank later)
    (same : ∀ entry, entry ∈ left ↔ entry ∈ right) : left = right := by
  -- Neither list repeats an entry, so they can only differ in order.
  have once : ∀ {entries : List α},
      (entries.Pairwise fun earlier later => rank earlier < rank later) → entries.Nodup := by
    intro entries ascends
    apply ascends.imp
    intro earlier later below equal
    rw [equal] at below
    omega
  have rearranged := (List.perm_ext_iff_of_nodup (once leftAscends) (once rightAscends)).mpr same
  apply rearranged.eq_of_pairwise _ leftAscends rightAscends
  intro earlier later _ _ below above
  omega

/-- The entries of a strictly ascending list within a bound are its first ones. -/
theorem filter_le_eq_takeWhile {entries : List α}
    (ascends : entries.Pairwise fun earlier later => rank earlier < rank later) (bound : Nat) :
    (entries.filter fun entry => rank entry ≤ bound) =
      entries.takeWhile fun entry => rank entry ≤ bound := by
  -- The induction follows the list up to its first entry beyond the bound.
  induction entries with
  | nil => rfl
  | cons head rest ih =>
    obtain ⟨lowest, restAscends⟩ := List.pairwise_cons.mp ascends
    by_cases within : rank head ≤ bound
    · simp [within, ih restAscends]
    · have beyond : ∀ entry ∈ rest, ¬rank entry ≤ bound := by
        intro entry member
        have above := lowest entry member
        omega
      simpa [within] using beyond

end Strict

variable {α κ : Type*} (key : α → κ) (rank : α → Nat)

/-- The items of each key are listed by ascending rank. -/
def Ascending (items : List α) : Prop :=
  items.Pairwise fun earlier later => key earlier = key later → rank earlier < rank later

/-- Whether a list ascends can be computed. -/
instance [DecidableEq κ] (items : List α) : Decidable (Ascending key rank items) :=
  inferInstanceAs (Decidable (List.Pairwise _ _))

variable {key rank} {items : List α}

/-- A list without items ascends. -/
theorem ascending_nil : Ascending key rank [] := List.Pairwise.nil

/-- What is left of an ascending list ascends. -/
theorem Ascending.sublist {left : List α} (ascending : Ascending key rank items)
    (sublist : left.Sublist items) : Ascending key rank left :=
  -- The pairs of a part are pairs of the whole.
  List.Pairwise.sublist sublist ascending

/-- A list of at most one item ascends. -/
theorem ascending_of_length_le_one (few : items.length ≤ 1) : Ascending key rank items := by
  -- There are no two entries to compare.
  match items, few with
  | [], _ => exact ascending_nil
  | [item], _ => exact List.pairwise_singleton _ item

/-- Ascending items may follow each other when those that follow are higher. -/
theorem Ascending.append {later : List α} (ascending : Ascending key rank items)
    (follows : Ascending key rank later)
    (higher : ∀ early ∈ items, ∀ late ∈ later, key early = key late → rank early < rank late) :
    Ascending key rank (items ++ later) :=
  -- A pair is in one of the two parts, or has one entry in each.
  List.pairwise_append.mpr ⟨ascending, follows, higher⟩

/-- The items of one key are listed by strictly ascending rank. -/
theorem Ascending.ofKey [DecidableEq κ] (ascending : Ascending key rank items) (wanted : κ) :
    (items.filter fun item => key item = wanted).Pairwise
      fun earlier later => rank earlier < rank later := by
  have filtered : Ascending key rank (items.filter fun item => key item = wanted) :=
    ascending.sublist List.filter_sublist
  apply List.Pairwise.imp_of_mem _ filtered
  intro earlier later earlierMember laterMember ascends
  -- Both items have the wanted key.
  have earlierKey : key earlier = wanted := by simpa using (List.mem_filter.mp earlierMember).2
  have laterKey : key later = wanted := by simpa using (List.mem_filter.mp laterMember).2
  exact ascends (earlierKey.trans laterKey.symm)

/-- Of two items of one key, the lower one is listed first. -/
theorem Ascending.pair_sublist (ascending : Ascending key rank items) {late ahead : α}
    (lateMember : late ∈ items) (aheadMember : ahead ∈ items) (same : key late = key ahead)
    (lower : rank late < rank ahead) : [late, ahead].Sublist items := by
  -- The induction follows the list up to the first of the two.
  induction items with
  | nil => simp at lateMember
  | cons head rest ih =>
    obtain ⟨headLowest, restAscends⟩ := List.pairwise_cons.mp ascending
    rcases List.mem_cons.mp lateMember with isHead | lateRest
    · subst isHead
      rcases List.mem_cons.mp aheadMember with equal | aheadRest
      · rw [equal] at lower
        omega
      · exact (List.singleton_sublist.mpr aheadRest).cons_cons _
    · rcases List.mem_cons.mp aheadMember with isHead | aheadRest
      · subst isHead
        have above := headLowest late lateRest same.symm
        omega
      · exact (ih restAscends lateRest aheadRest).cons _

/-- No item of an ascending list is overtaken. -/
theorem Ascending.timely (ascending : Ascending key rank items) (limit : Nat) :
    Timely key rank limit items items :=
  -- Where the ranks ascend, the lower item comes first.
  fun _ isHeld _ member same lower => .inr (ascending.pair_sublist isHeld member same lower)

/--
Once the first items above some marks are logged, exactly the others are above the new marks.

The marks are the largest ranks of a log.
-/
theorem Ascending.filter_above_append [DecidableEq κ] (ascending : Ascending key rank items)
    (log : List α) (limit : Nat) :
    let outstanding := items.filter fun item => highWater key rank log (key item) < rank item
    (items.filter fun item =>
      highWater key rank (log ++ outstanding.take limit) (key item) < rank item) =
        outstanding.drop limit := by
  intro outstanding
  let uncovered := fun item =>
    decide (highWater key rank (log ++ outstanding.take limit) (key item) < rank item)
  have ascends : Ascending key rank outstanding := ascending.sublist List.filter_sublist
  have parts : outstanding.take limit ++ outstanding.drop limit = outstanding :=
    List.take_append_drop limit outstanding
  -- No mark sinks, so whatever is above the new marks was above the old ones.
  have narrowed : items.filter uncovered = outstanding.filter uncovered := by
    rw [List.filter_filter]
    apply List.filter_congr
    intro item _
    have raised : highWater key rank log (key item) ≤
        highWater key rank (log ++ outstanding.take limit) (key item) :=
      highWater_mono key rank (fun entry member => List.mem_append_left _ member) (key item)
    rw [Bool.eq_iff_iff]
    simp only [uncovered, decide_eq_true_eq, Bool.and_eq_true]
    omega
  have gone : (outstanding.take limit).filter uncovered = [] := by
    rw [List.filter_eq_nil_iff]
    intro item member
    have reached := le_highWater key rank (List.mem_append_right log member)
    simp only [uncovered, decide_eq_true_eq]
    omega
  have kept : (outstanding.drop limit).filter uncovered = outstanding.drop limit := by
    rw [List.filter_eq_self]
    intro item member
    have wasAbove : highWater key rank log (key item) < rank item :=
      of_decide_eq_true (List.mem_filter.mp (List.mem_of_mem_drop member)).2
    have bound : highWater key rank (log ++ outstanding.take limit) (key item) ≤ rank item - 1 := by
      rw [highWater_le_iff]
      intro entry logged same
      rcases List.mem_append.mp logged with old | taken
      · have below := le_highWater key rank old
        rw [same] at below
        omega
      · -- What was taken comes before what was left.
        rw [← parts] at ascends
        have lower := (List.pairwise_append.mp ascends).2.2 entry taken item member same
        omega
    apply decide_eq_true
    omega
  calc items.filter uncovered
      = outstanding.filter uncovered := narrowed
    _ = (outstanding.take limit ++ outstanding.drop limit).filter uncovered := by rw [parts]
    _ = outstanding.drop limit := by rw [List.filter_append, gone, kept, List.nil_append]

end Foundation
