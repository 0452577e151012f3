import LesChat.Foundation.Run

/-! Simulations: one run answered by another with its own steps, or by itself with some left out. -/

namespace Foundation

variable {σ α τ β : Type*}

/--
A relation that every guarded step keeps.

The other side answers a step by any number of its own guarded steps, possibly none.
-/
structure Simulates (step : σ → α → σ) (guard : σ → α → Prop) (otherStep : τ → β → τ)
    (otherGuard : τ → β → Prop) (related : σ → τ → Prop) : Prop where
  /-- Each step is answered. -/
  answered : ∀ {state other}, related state other → ∀ {action}, guard state action →
    ∃ answer, Guarded otherStep otherGuard other answer ∧
      related (step state action) (run otherStep other answer)

variable {step : σ → α → σ} {guard : σ → α → Prop} {otherStep : τ → β → τ}
  {otherGuard : τ → β → Prop} {related : σ → τ → Prop}

/-- A guarded run is answered by a guarded run. -/
theorem Simulates.run_answered (simulates : Simulates step guard otherStep otherGuard related)
    {start : σ} {other : τ} (initial : related start other) {actions : List α}
    (guarded : Guarded step guard start actions) :
    ∃ answers, Guarded otherStep otherGuard other answers ∧
      related (run step start actions) (run otherStep other answers) := by
  -- The induction follows the actions, appending the answer to each.
  induction actions generalizing start other with
  | nil => exact ⟨[], trivial, initial⟩
  | cons action rest ih =>
    obtain ⟨here, later⟩ := guarded
    obtain ⟨answer, answerGuarded, next⟩ := simulates.answered initial here
    obtain ⟨answers, answersGuarded, last⟩ := ih next later
    refine ⟨answer ++ answers, (guarded_append other _ _).mpr ⟨answerGuarded, answersGuarded⟩, ?_⟩
    rw [run_cons, run_append]
    exact last

/-- The answer to a run continues the answer to its beginning. -/
theorem Simulates.run_answered_append
    (simulates : Simulates step guard otherStep otherGuard related) {start : σ} {other : τ}
    (initial : related start other) {first second : List α}
    (guarded : Guarded step guard start (first ++ second)) :
    ∃ answers more, Guarded otherStep otherGuard other (answers ++ more) ∧
      related (run step start first) (run otherStep other answers) ∧
      related (run step start (first ++ second)) (run otherStep other (answers ++ more)) := by
  obtain ⟨beginning, rest⟩ := (guarded_append start first second).mp guarded
  obtain ⟨answers, answersGuarded, between⟩ := simulates.run_answered initial beginning
  -- The rest of the run is answered from where the answer to the beginning ended.
  obtain ⟨more, moreGuarded, last⟩ := simulates.run_answered between rest
  refine ⟨answers, more, (guarded_append other _ _).mpr ⟨answersGuarded, moreGuarded⟩, between, ?_⟩
  rw [run_append, run_append]
  exact last

section Purging

variable {γ : Type*}

/-- The actions of a run, each with what it puts out. -/
def trace (step : σ → α → σ) (output : σ → α → γ) : σ → List α → List (α × γ)
  | _, [] => []
  | state, action :: rest =>
    (action, output state action) :: trace step output (step state action) rest

/--
Actions that are hidden from a view of the state.

They leave the view as it is, and what the others do to the view, and put out, depends on it alone.
-/
structure Purges (step : σ → α → σ) (output : σ → α → γ) (view : σ → τ) (hidden : α → Bool) :
    Prop where
  /-- A hidden action leaves the view as it is. -/
  untouched : ∀ state action, hidden action = true → view (step state action) = view state
  /-- Other actions do the same to states that look the same. -/
  alike : ∀ left right action, view left = view right →
    view (step left action) = view (step right action) ∧ output left action = output right action

/-- Leaving out the hidden actions of a run changes neither its view nor what the others put out. -/
theorem Purges.run_filter {output : σ → α → γ} {view : σ → τ} {hidden : α → Bool}
    (purges : Purges step output view hidden) {left right : σ} (same : view left = view right)
    (actions : List α) :
    view (run step left actions) =
        view (run step right (actions.filter fun action => !hidden action)) ∧
      (trace step output left actions).filter (fun entry => !hidden entry.1) =
        trace step output right (actions.filter fun action => !hidden action) := by
  -- The induction follows the longer run, and the shorter one waits while an action is hidden.
  induction actions generalizing left right with
  | nil => exact ⟨same, rfl⟩
  | cons action rest ih =>
    cases unseen : hidden action with
    | true =>
      have still : view (step left action) = view right :=
        (purges.untouched left action unseen).trans same
      obtain ⟨views, outputs⟩ := ih still
      simp only [run_cons, trace, List.filter_cons, unseen, Bool.not_true, Bool.false_eq_true,
        if_false]
      exact ⟨views, outputs⟩
    | false =>
      obtain ⟨next, put⟩ := purges.alike left right action same
      obtain ⟨views, outputs⟩ := ih next
      simp only [trace, List.filter_cons, unseen, Bool.not_false, if_true, run_cons, put]
      exact ⟨views, congrArg _ outputs⟩

end Purging

end Foundation
