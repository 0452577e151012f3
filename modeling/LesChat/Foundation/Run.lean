import Mathlib.Logic.Basic
import Mathlib.Tactic.TypeStar

/-! Runs of a labelled step function, and the rules that carry facts about one step to whole runs. -/

namespace Foundation

variable {σ α : Type*}

/-- The state a run of actions ends in. -/
def run (step : σ → α → σ) (start : σ) (actions : List α) : σ :=
  -- Actions are taken in order, each in the state the one before it left.
  actions.foldl step start

/-- Every action of a run meets its guard in the state the action is taken in. -/
def Guarded (step : σ → α → σ) (guard : σ → α → Prop) : σ → List α → Prop
  -- A run without actions meets every guard.
  | _, [] => True
  | state, action :: rest => guard state action ∧ Guarded step guard (step state action) rest

/-- A guard that can be evaluated can be evaluated along a run. -/
instance decidableGuarded (step : σ → α → σ) (guard : σ → α → Prop)
    [∀ state action, Decidable (guard state action)] :
    ∀ state actions, Decidable (Guarded step guard state actions)
  | _, [] => isTrue trivial
  | state, action :: rest =>
    have := decidableGuarded step guard (step state action) rest
    inferInstanceAs (Decidable (_ ∧ _))

/-- A run without actions stays where it started. -/
@[simp] theorem run_nil (step : σ → α → σ) (start : σ) : run step start [] = start := rfl

/-- A run takes its first action and continues from there. -/
@[simp] theorem run_cons (step : σ → α → σ) (start : σ) (action : α) (rest : List α) :
    run step start (action :: rest) = run step (step start action) rest := rfl

/-- A run over two lists of actions continues the second from where the first ended. -/
theorem run_append (step : σ → α → σ) (start : σ) (first second : List α) :
    run step start (first ++ second) = run step (run step start first) second :=
  -- Folding over a concatenation is folding twice.
  List.foldl_append

/-- A fact that every step keeps holds in every state a run reaches. -/
theorem run_invariant {step : σ → α → σ} {invariant : σ → Prop}
    (keeps : ∀ state action, invariant state → invariant (step state action))
    (actions : List α) {start : σ} (initial : invariant start) :
    invariant (run step start actions) := by
  -- The induction follows the actions, carrying the invariant from state to state.
  induction actions generalizing start with
  | nil => exact initial
  | cons action rest ih => exact ih (keeps start action initial)

/-- A fact that every guarded step keeps holds in every state a guarded run reaches. -/
theorem guarded_invariant {step : σ → α → σ} {guard : σ → α → Prop} {invariant : σ → Prop}
    (keeps : ∀ state action, invariant state → guard state action → invariant (step state action))
    {actions : List α} {start : σ} (guarded : Guarded step guard start actions)
    (initial : invariant start) : invariant (run step start actions) := by
  -- Each action is taken under its guard, so the step rule applies to it.
  induction actions generalizing start with
  | nil => exact initial
  | cons action rest ih =>
    obtain ⟨here, later⟩ := guarded
    exact ih later (keeps start action initial here)

/-- A run over two lists is guarded exactly when both parts are. -/
theorem guarded_append {step : σ → α → σ} {guard : σ → α → Prop} (start : σ)
    (first second : List α) :
    Guarded step guard start (first ++ second) ↔
      Guarded step guard start first ∧ Guarded step guard (run step start first) second := by
  -- The second part is judged from the state the first part leaves.
  induction first generalizing start with
  | nil => simp [Guarded]
  | cons action rest ih => simp [Guarded, ih, and_assoc]

/-- Every earlier point of a guarded run is the end of a guarded run. -/
theorem Guarded.take {step : σ → α → σ} {guard : σ → α → Prop} {start : σ} {actions : List α}
    (guarded : Guarded step guard start actions) (count : Nat) :
    Guarded step guard start (actions.take count) := by
  -- Splitting the run at that point leaves its first part guarded.
  have parts : Guarded step guard start (actions.take count ++ actions.drop count) := by
    rwa [List.take_append_drop]
  exact ((guarded_append start _ _).mp parts).1

/--
A quantity that drops at every step until it is zero reaches zero in time.

The number of steps is bounded by the value it starts from.
-/
theorem exists_le_measure_zero (measure : Nat → Nat)
    (drops : ∀ step, measure step ≠ 0 → measure (step + 1) < measure step) :
    ∃ step, step ≤ measure 0 ∧ measure step = 0 := by
  -- The induction is on the starting value, shifting the sequence by one step each time.
  generalize starting : measure 0 = value
  induction value using Nat.strongRecOn generalizing measure with
  | ind value ih =>
    by_cases zero : value = 0
    · exact ⟨0, by omega, by omega⟩
    · have less := drops 0 (by omega)
      obtain ⟨step, bounded, reached⟩ := ih (measure 1) (by simpa [starting] using less)
        (fun step => measure (step + 1)) (fun step => drops (step + 1)) rfl
      have first : measure 1 < measure 0 := less
      exact ⟨step + 1, by omega, reached⟩

end Foundation
