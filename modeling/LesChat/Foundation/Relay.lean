import LesChat.Foundation.Run
import Mathlib.Data.Set.Basic

/-! What parties know, relayed from one to another by the steps of a run. -/

namespace Foundation

variable {σ ε ι α : Type*}

/-- A chain of steps, in the order of a run, leads from one party to another. -/
inductive Relays (passes : ε → ι → ι → Prop) : List ε → ι → ι → Prop where
  /-- A party reaches itself without a step. -/
  | stay (party : ι) : Relays passes [] party party
  /-- A step need not be used. -/
  | skip (event : ε) {rest : List ε} {first last : ι} (relays : Relays passes rest first last) :
    Relays passes (event :: rest) first last
  /-- A step passes on from one party to the next. -/
  | pass {event : ε} {rest : List ε} {first next last : ι} (passed : passes event first next)
    (relays : Relays passes rest next last) : Relays passes (event :: rest) first last

/-- A party reaches itself through any steps. -/
theorem Relays.refl {passes : ε → ι → ι → Prop} (events : List ε) (party : ι) :
    Relays passes events party party := by
  -- The induction follows the events, none of which is needed.
  induction events with
  | nil => exact .stay party
  | cons event rest ih => exact .skip event ih

/-- Chains through one part of a run and then through another make a chain. -/
theorem Relays.append {passes : ε → ι → ι → Prop} {early late : List ε} {first middle last : ι}
    (before : Relays passes early first middle) (after : Relays passes late middle last) :
    Relays passes (early ++ late) first last := by
  -- The induction follows the first chain, whose end is where the second one begins.
  induction before with
  | stay party => exact after
  | skip event _ ih => exact .skip event (ih after)
  | pass passed _ ih => exact .pass passed (ih after)

/--
Steps under which knowledge only grows and is passed on.

A step may teach any party anything, but what a step passes from one party to another has to be
everything the one knew.
-/
structure Relaying (step : σ → ε → σ) (guard : σ → ε → Prop) (invariant : σ → Prop)
    (knows : σ → ι → Set α) (passes : ε → ι → ι → Prop) : Prop where
  /-- Every guarded step keeps the invariant. -/
  keeps : ∀ state event, invariant state → guard state event → invariant (step state event)
  /-- No party forgets. -/
  grows : ∀ state event, invariant state → guard state event →
    ∀ party, knows state party ⊆ knows (step state event) party
  /-- What is passed on is known to the receiver afterwards. -/
  reaches : ∀ state event first next, invariant state → guard state event →
    passes event first next → knows state first ⊆ knows (step state event) next

variable {step : σ → ε → σ} {guard : σ → ε → Prop} {invariant : σ → Prop}
  {knows : σ → ι → Set α} {passes : ε → ι → ι → Prop}

/-- What a party knows reaches everyone a chain of steps leads to. -/
theorem Relaying.subset (relaying : Relaying step guard invariant knows passes) {events : List ε}
    {start : σ} (guarded : Guarded step guard start events) (initial : invariant start)
    {first last : ι} (relays : Relays passes events first last) :
    knows start first ⊆ knows (run step start events) last := by
  -- The induction follows the chain: a step is used or passes by.
  induction relays generalizing start with
  | stay party => exact subset_rfl
  | skip event _ ih =>
    obtain ⟨here, later⟩ := guarded
    exact (relaying.grows start event initial here _).trans
      (ih later (relaying.keeps start event initial here))
  | pass passed _ ih =>
    obtain ⟨here, later⟩ := guarded
    exact (relaying.reaches start _ _ _ initial here passed).trans
      (ih later (relaying.keeps start _ initial here))

/--
A run whose steps are answered so that what they pass on is passed on is answered as a whole.

The chains of steps of the one run become chains of steps of the other.
-/
theorem run_answered_relays {τ β : Type*} {otherStep : τ → β → τ} {otherGuard : τ → β → Prop}
    {otherPasses : β → ι → ι → Prop} {related : σ → τ → Prop}
    (answered : ∀ {state other}, related state other → ∀ {event}, guard state event →
      ∃ answer, Guarded otherStep otherGuard other answer ∧
        related (step state event) (run otherStep other answer) ∧
        ∀ first next, passes event first next → Relays otherPasses answer first next)
    {events : List ε} {start : σ} {other : τ} (initial : related start other)
    (guarded : Guarded step guard start events) :
    ∃ answers, Guarded otherStep otherGuard other answers ∧
      related (run step start events) (run otherStep other answers) ∧
      ∀ first last, Relays passes events first last → Relays otherPasses answers first last := by
  -- The induction follows the run, appending the answer to each step.
  induction events generalizing start other with
  | nil =>
    refine ⟨[], trivial, initial, ?_⟩
    intro first last relays
    cases relays
    exact .stay first
  | cons event rest ih =>
    obtain ⟨here, later⟩ := guarded
    obtain ⟨answer, answerGuarded, next, passed⟩ := answered initial here
    obtain ⟨answers, answersGuarded, last, relayed⟩ := ih next later
    refine ⟨answer ++ answers, (guarded_append other _ _).mpr ⟨answerGuarded, answersGuarded⟩, ?_,
      ?_⟩
    · rw [run_cons, run_append]
      exact last
    · intro first final relays
      cases relays with
      | skip _ later => exact (Relays.refl answer first).append (relayed _ _ later)
      | pass hop later => exact (passed _ _ hop).append (relayed _ _ later)

end Foundation
