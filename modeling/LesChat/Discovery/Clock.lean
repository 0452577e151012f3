import Mathlib.Algebra.Order.Ring.Int

/-! The clocks of a node: real time, the system clock, and the offset kept on top of it. -/

namespace LesChat

/-- The clocks a node reads, in milliseconds. -/
structure Clock where
  /-- The real time that has passed, which nothing adjusts. -/
  monotonicMs : Int
  /-- The system clock. -/
  systemMs : Int
  /-- The offset `time_offset_ms`. -/
  offsetMs : Int
deriving DecidableEq

/-- `system_time_ms`. -/
def systemTimeMs (clock : Clock) : Int := clock.systemMs

/-- `current_time_ms`: the system clock with the offset. -/
def currentTimeMs (clock : Clock) : Int := clock.systemMs + clock.offsetMs

/-- `set_time_offset_ms`. -/
def setTimeOffsetMs (offsetMs : Int) (clock : Clock) : Clock := { clock with offsetMs }

/-- `set_system_time_ms`: whether the clock was set, given whether the system lets it be. -/
def setSystemTimeMs (settable : Bool) (timestampMs : Int) (clock : Clock) : Bool × Clock :=
  if timestampMs < 0 then (false, clock)
  else if !settable then (false, clock)
  -- The new time includes what the offset was for.
  else (true, setTimeOffsetMs 0 { clock with systemMs := timestampMs })

/-- `DiscoveryService::synchronize_time`. -/
def synchronizeTime (settable : Bool) (authorityTimeMs : Int) (clock : Clock) : Clock :=
  if authorityTimeMs ≤ 0 then clock
  else
    let measuredOffset := authorityTimeMs - systemTimeMs clock
    let offsetDelta := measuredOffset - clock.offsetMs
    if -250 < offsetDelta ∧ offsetDelta < 250 then clock
    else
      match setSystemTimeMs settable authorityTimeMs clock with
      | (true, set) => set
      | (false, unset) => setTimeOffsetMs measuredOffset unset

/-- Real time passing, which the system clock follows. -/
def Clock.elapse (elapsedMs : Nat) (clock : Clock) : Clock :=
  { clock with
    monotonicMs := clock.monotonicMs + elapsedMs
    systemMs := clock.systemMs + elapsedMs }

/-- How far the clock that nodes compare by is ahead of real time. -/
def Clock.lead (clock : Clock) : Int := currentTimeMs clock - clock.monotonicMs

/-- How the system clock and the offset are set, whatever time has passed. -/
def Clock.setting (clock : Clock) : Int × Int :=
  (systemTimeMs clock - clock.monotonicMs, clock.offsetMs)

/-- An authority's time is taken over when it is positive and a quarter of a second off. -/
def Clock.Differs (clock : Clock) (authorityTimeMs : Int) : Prop :=
  0 < authorityTimeMs ∧ ¬(-250 < authorityTimeMs - currentTimeMs clock ∧
    authorityTimeMs - currentTimeMs clock < 250)

/-- Whether a time differs can be computed. -/
instance (clock : Clock) (authorityTimeMs : Int) : Decidable (clock.Differs authorityTimeMs) :=
  inferInstanceAs (Decidable (_ ∧ _))

/-- A time that does not differ leaves the clocks alone. -/
theorem synchronizeTime_of_not_differs {clock : Clock} {authorityTimeMs : Int}
    (close : ¬clock.Differs authorityTimeMs) (settable : Bool) :
    synchronizeTime settable authorityTimeMs clock = clock := by
  -- Both early returns leave the clocks as they are.
  unfold synchronizeTime
  by_cases late : authorityTimeMs ≤ 0
  · exact if_pos late
  · -- The difference is the one between the authority's time and the current one.
    rw [if_neg late]
    apply if_pos
    simp only [Clock.Differs, currentTimeMs, not_and] at close
    have within := close (by omega)
    simp only [systemTimeMs]
    omega

/-- A time that differs becomes the current time. -/
theorem synchronizeTime_of_differs {clock : Clock} {authorityTimeMs : Int}
    (differs : clock.Differs authorityTimeMs) (settable : Bool) :
    synchronizeTime settable authorityTimeMs clock =
      if settable then ⟨clock.monotonicMs, authorityTimeMs, 0⟩
      else ⟨clock.monotonicMs, clock.systemMs, authorityTimeMs - clock.systemMs⟩ := by
  -- Past the early returns, the clock is set or the offset is.
  obtain ⟨positive, apart⟩ := differs
  unfold synchronizeTime
  rw [if_neg (Int.not_le.mpr positive), if_neg]
  · -- A positive time is never refused for its sign.
    unfold setSystemTimeMs
    rw [if_neg (by omega)]
    cases settable with
    | true => rfl
    | false => rfl
  · simp only [currentTimeMs] at apart
    simp only [systemTimeMs]
    omega

/-- Synchronizing takes no real time. -/
@[simp] theorem synchronizeTime_monotonicMs (settable : Bool) (authorityTimeMs : Int)
    (clock : Clock) :
    (synchronizeTime settable authorityTimeMs clock).monotonicMs = clock.monotonicMs := by
  -- Setting the system clock or the offset leaves the steady clock running.
  by_cases differs : clock.Differs authorityTimeMs
  · rw [synchronizeTime_of_differs differs]
    cases settable with
    | true => rfl
    | false => rfl
  · rw [synchronizeTime_of_not_differs differs]

/-- A time that differs moves the current time onto it. -/
theorem currentTimeMs_synchronizeTime {clock : Clock} {authorityTimeMs : Int}
    (differs : clock.Differs authorityTimeMs) (settable : Bool) :
    currentTimeMs (synchronizeTime settable authorityTimeMs clock) = authorityTimeMs := by
  -- Either the system clock or the offset makes up the difference.
  rw [synchronizeTime_of_differs differs]
  cases settable with
  | true => simp [currentTimeMs]
  | false =>
    simp only [currentTimeMs, Bool.false_eq_true, if_false]
    omega

/-- The clocks are set anew exactly when the authority's time differs. -/
theorem setting_synchronizeTime_iff (settable : Bool) (authorityTimeMs : Int) (clock : Clock) :
    (synchronizeTime settable authorityTimeMs clock).setting ≠ clock.setting ↔
      clock.Differs authorityTimeMs := by
  by_cases differs : clock.Differs authorityTimeMs
  · refine iff_of_true (fun same => ?_) differs
    -- Without a change, the current time would still be away from the authority's.
    have reading := currentTimeMs_synchronizeTime differs settable
    have elapsed := synchronizeTime_monotonicMs settable authorityTimeMs clock
    simp only [Clock.setting, systemTimeMs, Prod.mk.injEq] at same
    obtain ⟨_, apart⟩ := differs
    simp only [currentTimeMs] at reading apart
    omega
  · refine iff_of_false (fun moved => moved ?_) differs
    rw [synchronizeTime_of_not_differs differs]

/-- Time passing sets no clock. -/
@[simp] theorem Clock.setting_elapse (elapsedMs : Nat) (clock : Clock) :
    (clock.elapse elapsedMs).setting = clock.setting := by
  -- Time moves both clocks on, so neither the offset nor the lead changes.
  simp only [Clock.setting, systemTimeMs, Clock.elapse, Prod.mk.injEq, and_true]
  omega

end LesChat
