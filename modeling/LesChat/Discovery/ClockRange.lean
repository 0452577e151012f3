import LesChat.Discovery.Clock
import LesChat.Foundation.Bytes
import LesChat.Foundation.Keyed

/-! The clocks in signed 64-bit words, and which announced times keep every result within one. -/

namespace LesChat

open Foundation

/-! Signed operations that do not wrap. -/

/-- The result of a signed operation with a known exact result, absent when it overflows. -/
def signedResult (exact : Int) : Option Int64 :=
  if -2 ^ 63 ≤ exact ∧ exact < 2 ^ 63 then some (Int64.ofInt exact) else none

/-- `left + right`. -/
def checkedAdd (left right : Int64) : Option Int64 := signedResult (left.toInt + right.toInt)

/-- `left - right`. -/
def checkedSub (left right : Int64) : Option Int64 := signedResult (left.toInt - right.toInt)

/-- A result that is there is the exact one. -/
theorem signedResult_eq_some {exact : Int} {result : Int64} :
    signedResult exact = some result ↔ result.toInt = exact := by
  unfold signedResult
  constructor
  · intro computed
    split at computed
    · -- A result that is in range is the exact one.
      rename_i fits
      rw [← Option.some.inj computed, Int64.toInt_ofInt_of_le fits.1 fits.2]
    · simp at computed
  · intro same
    -- Every word is in range, so its own value is computed.
    have low := result.le_toInt
    have high := result.toInt_lt
    rw [if_pos (by omega), ← same, Int64.ofInt_toInt]

/-- A result is there when the exact one fits a word. -/
theorem exists_signedResult {exact : Int} (low : -2 ^ 63 ≤ exact) (high : exact < 2 ^ 63) :
    ∃ result, signedResult exact = some result ∧ result.toInt = exact :=
  -- The word of the integer stands for it, as it is in range.
  ⟨Int64.ofInt exact, if_pos ⟨low, high⟩, Int64.toInt_ofInt_of_le low high⟩

/-- A difference is there when it fits a word. -/
theorem exists_checkedSub {left right : Int64} (low : -2 ^ 63 ≤ left.toInt - right.toInt)
    (high : left.toInt - right.toInt < 2 ^ 63) :
    ∃ result, checkedSub left right = some result ∧ result.toInt = left.toInt - right.toInt :=
  -- Subtraction is computed as an integer, and put into a word after that.
  exists_signedResult low high

/-- The clocks of a node as it computes with them. -/
structure WordClock where
  /-- What the system clock reads. -/
  systemMs : Int64
  /-- The offset `time_offset_ms`. -/
  offsetMs : Int64
deriving DecidableEq

namespace WordClock

/-- `current_time_ms`, absent when the sum overflows. -/
def currentTimeMs (clock : WordClock) : Option Int64 := checkedAdd clock.systemMs clock.offsetMs

/-- `set_system_time_ms`. -/
def setSystemTimeMs (settable : Bool) (timestampMs : Int64) (clock : WordClock) :
    Bool × WordClock :=
  if timestampMs < 0 then (false, clock)
  else if !settable then (false, clock)
  else (true, ⟨timestampMs, 0⟩)

/-- `DiscoveryService::synchronize_time`, absent when a difference overflows. -/
def synchronizeTime (settable : Bool) (authorityTimeMs : Int64) (clock : WordClock) :
    Option WordClock :=
  if authorityTimeMs ≤ 0 then some clock
  else do
    let measuredOffset ← checkedSub authorityTimeMs clock.systemMs
    let offsetDelta ← checkedSub measuredOffset clock.offsetMs
    if -250 < offsetDelta ∧ offsetDelta < 250 then return clock
    match setSystemTimeMs settable authorityTimeMs clock with
    | (true, set) => return set
    | (false, unset) => return { unset with offsetMs := measuredOffset }

/-- The clocks as exact numbers. -/
def exact (monotonicMs : Int) (clock : WordClock) : Clock :=
  ⟨monotonicMs, clock.systemMs.toInt, clock.offsetMs.toInt⟩

/-- A current time that does not overflow is the exact one. -/
theorem currentTimeMs_exact (monotonicMs : Int) {clock : WordClock} {now : Int64} :
    clock.currentTimeMs = some now ↔
      now.toInt = LesChat.currentTimeMs (clock.exact monotonicMs) := signedResult_eq_some

/-- A time that is not positive is not looked at. -/
theorem synchronizeTime_of_nonpos {authorityTimeMs : Int64} (late : authorityTimeMs.toInt ≤ 0)
    (settable : Bool) (clock : WordClock) :
    clock.synchronizeTime settable authorityTimeMs = some clock :=
  -- Such a time is ignored at once.
  if_pos (Int64.le_iff_toInt_le.mpr late)

/-- What becomes of the clocks when neither difference overflows. -/
theorem synchronizeTime_of_differences {authorityTimeMs measuredOffset offsetDelta : Int64}
    {clock : WordClock} (positive : 0 < authorityTimeMs.toInt)
    (measured : checkedSub authorityTimeMs clock.systemMs = some measuredOffset)
    (difference : checkedSub measuredOffset clock.offsetMs = some offsetDelta) (settable : Bool) :
    clock.synchronizeTime settable authorityTimeMs =
      some (if -250 < offsetDelta.toInt ∧ offsetDelta.toInt < 250 then clock
        else if settable then ⟨authorityTimeMs, 0⟩ else ⟨clock.systemMs, measuredOffset⟩) := by
  -- The comparisons of words are comparisons of what they stand for.
  have announced : ¬authorityTimeMs ≤ 0 := by
    rw [Int64.le_iff_toInt_le]
    exact Int.not_le.mpr positive
  have nonnegative : ¬authorityTimeMs < 0 := by
    rw [Int64.lt_iff_toInt_lt]
    exact Int.not_lt.mpr positive.le
  have close : (-250 < offsetDelta ∧ offsetDelta < 250) ↔
      -250 < offsetDelta.toInt ∧ offsetDelta.toInt < 250 := by
    rw [Int64.lt_iff_toInt_lt, Int64.lt_iff_toInt_lt]
    rfl
  simp only [synchronizeTime, announced, if_false, measured, difference, Option.bind_eq_bind,
    Option.bind_some, close]
  -- Within the tolerance nothing is done, and beyond it one of two things.
  split
  · rfl
  · cases settable with
    | true => simp [setSystemTimeMs, nonnegative]
    | false => simp [setSystemTimeMs, nonnegative]

/-- Clocks that synchronize have computed both differences. -/
theorem exists_differences {settable : Bool} {authorityTimeMs : Int64} {clock next : WordClock}
    (positive : 0 < authorityTimeMs.toInt)
    (computed : clock.synchronizeTime settable authorityTimeMs = some next) :
    ∃ measuredOffset offsetDelta, checkedSub authorityTimeMs clock.systemMs = some measuredOffset ∧
      checkedSub measuredOffset clock.offsetMs = some offsetDelta := by
  -- The two subtractions come first, and the rest is computed from them.
  have announced : ¬authorityTimeMs ≤ 0 := by
    rw [Int64.le_iff_toInt_le]
    exact Int.not_le.mpr positive
  simp only [synchronizeTime, announced, if_false] at computed
  obtain ⟨measuredOffset, measured, rest⟩ := Option.bind_eq_some_iff.mp computed
  obtain ⟨offsetDelta, difference, _⟩ := Option.bind_eq_some_iff.mp rest
  exact ⟨measuredOffset, offsetDelta, measured, difference⟩

/-- Clocks that synchronize without an overflow do what the exact clocks do. -/
theorem synchronizeTime_exact (monotonicMs : Int) {settable : Bool} {authorityTimeMs : Int64}
    {clock next : WordClock}
    (computed : clock.synchronizeTime settable authorityTimeMs = some next) :
    LesChat.synchronizeTime settable authorityTimeMs.toInt (clock.exact monotonicMs) =
      next.exact monotonicMs := by
  by_cases positive : 0 < authorityTimeMs.toInt
  · obtain ⟨measuredOffset, offsetDelta, measured, difference⟩ :=
      exists_differences positive computed
    rw [synchronizeTime_of_differences positive measured difference, Option.some.injEq] at computed
    have measuredExact := signedResult_eq_some.mp measured
    have differenceExact := signedResult_eq_some.mp difference
    -- Both test the same difference against the tolerance.
    by_cases close : -250 < offsetDelta.toInt ∧ offsetDelta.toInt < 250
    · rw [if_pos close] at computed
      rw [← computed]
      refine synchronizeTime_of_not_differs (fun differs => differs.2 ?_) settable
      simp only [LesChat.currentTimeMs, exact]
      omega
    · rw [if_neg close] at computed
      have differs : (clock.exact monotonicMs).Differs authorityTimeMs.toInt := by
        refine ⟨positive, fun near => close ?_⟩
        simp only [LesChat.currentTimeMs, exact] at near
        omega
      rw [synchronizeTime_of_differs differs, ← computed]
      cases settable with
      | true => rfl
      | false => simp [exact, measuredExact]
  · -- A time that is not positive changes neither clock.
    rw [synchronizeTime_of_nonpos (Int.not_lt.mp positive), Option.some.injEq] at computed
    rw [← computed]
    exact synchronizeTime_of_not_differs (fun differs => positive differs.1) settable

/-- Clocks synchronized with a time that leaves room above it read that time, but for 250 ms. -/
theorem exists_currentTimeMs {settable : Bool} {authorityTimeMs : Int64} {clock next : WordClock}
    (positive : 0 < authorityTimeMs.toInt) (room : authorityTimeMs.toInt + 250 < 2 ^ 63)
    (computed : clock.synchronizeTime settable authorityTimeMs = some next) :
    ∃ now, next.currentTimeMs = some now ∧ (now.toInt - authorityTimeMs.toInt).natAbs < 250 := by
  -- The exact clock is near the authority, so the sum fits the word.
  have near : (LesChat.currentTimeMs (next.exact 0) - authorityTimeMs.toInt).natAbs < 250 := by
    rw [← synchronizeTime_exact 0 computed]
    by_cases differs : (clock.exact 0).Differs authorityTimeMs.toInt
    · rw [currentTimeMs_synchronizeTime differs]
      omega
    · rw [synchronizeTime_of_not_differs differs]
      simp only [Clock.Differs, not_and] at differs
      have close := differs positive
      omega
  obtain ⟨now, _, same⟩ := exists_signedResult
    (show -2 ^ 63 ≤ LesChat.currentTimeMs (next.exact 0) by omega)
    (show LesChat.currentTimeMs (next.exact 0) < 2 ^ 63 by omega)
  exact ⟨now, (currentTimeMs_exact 0).mpr same, by rwa [same]⟩

/-- The clocks when the system clock reads something else. -/
def reads (readingMs : Int64) (clock : WordClock) : WordClock :=
  { clock with systemMs := readingMs }

end WordClock

/-! Runs of announcements and queries. -/

/-- The clocks of a node, and what it notes of its peers with them. -/
structure Listener where
  /-- The clocks. -/
  clock : WordClock
  /-- The `last_seen_ms` of each peer, under its identifier. -/
  lastSeen : List (Bytes × Int64)

/-- A node that has heard nothing yet. -/
def Listener.initial : Listener := ⟨⟨0, 0⟩, []⟩

/-- One thing a node does with its clocks, and what the system clock reads each time. -/
inductive ClockAction where
  /-- An announcement is received, perhaps with the time of an authority the node follows. -/
  | announced (nodeId : Bytes) (authorityTimeMs : Option Int64) (settable : Bool)
    (synchronizedMs stampedMs : Int64)
  /-- The current time is asked for. -/
  | read (readingMs : Int64)
  /-- The active peers are asked for. -/
  | queried (readingMs : Int64)

/-- Noting when a peer was seen, by clocks that may just have been synchronized. -/
def stampPeer (nodeId : Bytes) (stampedMs : Int64) (listener : Listener) (clock : WordClock) :
    Option Listener := do
  let clock := clock.reads stampedMs
  let lastSeenMs ← clock.currentTimeMs
  return ⟨clock, Keyed.upsert listener.lastSeen nodeId lastSeenMs⟩

/-- The node after one action, absent when an operation of it overflows. -/
def clockStep (listener : Listener) : ClockAction → Option Listener
  | .announced nodeId authorityTimeMs settable synchronizedMs stampedMs => do
    let heard := listener.clock.reads synchronizedMs
    let clock ← match authorityTimeMs with
      | some authorityTimeMs => heard.synchronizeTime settable authorityTimeMs
      | none => some heard
    -- The system clock goes on until the peer is stamped.
    stampPeer nodeId stampedMs listener clock
  | .read readingMs => do
    let clock := listener.clock.reads readingMs
    let _ ← clock.currentTimeMs
    return { listener with clock }
  | .queried readingMs => do
    let clock := listener.clock.reads readingMs
    let nowMs ← clock.currentTimeMs
    -- The age of every peer is computed, whether it is active or not.
    let _ ← listener.lastSeen.mapM fun entry => checkedSub nowMs entry.2
    return { listener with clock }

/-- After a positive time of an authority, the current time is less than 250 ms away from it. -/
def SynchronizesExactly (listener : Listener) : ClockAction → Prop
  | .announced _ (some authorityTimeMs) settable synchronizedMs _ =>
    0 < authorityTimeMs.toInt → ∃ clock now,
      (listener.clock.reads synchronizedMs).synchronizeTime settable authorityTimeMs = some clock ∧
        clock.currentTimeMs = some now ∧ (now.toInt - authorityTimeMs.toInt).natAbs < 250
  | _ => True

/-- Every action of a run synchronizes exactly, and no operation of it overflows. -/
def ClocksSafe : Listener → List ClockAction → Prop
  | _, [] => True
  | listener, action :: rest => SynchronizesExactly listener action ∧
    ∃ next, clockStep listener action = some next ∧ ClocksSafe next rest

/-- The last millisecond of the year 9999. -/
def lastReadingMs : Int := 253402300799999

/-- A reading from 1970 to the year 9999. -/
def Credible (readingMs : Int64) : Prop := 0 ≤ readingMs.toInt ∧ readingMs.toInt ≤ lastReadingMs

/-- Whether a reading is credible can be computed. -/
instance (readingMs : Int64) : Decidable (Credible readingMs) :=
  inferInstanceAs (Decidable (_ ∧ _))

/-- The system clock reads something credible whenever the action looks at it. -/
def ClockAction.Credible : ClockAction → Prop
  | .announced _ _ _ synchronizedMs stampedMs =>
    LesChat.Credible synchronizedMs ∧ LesChat.Credible stampedMs
  | .read readingMs => LesChat.Credible readingMs
  | .queried readingMs => LesChat.Credible readingMs

/-- The time the action announces, if it announces one, is at most a bound. -/
def ClockAction.AnnouncesAtMost (boundMs : Int) : ClockAction → Prop
  | .announced _ (some authorityTimeMs) _ _ _ => authorityTimeMs.toInt ≤ boundMs
  | _ => True

/-- A bound may be raised. -/
theorem ClockAction.AnnouncesAtMost.mono {low high : Int} {action : ClockAction}
    (announced : action.AnnouncesAtMost low) (raised : low ≤ high) :
    action.AnnouncesAtMost high := by
  -- Only an announced time is bounded.
  cases action with
  | announced nodeId authorityTimeMs settable synchronizedMs stampedMs =>
    cases authorityTimeMs with
    | none => trivial
    | some authorityTimeMs => exact le_trans announced raised
  | read readingMs => trivial
  | queried readingMs => trivial

/-- The largest announced time that is safe: two credible readings below the end of a word. -/
def safeTimeMs : Int := 2 ^ 63 - 2 * lastReadingMs

/-- Offsets and notes of a node that was announced no time beyond a bound. -/
structure Listener.InRange (boundMs : Int) (listener : Listener) : Prop where
  /-- The offset is a difference of such a time and a reading. -/
  offset : 1 - lastReadingMs ≤ listener.clock.offsetMs.toInt ∧
    listener.clock.offsetMs.toInt ≤ boundMs
  /-- A note is a sum of such an offset and a reading. -/
  lastSeen : ∀ entry ∈ listener.lastSeen, 1 - lastReadingMs ≤ entry.2.toInt ∧
    entry.2.toInt ≤ boundMs + lastReadingMs

section Range

variable {boundMs : Int}

/-- A current time is there, and is the sum of a reading and an offset. -/
theorem exists_currentTimeMs_reads (safe : boundMs ≤ safeTimeMs) {clock : WordClock}
    (low : 1 - lastReadingMs ≤ clock.offsetMs.toInt) (high : clock.offsetMs.toInt ≤ boundMs)
    {readingMs : Int64} (credible : Credible readingMs) :
    ∃ now, (clock.reads readingMs).currentTimeMs = some now ∧
      1 - lastReadingMs ≤ now.toInt ∧ now.toInt ≤ boundMs + lastReadingMs := by
  -- Reading and offset are both bounded, and so is their sum.
  obtain ⟨early, late⟩ := credible
  simp only [safeTimeMs, lastReadingMs] at *
  obtain ⟨now, sum, same⟩ := exists_signedResult
    (show -2 ^ 63 ≤ readingMs.toInt + clock.offsetMs.toInt by omega)
    (show readingMs.toInt + clock.offsetMs.toInt < 2 ^ 63 by omega)
  exact ⟨now, sum, by omega, by omega⟩

/-- Clocks in range synchronize with a safe time, and stay in range. -/
theorem exists_synchronizeTime (safe : boundMs ≤ safeTimeMs) (nonnegative : 0 ≤ boundMs)
    {clock : WordClock} (low : 1 - lastReadingMs ≤ clock.offsetMs.toInt)
    (high : clock.offsetMs.toInt ≤ boundMs) {readingMs authorityTimeMs : Int64}
    (credible : Credible readingMs) (announced : authorityTimeMs.toInt ≤ boundMs)
    (settable : Bool) :
    ∃ next, (clock.reads readingMs).synchronizeTime settable authorityTimeMs = some next ∧
      1 - lastReadingMs ≤ next.offsetMs.toInt ∧ next.offsetMs.toInt ≤ boundMs := by
  obtain ⟨early, late⟩ := credible
  simp only [safeTimeMs, lastReadingMs] at *
  by_cases positive : 0 < authorityTimeMs.toInt
  · -- Neither of the two differences leaves the word.
    obtain ⟨measuredOffset, measured, measuredExact⟩ :=
      @exists_checkedSub authorityTimeMs (clock.reads readingMs).systemMs
        (by simp only [WordClock.reads]; omega) (by simp only [WordClock.reads]; omega)
    simp only [WordClock.reads] at measuredExact
    obtain ⟨offsetDelta, difference, _⟩ :=
      @exists_checkedSub measuredOffset (clock.reads readingMs).offsetMs
        (by simp only [WordClock.reads]; omega) (by simp only [WordClock.reads]; omega)
    have unset : 1 - 253402300799999 ≤ measuredOffset.toInt ∧ measuredOffset.toInt ≤ boundMs := by
      omega
    refine ⟨_, WordClock.synchronizeTime_of_differences positive measured difference settable, ?_⟩
    split
    · exact ⟨low, high⟩
    · split
      · -- A clock that could be set has no offset any more.
        have zero : (0 : Int64).toInt = 0 := rfl
        simp only [zero]
        omega
      · exact unset
  · exact ⟨_, WordClock.synchronizeTime_of_nonpos (Int.not_lt.mp positive) settable _, low, high⟩

/-- Ages of notes in range can be computed. -/
theorem exists_ages (safe : boundMs ≤ safeTimeMs) {now : Int64}
    (low : 1 - lastReadingMs ≤ now.toInt) (high : now.toInt ≤ boundMs + lastReadingMs)
    {lastSeen : List (Bytes × Int64)} (noted : ∀ entry ∈ lastSeen,
      1 - lastReadingMs ≤ entry.2.toInt ∧ entry.2.toInt ≤ boundMs + lastReadingMs) :
    ∃ ages, (lastSeen.mapM fun entry => checkedSub now entry.2) = some ages := by
  -- The induction follows the peers, whose stamps are bounded as the present is.
  induction lastSeen with
  | nil => exact ⟨[], rfl⟩
  | cons entry rest ih =>
    obtain ⟨here, later⟩ := List.forall_mem_cons.mp noted
    obtain ⟨ages, computed⟩ := ih later
    simp only [safeTimeMs, lastReadingMs] at *
    obtain ⟨age, difference, _⟩ := @exists_checkedSub now entry.2 (by omega) (by omega)
    exact ⟨age :: ages, by simp [List.mapM_cons, difference, computed]⟩

/-- A peer is stamped by clocks in range, and the notes stay in range. -/
theorem exists_stampPeer (safe : boundMs ≤ safeTimeMs) {listener : Listener}
    (inRange : listener.InRange boundMs) {clock : WordClock}
    (low : 1 - lastReadingMs ≤ clock.offsetMs.toInt) (high : clock.offsetMs.toInt ≤ boundMs)
    {stampedMs : Int64} (credible : Credible stampedMs) (nodeId : Bytes) :
    ∃ next, stampPeer nodeId stampedMs listener clock = some next ∧ next.InRange boundMs := by
  -- The new stamp is bounded, and the old ones were.
  obtain ⟨now, sum, nowLow, nowHigh⟩ := exists_currentTimeMs_reads safe low high credible
  refine ⟨⟨clock.reads stampedMs, Keyed.upsert listener.lastSeen nodeId now⟩,
    by simp [stampPeer, sum], ⟨⟨low, high⟩, ?_⟩⟩
  intro entry member
  rcases Keyed.mem_of_mem_upsert member with new | old
  · rw [new]
    exact ⟨nowLow, nowHigh⟩
  · exact inRange.lastSeen entry old

/-- An action within the bound overflows nowhere, synchronizes exactly, and stays in range. -/
theorem clockStep_inRange (safe : boundMs ≤ safeTimeMs) (nonnegative : 0 ≤ boundMs)
    {listener : Listener} (inRange : listener.InRange boundMs) {action : ClockAction}
    (credible : action.Credible) (announced : action.AnnouncesAtMost boundMs) :
    SynchronizesExactly listener action ∧
      ∃ next, clockStep listener action = some next ∧ next.InRange boundMs := by
  -- Stamps and offset stay within the bound, whatever is done.
  obtain ⟨low, high⟩ := inRange.offset
  cases action with
  | announced nodeId authorityTimeMs settable synchronizedMs stampedMs =>
    obtain ⟨synchronizedCredible, stampedCredible⟩ := credible
    cases authorityTimeMs with
    | none => exact ⟨trivial, exists_stampPeer safe inRange low high stampedCredible nodeId⟩
    | some authorityTimeMs =>
      obtain ⟨clock, computed, clockLow, clockHigh⟩ := exists_synchronizeTime safe nonnegative low
        high synchronizedCredible announced settable
      constructor
      · intro positive
        -- The bound leaves more than the tolerance below the end of the range.
        have room : authorityTimeMs.toInt + 250 < 2 ^ 63 := by
          simp only [ClockAction.AnnouncesAtMost, safeTimeMs, lastReadingMs] at announced safe
          omega
        obtain ⟨now, read, near⟩ := WordClock.exists_currentTimeMs positive room computed
        exact ⟨clock, now, computed, read, near⟩
      · obtain ⟨next, stamped, kept⟩ :=
          exists_stampPeer safe inRange clockLow clockHigh stampedCredible nodeId
        exact ⟨next, by simp [clockStep, computed, stamped], kept⟩
  | read readingMs =>
    obtain ⟨now, sum, _, _⟩ := exists_currentTimeMs_reads safe low high credible
    exact ⟨trivial, ⟨listener.clock.reads readingMs, listener.lastSeen⟩,
      by simp [clockStep, sum], inRange.offset, inRange.lastSeen⟩
  | queried readingMs =>
    obtain ⟨now, sum, nowLow, nowHigh⟩ := exists_currentTimeMs_reads safe low high credible
    obtain ⟨ages, computed⟩ := exists_ages safe nowLow nowHigh inRange.lastSeen
    exact ⟨trivial, ⟨listener.clock.reads readingMs, listener.lastSeen⟩,
      by simp [clockStep, sum, computed], inRange.offset, inRange.lastSeen⟩

/-- A run within the bound is safe. -/
theorem clocksSafe_of_inRange (safe : boundMs ≤ safeTimeMs) (nonnegative : 0 ≤ boundMs)
    {actions : List ClockAction}
    (within : ∀ action ∈ actions, action.Credible ∧ action.AnnouncesAtMost boundMs)
    {listener : Listener} (inRange : listener.InRange boundMs) : ClocksSafe listener actions := by
  -- The induction follows the run, which stays in range.
  induction actions generalizing listener with
  | nil => trivial
  | cons action rest ih =>
    obtain ⟨⟨credible, announced⟩, later⟩ := List.forall_mem_cons.mp within
    obtain ⟨synchronizes, next, computed, kept⟩ :=
      clockStep_inRange safe nonnegative inRange credible announced
    exact ⟨synchronizes, next, computed, ih later kept⟩

end Range

/-- A safe run can be taken to its end. -/
theorem ClocksSafe.completes {listener : Listener} {actions : List ClockAction}
    (safe : ClocksSafe listener actions) :
    (actions.foldlM clockStep listener).isSome = true := by
  -- The induction follows the actions, each of which computes.
  induction actions generalizing listener with
  | nil => rfl
  | cons action rest ih =>
    obtain ⟨_, next, computed, later⟩ := safe
    rw [List.foldlM_cons, computed]
    exact ih later

/--
Every run with announced times up to a bound is safe, if and only if the bound is.

The system clock may read anything up to the year 9999 each time, and may or may not be settable.
-/
theorem clocksSafe_iff (boundMs : Int) :
    (∀ actions : List ClockAction,
        (∀ action ∈ actions, action.Credible ∧ action.AnnouncesAtMost boundMs) →
          ClocksSafe .initial actions) ↔
      boundMs ≤ safeTimeMs := by
  constructor
  · -- One millisecond more, and the age of a peer that was stamped behind zero overflows.
    intro allSafe
    by_contra beyond
    let beyondMs : Int64 := Int64.ofInt (safeTimeMs + 1)
    let lastMs : Int64 := Int64.ofInt lastReadingMs
    have announced : beyondMs.toInt ≤ boundMs := by
      have same : beyondMs.toInt = safeTimeMs + 1 := by decide
      omega
    have one : (1 : Int64).toInt ≤ boundMs := by
      have small : (1 : Int64).toInt ≤ safeTimeMs := by decide
      omega
    have first : Credible 0 := by decide
    have last : Credible lastMs := by decide
    have safe := allSafe [.announced (ascii "a") (some 1) false lastMs 0,
      .announced (ascii "b") (some beyondMs) false 0 0, .queried lastMs] (by
        intro action member
        simp only [List.mem_cons, List.not_mem_nil, or_false] at member
        rcases member with rfl | rfl | rfl
        · exact ⟨⟨last, first⟩, one⟩
        · exact ⟨⟨first, first⟩, announced⟩
        · exact ⟨last, trivial⟩)
    exact absurd safe.completes (by decide +kernel)
  · intro safe actions within
    -- The offset of a node that has heard nothing is zero, which the bound may be below.
    have raised : max boundMs 0 ≤ safeTimeMs := max_le safe (by decide)
    have started : Listener.initial.InRange (max boundMs 0) :=
      ⟨⟨by decide, le_max_right boundMs 0⟩, by simp [Listener.initial]⟩
    refine clocksSafe_of_inRange raised (le_max_right boundMs 0) ?_ started
    intro action member
    obtain ⟨credible, announced⟩ := within action member
    exact ⟨credible, announced.mono (le_max_left boundMs 0)⟩

/-- The last time a word can hold overflows the current time one millisecond later. -/
theorem clocksSafe_overflow :
    let actions : List ClockAction :=
      [.announced (ascii "a") (some 9223372036854775807) false 1700000000000 1700000000000,
        .read 1700000000001]
    (∀ action ∈ actions, action.Credible) ∧ ¬ClocksSafe .initial actions := by
  -- The offset reaches the end of the range, one millisecond later the sum passes it.
  intro actions
  refine ⟨?_, fun safe => absurd safe.completes (by decide +kernel)⟩
  intro action member
  simp only [actions, List.mem_cons, List.not_mem_nil, or_false] at member
  rcases member with rfl | rfl
  · exact ⟨by decide, by decide⟩
  · exact (by decide : Credible 1700000000001)

end LesChat
