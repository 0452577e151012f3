import LesChat.Store.StoreRuns

/-! Which numbers `next_sequence` offers, whatever its read ends with. -/

namespace LesChat

open Foundation

/-- A number that is offered is above every sequence ever committed for the origin. -/
def OffersUnused (result : SqliteResult) (origin : Bytes) (database : Database) : Prop :=
  ∀ next, nextSequence result origin database = .ok next →
    ∀ message ∈ database.committed, message.origin = origin → message.sequence < next

/-- Every call of a store keeps its tables in agreement with the history. -/
theorem storeStep_consistent (store : MessageStore) (call : StoreCall)
    (consistent : store.database.Consistent) : (storeStep store call).database.Consistent := by
  cases call with
  | add results message => exact (add_added results message store).consistent consistent
  | contains result messageId => exact consistent
  | nextSequence result origin => exact consistent
  | sequenceSummary => exact consistent
  | reopen reload =>
    -- Reopening reads the file and writes nothing to it.
    unfold storeStep openStore
    cases loading : loadMessages reload store.database.rows with
    | mk outcome loaded =>
      cases outcome with
      | ok done => simpa only [loading] using consistent
      | error error => simpa only [loading] using consistent

/-- The tables agree with the history in every state a run reaches from a new file. -/
theorem run_consistent (calls : List StoreCall) :
    (run storeStep MessageStore.empty calls).database.Consistent :=
  -- Every call keeps a database consistent.
  run_invariant storeStep_consistent calls Database.consistent_empty

/-- A failing read offers the first number, whatever the origin's mark is. -/
theorem nextSequence_of_failure {result : SqliteResult} (failing : result ≠ .ok) (origin : Bytes)
    (database : Database) : nextSequence result origin database = .ok 1 := by
  -- A read that fails in either way counts as an origin without a mark.
  cases result with
  | ok => exact absurd rfl failing
  | full => rfl
  | error => rfl

/-- A read that succeeds offers no used number. -/
theorem Database.Consistent.offersUnused {database : Database} (consistent : database.Consistent)
    (origin : Bytes) : OffersUnused .ok origin database := by
  intro next returned message member named
  -- The next number is one past the mark, and the mark bounds the history.
  subst named
  have bounded := consistent.le_mark member
  have above := (nextSequence_eq returned).1
  omega

/--
In every state a run reaches, the number offered is unused exactly when the read succeeds or the
origin has committed nothing above zero.

A failing read is taken for an origin without a mark.
-/
theorem offersUnused_iff (calls : List StoreCall) (origin : Bytes) (result : SqliteResult) :
    OffersUnused result origin (run storeStep MessageStore.empty calls).database ↔
      result = .ok ∨
        ∀ message ∈ (run storeStep MessageStore.empty calls).database.committed,
          message.origin = origin → message.sequence = 0 := by
  -- A number is offered from the mark, and the read of the mark can fail.
  have consistent := run_consistent calls
  generalize (run storeStep MessageStore.empty calls).database = database at consistent ⊢
  by_cases read : result = .ok
  · subst read
    exact iff_of_true (consistent.offersUnused origin) (.inl rfl)
  · -- Only zero is below the number a failing read offers.
    have offered := nextSequence_of_failure read origin database
    constructor
    · intro unused
      refine .inr fun message member named => ?_
      have below := unused 1 offered message member named
      omega
    · intro either next returned message member named
      rcases either with done | unmarked
      · exact absurd done read
      · rw [offered, Except.ok.injEq] at returned
        have zero := unmarked message member named
        omega

/-- A busy database makes a node start again at its first number. -/
theorem offersUnused_busy :
    ¬OffersUnused .error (ascii "a") (run storeStep MessageStore.empty
      [.add {} ⟨1, ascii "a:1", ascii "a", ascii "Alice", defaultChannel, 0, ascii "hello"⟩]).database := by
  -- The number one is offered again, and the row that has it is still there.
  intro unused
  have below := unused 1 (by decide +kernel)
    ⟨1, ascii "a:1", ascii "a", ascii "Alice", defaultChannel, 0, ascii "hello"⟩ (by decide +kernel)
    rfl
  exact absurd below (by decide)

end LesChat
