import LesChat.Store.Attempts

/-! What an `add` that throws leaves behind. -/

namespace LesChat

open Foundation

/-- An `add` that throws leaves the rows of both tables and the cache as they were. -/
def FailsCleanly (results : AddResults) (message : ChatMessage) (store : MessageStore) : Prop :=
  ∀ error, (add results message store).1 = .error error →
    (add results message store).2.database.messages.rows = store.database.messages.rows ∧
    (add results message store).2.database.sequences.entries = store.database.sequences.entries ∧
    (add results message store).2.messages = store.messages

/-- Pruning leaves the table alone only when there is nothing in it. -/
private theorem rows_prune_eq_iff (database : Database) :
    database.prune.messages.rows = database.messages.rows ↔ database.rows = [] := by
  -- Dropping a hundred rows shortens every table that has one.
  have kept : database.prune.messages.rows = database.messages.rows.drop 100 :=
    Table.rows_deleteOldest _ _
  rw [kept, Database.rows, Table.values, List.map_eq_nil_iff]
  constructor
  · intro same
    have lengths := congrArg List.length same
    rw [List.length_drop] at lengths
    exact List.length_eq_zero_iff.mp (by omega)
  · intro empty
    rw [empty, List.drop_nil]

/-- After pruning and throwing, the store is as it was exactly when it was empty throughout. -/
private theorem pruned_unchanged_iff {store : MessageStore} {loaded : List ChatMessage}
    (read : loaded <+: store.database.prune.rows) :
    (store.database.prune.messages.rows = store.database.messages.rows ∧
      store.database.prune.sequences.entries = store.database.sequences.entries ∧
      loaded = store.messages) ↔ store.database.rows = [] ∧ store.messages = [] := by
  rw [rows_prune_eq_iff]
  constructor
  · intro both
    obtain ⟨empty, _, rfl⟩ := both
    -- Nothing was left to be read back.
    rw [Database.rows_prune, empty, List.drop_nil] at read
    exact ⟨empty, List.prefix_nil.mp read⟩
  · intro both
    obtain ⟨empty, uncached⟩ := both
    rw [Database.rows_prune, empty, List.drop_nil] at read
    exact ⟨empty, rfl, (List.prefix_nil.mp read).trans uncached.symm⟩

/--
A failed `add` leaves the store as it was unless it fails after pruning.

The pruning is a transaction of its own, so nothing undoes it when the reload or the retry fails.
-/
theorem failsCleanly_iff (results : AddResults) (message : ChatMessage) (store : MessageStore) :
    FailsCleanly results message store ↔
      (results.first.outcome message store.database = .full → results.prune = .ok →
        (Reloads results.reload store.database.prune.rows ∧
          results.second.outcome message store.database.prune = .ok) ∨
        (store.database.rows = [] ∧ store.messages = [])) := by
  -- Each way to end either throws or not, and either pruned before that or not.
  have ended := add_ended results message store
  unfold FailsCleanly
  generalize add results message store = call at ended ⊢
  obtain ⟨result, after⟩ := call
  cases ended with
  | returned first => simp [first]
  | failed error first => simp [first]
  | unpruned error first prune => simp [prune]
  | unloaded error loaded first prune unread read =>
    simp only [first, prune, unread, forall_const, false_and, false_or, Except.error.injEq,
      forall_eq']
    exact pruned_unchanged_iff read
  | retried first prune read second =>
    simp only [second, read, and_self, true_or, implies_true, reduceCtorEq, false_implies]
  | refused error first prune read second =>
    simp only [first, prune, second, forall_const, and_false, false_or, Except.error.injEq,
      forall_eq']
    exact pruned_unchanged_iff (List.prefix_refl _)

/-- A full database whose retry fails has lost its rows. -/
theorem failsCleanly_lost :
    let message (sequence : Nat) : ChatMessage :=
      ⟨sequence, ascii "a:" ++ decimal sequence, ascii "a", ascii "Alice", defaultChannel, 0,
        ascii "hello"⟩
    ¬FailsCleanly { first := { insert := .full }, second := { insert := .error } } (message 2)
      (add {} (message 1) MessageStore.empty).2 := by
  -- The second attempt fails after the first one has pruned a row that stays lost.
  intro message clean
  have unchanged := clean (.runtimeError "Unable to store message: ") (by decide +kernel)
  exact absurd unchanged.2.2 (by decide +kernel)

end LesChat
