import LesChat.Foundation.Run
import LesChat.Store.Consistency

/-! Whole runs of the message store: cache, tables and history stay in step through every failure. -/

namespace LesChat

open Foundation

/-- One call on a message store, with the outcome of every SQLite call it makes. -/
inductive StoreCall where
  /-- `add`. -/
  | add (results : AddResults) (message : ChatMessage)
  /-- `contains`. -/
  | contains (result : SqliteResult) (messageId : Bytes)
  /-- `next_sequence`. -/
  | nextSequence (result : SqliteResult) (origin : Bytes)
  /-- `sequence_summary`. -/
  | sequenceSummary
  /-- Closing the database and constructing a store on it again. -/
  | reopen (reload : Option Nat)

/-- The store after one call, whether the call returned or threw. -/
def storeStep (store : MessageStore) : StoreCall → MessageStore
  | .add results message => (add results message store).2
  -- The three reads change nothing.
  | .contains _ _ => store
  | .nextSequence _ _ => store
  | .sequenceSummary => store
  | .reopen reload =>
    match openStore reload store.database with
    | .ok reopened => reopened
    | .error _ => store

/-- Messages have positive sequences, and the row reads of `load_messages` succeed. -/
def StoreCall.Permitted : StoreCall → Prop
  | .add results message => 1 ≤ message.sequence ∧ results.reload = none
  | .reopen reload => reload = none
  | _ => True

/-- Permissions can be checked. -/
instance : DecidablePred StoreCall.Permitted
  | .add results message =>
    inferInstanceAs (Decidable (1 ≤ message.sequence ∧ results.reload = none))
  | .reopen reload => inferInstanceAs (Decidable (reload = none))
  | .contains _ _ => isTrue trivial
  | .nextSequence _ _ => isTrue trivial
  | .sequenceSummary => isTrue trivial

/-- The representation invariant of a store whose reads succeed. -/
structure MessageStore.Represented (store : MessageStore) : Prop where
  /-- The cache holds the rows. -/
  cached : store.messages = store.database.rows
  /-- The tables agree with the history. -/
  consistent : store.database.Consistent
  /-- Sequences start at one. -/
  positive : ∀ message ∈ store.database.committed, 1 ≤ message.sequence

/-- A store on a new file is represented. -/
theorem MessageStore.represented_empty : MessageStore.empty.Represented where
  -- There are no rows, and nothing is cached.
  cached := rfl
  consistent := Database.consistent_empty
  positive := by simp [MessageStore.empty, Database.empty]

/-- Every row of a represented store has a positive sequence. -/
theorem MessageStore.Represented.positive_rows {store : MessageStore}
    (represented : store.Represented) : ∀ row ∈ store.database.rows, 1 ≤ row.sequence :=
  -- Every row was committed, and only positive sequences are.
  fun row member => represented.positive row (represented.consistent.committed_of_mem member)

/-- Reopening a represented store gives the same store. -/
theorem MessageStore.Represented.openStore_eq {store : MessageStore}
    (represented : store.Represented) : openStore none store.database = .ok store := by
  -- The load reads back all the rows, and those are what the cache held.
  rw [openStore, loadMessages_none represented.positive_rows, ← represented.cached]

/-- A base of an insert is represented when the store it came from is. -/
theorem Base.represented {store base : MessageStore} (cleared : Base store base)
    (represented : store.Represented) : base.Represented := by
  -- The attempt began where it was, or after pruning and reading the rows again.
  rcases cleared with rfl | rfl
  · exact represented
  · exact ⟨rfl, represented.consistent.prune, represented.positive⟩

/-- Whatever an `add` does, the store stays represented. -/
theorem Added.represented {results : AddResults} {message : ChatMessage}
    {store after : MessageStore} {result : Except StoreError Bool}
    (added : Added results message store result after) (represented : store.Represented)
    (positive : 1 ≤ message.sequence) (healthy : results.reload = none) : after.Represented := by
  have consistent := added.consistent represented.consistent
  cases added with
  | failed error => exact represented
  | failedAfterPruning error loaded read complete =>
    -- A reload without failing reads has read back every row left.
    exact ⟨complete healthy represented.positive_rows, consistent, represented.positive⟩
  | stored base cleared inRange fresh =>
    -- The row and the cache entry are appended together.
    have before := cleared.represented represented
    refine ⟨by simp [before.cached], consistent, ?_⟩
    intro other member
    rcases List.mem_append.mp member with old | new
    · exact before.positive other old
    · rw [List.mem_singleton.mp new]
      exact positive
  | ignored base cleared inRange collides => exact cleared.represented represented

/-- Every permitted call keeps a store represented. -/
theorem storeStep_represented (store : MessageStore) (call : StoreCall)
    (represented : store.Represented) (permitted : call.Permitted) :
    (storeStep store call).Represented := by
  -- Only an `add` changes a store, and opening it reads the same rows.
  cases call with
  | add results message =>
    exact (add_added results message store).represented represented permitted.1 permitted.2
  | contains result messageId => exact represented
  | nextSequence result origin => exact represented
  | sequenceSummary => exact represented
  | reopen reload =>
    simp only [StoreCall.Permitted] at permitted
    subst permitted
    simpa only [storeStep, represented.openStore_eq] using represented

/-- Every store a permitted run reaches from a new file is represented. -/
theorem run_represented {calls : List StoreCall} (permitted : ∀ call ∈ calls, call.Permitted) :
    (run storeStep MessageStore.empty calls).Represented := by
  -- The permissions of a run are those of its calls, one by one.
  have guarded : ∀ (start : MessageStore), Guarded storeStep (fun _ call => call.Permitted) start
      calls := by
    induction calls with
    | nil => exact fun start => trivial
    | cons call rest ih =>
      intro start
      exact ⟨permitted call (by simp),
        ih (fun other member => permitted other (by simp [member])) _⟩
  exact guarded_invariant storeStep_represented (guarded MessageStore.empty)
    MessageStore.represented_empty

/-- Pruning a represented store drops the front of its cache and reloads the rest. -/
theorem MessageStore.Represented.pruned {store : MessageStore} (represented : store.Represented)
    {results : AddResults} (healthy : results.reload = none) :
    (pruneOldestMessages results store).2.messages =
      store.messages.drop (if results.prune = .ok then min 100 store.messages.length else 0) := by
  have loaded := loadMessages_none fun row member =>
    represented.positive_rows row (Database.mem_rows_prune member)
  rw [Database.rows_prune] at loaded
  unfold pruneOldestMessages
  cases deleted : results.prune with
  | ok =>
    -- Dropping more than there is drops everything.
    simp only [execute, expectOk, healthy, loaded, if_true, represented.cached,
      Database.rows_prune]
    rcases Nat.le_total 100 store.database.rows.length with enough | few
    · rw [Nat.min_eq_left enough]
    · rw [Nat.min_eq_right few, List.drop_length, List.drop_eq_nil_of_le few]
  | full => simp [execute, expectOk]
  | error => simp [execute, expectOk]

/--
The representation invariant of the store, over every run of permitted calls on a new file.

The history is what `committed` records: every message whose row was ever committed, in order.
-/
theorem store_representation (calls : List StoreCall)
    (permitted : ∀ call ∈ calls, call.Permitted) :
    let store := run storeStep MessageStore.empty calls
    -- The cache is the table, in storage order.
    store.messages = store.database.rows ∧
    -- Neither unique key repeats.
    (store.messages.map ChatMessage.messageId).Nodup ∧
    (store.messages.map fun message => (message.origin, message.sequence)).Nodup ∧
    -- A mark is the largest sequence ever committed for its origin, and there are no others.
    (∀ origin, store.database.sequences.value origin = store.database.highest origin ∧
      ((store.database.sequences.get? origin).isSome ↔
        ∃ message ∈ store.database.committed, message.origin = origin)) ∧
    (∀ origin next, nextSequence .ok origin store.database = .ok next →
      ∀ message ∈ store.database.committed, message.origin = origin → message.sequence < next) ∧
    -- Messages are held in the order they arrived in, and pruning drops the first of them.
    Window store.database.committed store.messages ∧
    (∀ results : AddResults, results.reload = none →
      (pruneOldestMessages results store).2.messages = store.messages.drop
        (if results.prune = .ok then min 100 store.messages.length else 0)) ∧
    -- Reopening the file gives the same store, and so the same answers.
    openStore none store.database = .ok store := by
  intro store
  have represented : store.Represented := run_represented permitted
  refine ⟨represented.cached, ?_, ?_, ?_, ?_, ?_, fun results => represented.pruned,
    represented.openStore_eq⟩
  · rw [represented.cached]
    exact store.database.messages.nodup_first
  · rw [represented.cached]
    exact store.database.messages.nodup_second
  · exact fun origin => ⟨represented.consistent.mark_eq origin, represented.consistent.marked origin⟩
  · intro origin next returned message member same
    subst same
    -- The next sequence is one past the mark, and the mark bounds the history.
    have bounded := represented.consistent.le_mark member
    have above := (nextSequence_eq returned).1
    omega
  · rw [represented.cached]
    exact represented.consistent.window

/-- A database that fills up on its second message keeps that message only, also when reopened. -/
theorem store_representation_fill :
    let message (sequence : Nat) : ChatMessage :=
      ⟨sequence, ascii "a:" ++ decimal sequence, ascii "a", ascii "Alice", defaultChannel, 0,
        ascii "hello"⟩
    let calls : List StoreCall :=
      [.add {} (message 1), .add { first := { insert := .full } } (message 2), .reopen none]
    let store := run storeStep MessageStore.empty calls
    store.messages = store.database.rows ∧ store.messages = [message 2] :=
  -- The full database is pruned of its only row before the second is stored.
  ⟨(store_representation _ (by decide)).1, by decide +kernel⟩

end LesChat
