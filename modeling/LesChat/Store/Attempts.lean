import LesChat.Store.MessageStoreLaws

/-! Which call decides how an attempt to insert ends, and how the two attempts of an `add` combine. -/

namespace LesChat

open Foundation

/-- How the calls of one attempt end together: the first that does not succeed decides. -/
def InsertResults.outcome (results : InsertResults) (message : ChatMessage) (database : Database) :
    SqliteResult :=
  if results.beginImmediate ≠ .ok then results.beginImmediate
  else if message.sequence > maxInt64 then .error
  else if results.insert ≠ .ok then results.insert
  -- Only a row that was inserted has a mark to update.
  else if database.messages.Fresh message ∧ results.updateMark ≠ .ok then results.updateMark
  else results.commit

/-- Everything one `insert_message` can do, by the outcome of its calls. -/
inductive Attempted (message : ChatMessage) (database : Database) :
    SqliteResult → Except StoreError (Bool × Database) → Prop where
  /-- The message collided with no row. -/
  | stored (fresh : database.messages.Fresh message) :
    Attempted message database .ok (.ok (true, database.store message fresh))
  /-- The message collided with a row. -/
  | ignored (collides : ¬database.messages.Fresh message) :
    Attempted message database .ok (.ok (false, database))
  /-- The size limit was hit. -/
  | full : Attempted message database .full (.error .databaseFull)
  /-- A call failed, or the sequence was out of range. -/
  | failed (what : String) : Attempted message database .error (.error (.runtimeError what))

/-- A call that has to succeed throws by how it ended. -/
private theorem attempted_expectOk {what : String} {result : SqliteResult} (failing : result ≠ .ok)
    (message : ChatMessage) (database : Database) {rest : Unit → Except StoreError (Bool × Database)} :
    Attempted message database result (expectOk what result >>= rest) := by
  -- A result that is not `ok` is one of the two errors.
  cases result with
  | ok => exact absurd rfl failing
  | full => exact .full
  | error => exact .failed what

/-- Every `insert_message` does what the outcome of its calls says. -/
theorem insertMessage_attempted (results : InsertResults) (message : ChatMessage)
    (database : Database) :
    Attempted message database (results.outcome message database)
      (insertMessage results message database) := by
  -- The calls are made in the order the outcome looks at them.
  unfold insertMessage InsertResults.outcome
  by_cases begun : results.beginImmediate = .ok
  · simp only [begun, ne_eq, not_true_eq_false, if_false, execute, expectOk, Bind.bind, Except.bind]
    by_cases beyond : message.sequence > maxInt64
    · simp only [beyond, if_true, throw, throwThe, MonadExceptOf.throw, rangeError]
      exact .failed _
    · simp only [beyond, if_false]
      by_cases written : results.insert = .ok
      · simp only [written, not_true_eq_false, if_false]
        by_cases fresh : database.messages.Fresh message
        · simp only [fresh, dif_pos, true_and]
          by_cases marked : results.updateMark = .ok
          · simp only [marked, not_true_eq_false, if_false]
            by_cases committed : results.commit = .ok
            · simp only [committed, pure, Except.pure]
              exact .stored fresh
            · exact attempted_expectOk committed message database
          · simp only [marked, not_false_eq_true, if_true]
            exact attempted_expectOk marked message database
        · simp only [fresh, dif_neg, not_false_eq_true, false_and, if_false]
          by_cases committed : results.commit = .ok
          · simp only [committed, pure, Except.pure]
            exact .ignored fresh
          · exact attempted_expectOk committed message database
      · simp only [written, not_false_eq_true, if_true]
        exact attempted_expectOk written message database
  · simp only [begun, ne_eq, not_false_eq_true, if_true]
    exact attempted_expectOk begun message database

/-- Every row can be read back: no read fails before the last one, and no row is refused. -/
def Reloads (failure : Option Nat) (rows : List ChatMessage) : Prop :=
  -- A loop over all the rows makes one read more than there are rows.
  (∀ count, failure = some count → rows.length < count) ∧ ∀ row ∈ rows, 1 ≤ row.sequence

/-- The first of several rows can be read back with the others when it is not refused. -/
private theorem reloads_cons {failure : Option Nat} (reads : failure ≠ some 0)
    (message : ChatMessage) (rest : List ChatMessage) :
    Reloads failure (message :: rest) ↔
      1 ≤ message.sequence ∧ Reloads (failure.map (· - 1)) rest := by
  -- One read and one row less leave the same comparison.
  rcases failure with _ | _ | count
  · simp [Reloads]
  · exact absurd rfl reads
  · simp only [Reloads, List.length_cons, List.forall_mem_cons, Option.map_some, Option.some.injEq,
      forall_eq', Nat.add_sub_cancel, Nat.add_lt_add_iff_right]
    exact and_left_comm

/-- A load returns exactly when every row can be read back. -/
theorem loadMessages_returns_iff (failure : Option Nat) (rows : List ChatMessage) :
    (loadMessages failure rows).1 = .ok () ↔ Reloads failure rows := by
  by_cases reads : failure = some 0
  · subst reads
    simp [loadMessages, Reloads]
  · -- The induction follows the loop: each turn uses up one read and one row.
    induction rows generalizing failure with
    | nil => rcases failure with _ | _ | count <;> simp_all [loadMessages, Reloads]
    | cons message rest ih =>
      rw [reloads_cons reads]
      rcases failure with _ | _ | count
      · by_cases low : message.sequence < 1
        · simp [loadMessages, low, Nat.not_le.mpr low]
        · simpa [loadMessages, low, Nat.not_lt.mp low] using ih none (by simp)
      · exact absurd rfl reads
      · by_cases low : message.sequence < 1
        · simp [loadMessages, low, Nat.not_le.mpr low]
        · simp only [loadMessages, if_neg low, Option.map_some, Nat.add_sub_cancel,
            Nat.not_lt.mp low, true_and]
          by_cases last : count = 0
          · subst last
            cases rest <;> simp [loadMessages, Reloads]
          · exact ih (some count) (by simpa using last)

/-- A store with the oldest rows removed and the others read back. -/
def MessageStore.pruned (store : MessageStore) : MessageStore :=
  ⟨store.database.prune, store.database.prune.rows⟩

/-- Whether a message is inserted into a store, and the store with it. -/
def MessageStore.accept (store : MessageStore) (message : ChatMessage) : Bool × MessageStore :=
  -- A message that collides with a row is ignored.
  if fresh : store.database.messages.Fresh message then
    (true, ⟨store.database.store message fresh, store.messages ++ [message]⟩)
  else (false, store)

/-- Everything one `add` can do, by the results of the calls that lead to it. -/
inductive Ended (results : AddResults) (message : ChatMessage) (store : MessageStore) :
    Except StoreError Bool → MessageStore → Prop where
  /-- The first attempt returned. -/
  | returned (first : results.first.outcome message store.database = .ok) :
    Ended results message store (.ok (store.accept message).1) (store.accept message).2
  /-- The first attempt failed. -/
  | failed (error : StoreError) (first : results.first.outcome message store.database = .error) :
    Ended results message store (.error error) store
  /-- The database was full, and pruning it failed. -/
  | unpruned (error : StoreError) (first : results.first.outcome message store.database = .full)
    (prune : results.prune ≠ .ok) : Ended results message store (.error error) store
  /-- The database was full and was pruned, and a row could not be read back. -/
  | unloaded (error : StoreError) (loaded : List ChatMessage)
    (first : results.first.outcome message store.database = .full) (prune : results.prune = .ok)
    (unread : ¬Reloads results.reload store.database.prune.rows)
    (read : loaded <+: store.database.prune.rows) :
    Ended results message store (.error error) ⟨store.database.prune, loaded⟩
  /-- The database was full and was pruned, and the second attempt returned. -/
  | retried (first : results.first.outcome message store.database = .full)
    (prune : results.prune = .ok) (read : Reloads results.reload store.database.prune.rows)
    (second : results.second.outcome message store.database.prune = .ok) :
    Ended results message store (.ok (store.pruned.accept message).1)
      (store.pruned.accept message).2
  /-- The database was full and was pruned, and the second attempt failed. -/
  | refused (error : StoreError) (first : results.first.outcome message store.database = .full)
    (prune : results.prune = .ok) (read : Reloads results.reload store.database.prune.rows)
    (second : results.second.outcome message store.database.prune ≠ .ok) :
    Ended results message store (.error error) store.pruned

/-- An attempt whose calls succeed leaves the store with the message accepted. -/
theorem insertAndCache_of_ok {results : InsertResults} {message : ChatMessage}
    {store : MessageStore} (done : results.outcome message store.database = .ok) :
    insertAndCache results message store = .ok (store.accept message) := by
  have attempted := insertMessage_attempted results message store.database
  rw [done] at attempted
  unfold insertAndCache MessageStore.accept
  cases ended : insertMessage results message store.database with
  | error error => rw [ended] at attempted; cases attempted
  | ok outcome =>
    -- The row and the cache entry go together.
    rw [ended] at attempted
    cases attempted with
    | stored fresh => simp [fresh]
    | ignored collides => simp [collides]

/-- An attempt whose calls do not all succeed throws. -/
theorem insertAndCache_of_not_ok {results : InsertResults} {message : ChatMessage}
    {store : MessageStore} (failing : results.outcome message store.database ≠ .ok) :
    ∃ error, insertAndCache results message store = .error error ∧
      (error = .databaseFull ↔ results.outcome message store.database = .full) := by
  -- The outcome of the calls decides which error is thrown.
  have attempted := insertMessage_attempted results message store.database
  unfold insertAndCache
  generalize results.outcome message store.database = outcome at attempted failing ⊢
  cases ended : insertMessage results message store.database with
  | error error =>
    rw [ended] at attempted
    refine ⟨error, rfl, ?_⟩
    cases attempted with
    | full => simp
    | failed what => simp
  | ok returned =>
    rw [ended] at attempted
    cases attempted with
    | stored fresh => exact absurd rfl failing
    | ignored collides => exact absurd rfl failing

/-- Every `add` ends as the results of its calls say. -/
theorem add_ended (results : AddResults) (message : ChatMessage) (store : MessageStore) :
    Ended results message store (add results message store).1 (add results message store).2 := by
  unfold add
  by_cases done : results.first.outcome message store.database = .ok
  · simp only [insertAndCache_of_ok done]
    exact .returned done
  · obtain ⟨error, thrown, full⟩ := insertAndCache_of_not_ok done
    simp only [thrown]
    cases error with
    | runtimeError what =>
      -- Only a full database is answered by pruning.
      refine .failed _ ?_
      cases outcome : results.first.outcome message store.database with
      | ok => exact absurd outcome done
      | full => simp [outcome] at full
      | error => rfl
    | databaseFull =>
      have first := full.mp rfl
      unfold pruneOldestMessages
      cases prune : results.prune with
      | full => exact .unpruned _ first (by simp [prune])
      | error => exact .unpruned _ first (by simp [prune])
      | ok =>
        have read := loadMessages_prefix results.reload store.database.prune.rows
        have returns := loadMessages_returns_iff results.reload store.database.prune.rows
        simp only [execute, expectOk]
        cases loading : loadMessages results.reload store.database.prune.rows with
        | mk outcome loaded =>
          rw [loading] at read returns
          cases outcome with
          | error error => exact .unloaded _ _ first prune (by simpa using returns) read
          | ok finished =>
            have all := loadMessages_ok loading
            subst all
            have reloads := returns.mp rfl
            by_cases again : results.second.outcome message store.database.prune = .ok
            · have second : insertAndCache results.second message store.pruned = _ :=
                insertAndCache_of_ok again
              simp only [MessageStore.pruned] at second
              simp only [second]
              exact .retried first prune reloads again
            · obtain ⟨error, failure, _⟩ : ∃ error,
                  insertAndCache results.second message store.pruned = .error error ∧ _ :=
                insertAndCache_of_not_ok again
              simp only [MessageStore.pruned] at failure
              simp only [failure]
              exact .refused error first prune reloads again

/-- An `add` whose first attempt succeeds accepts the message into the store as it is. -/
theorem add_of_first {results : AddResults} {message : ChatMessage} {store : MessageStore}
    (first : results.first.outcome message store.database = .ok) :
    add results message store = (.ok (store.accept message).1, (store.accept message).2) := by
  -- The first attempt succeeds, so nothing is pruned.
  simp only [add, insertAndCache_of_ok first]

/-- An `add` whose retry succeeds accepts the message into the pruned store. -/
theorem add_of_retry {results : AddResults} {message : ChatMessage} {store : MessageStore}
    (first : results.first.outcome message store.database = .full) (prune : results.prune = .ok)
    (read : Reloads results.reload store.database.prune.rows)
    (second : results.second.outcome message store.database.prune = .ok) :
    add results message store =
      (.ok (store.pruned.accept message).1, (store.pruned.accept message).2) := by
  have ended := add_ended results message store
  generalize add results message store = call at ended ⊢
  obtain ⟨result, after⟩ := call
  -- Every other way to end contradicts one of the results.
  cases ended with
  | returned done => simp [first] at done
  | failed error failing => simp [first] at failing
  | unpruned error _ unpruned => exact absurd prune unpruned
  | unloaded error loaded _ _ unread _ => exact absurd read unread
  | retried _ _ _ _ => rfl
  | refused error _ _ _ refused => exact absurd second refused

end LesChat
