import LesChat.Store.MessageStore

/-! What each call of the message store can do, returned or thrown. -/

namespace LesChat

open Foundation

/-- A sequence of calls succeeds when the first does and the rest does with its result. -/
theorem bind_eq_ok {ε α β : Type} {first : Except ε α} {rest : α → Except ε β} {result : β}
    (success : (first >>= rest) = .ok result) :
    ∃ value, first = .ok value ∧ rest value = .ok result := by
  -- A computation that failed would have ended there.
  cases first with
  | error thrown => simp [Bind.bind, Except.bind] at success
  | ok value => exact ⟨value, rfl, success⟩

/-- A sequence of calls throws when one of them does. -/
theorem bind_eq_error {ε α β : Type} {first : Except ε α} {rest : α → Except ε β} {thrown : ε}
    (failure : (first >>= rest) = .error thrown) :
    first = .error thrown ∨ ∃ value, first = .ok value ∧ rest value = .error thrown := by
  -- The error is that of the first part, or the second part was reached.
  cases first with
  | error error => exact .inl (by simpa [Bind.bind, Except.bind] using failure)
  | ok value => exact .inr ⟨value, rfl, failure⟩

/-- A call that has to succeed does so exactly when SQLite says so. -/
@[simp] theorem expectOk_eq_ok (what : String) (result : SqliteResult) (done : Unit) :
    expectOk what result = .ok done ↔ result = .ok := by
  -- One case for each result a call can have.
  cases result <;> simp [expectOk]

/-- Executing a statement succeeds exactly when SQLite says so. -/
@[simp] theorem execute_eq_ok (result : SqliteResult) (done : Unit) :
    execute result = .ok done ↔ result = .ok :=
  expectOk_eq_ok _ _ _

/-- Only a full database makes a call throw `DatabaseFull`. -/
@[simp] theorem expectOk_eq_databaseFull (what : String) (result : SqliteResult) :
    expectOk what result = .error .databaseFull ↔ result = .full := by
  -- One case for each result a call can have.
  cases result <;> simp [expectOk]

/-- Only a full database makes a statement throw `DatabaseFull`. -/
@[simp] theorem execute_eq_databaseFull (result : SqliteResult) :
    execute result = .error .databaseFull ↔ result = .full :=
  expectOk_eq_databaseFull _ _

/-- Two messages that share neither an identifier nor an origin and a sequence. -/
def Apart (left right : ChatMessage) : Prop :=
  left.messageId ≠ right.messageId ∧ (left.origin, left.sequence) ≠ (right.origin, right.sequence)

/-- Whether two messages are apart can be checked. -/
instance : DecidableRel Apart := fun _ _ => inferInstanceAs (Decidable (_ ∧ _))

/-- Being apart does not depend on the order of the two. -/
instance : Std.Symm Apart := ⟨fun _ _ apart => ⟨apart.1.symm, apart.2.symm⟩⟩

/-- What a committed `insert_message` did: it stored a fresh message, or nothing. -/
inductive Inserted (message : ChatMessage) (database : Database) : Bool → Database → Prop where
  /-- The message collided with no row. -/
  | stored (fresh : database.messages.Fresh message) :
    Inserted message database true (database.store message fresh)
  /-- The message collided with a row. -/
  | ignored (collides : ¬database.messages.Fresh message) :
    Inserted message database false database

/-- An `insert_message` that returns had a sequence in range, and stored or ignored the message. -/
theorem insertMessage_inserted {results : InsertResults} {message : ChatMessage}
    {database after : Database} {inserted : Bool}
    (returned : insertMessage results message database = .ok (inserted, after)) :
    message.sequence ≤ maxInt64 ∧ Inserted message database inserted after := by
  -- Every statement of the transaction succeeded, or an exception would have ended it.
  unfold insertMessage at returned
  obtain ⟨_, _, returned⟩ := bind_eq_ok returned
  split at returned
  · simp [throw, throwThe, MonadExceptOf.throw] at returned
  · rename_i inRange
    refine ⟨Nat.le_of_not_lt inRange, ?_⟩
    obtain ⟨_, _, returned⟩ := bind_eq_ok returned
    split at returned
    · rename_i fresh
      obtain ⟨_, _, returned⟩ := bind_eq_ok returned
      obtain ⟨_, _, returned⟩ := bind_eq_ok returned
      simp only [pure, Except.pure, Except.ok.injEq, Prod.mk.injEq] at returned
      obtain ⟨rfl, rfl⟩ := returned
      exact .stored fresh
    · rename_i collides
      obtain ⟨_, _, returned⟩ := bind_eq_ok returned
      simp only [pure, Except.pure, Except.ok.injEq, Prod.mk.injEq] at returned
      obtain ⟨rfl, rfl⟩ := returned
      exact .ignored collides

/-- An attempt of `add` that returns leaves the file as `insert_message` does. -/
theorem insertAndCache_inserted {results : InsertResults} {message : ChatMessage}
    {store after : MessageStore} {inserted : Bool}
    (returned : insertAndCache results message store = .ok (inserted, after)) :
    message.sequence ≤ maxInt64 ∧ Inserted message store.database inserted after.database ∧
      after.messages = if inserted then store.messages ++ [message] else store.messages := by
  -- Only the transaction touches the file, and only an inserted row reaches the cache.
  unfold insertAndCache at returned
  split at returned
  · simp at returned
  · rename_i stored database attempt
    simp only [Except.ok.injEq, Prod.mk.injEq] at returned
    obtain ⟨rfl, rfl⟩ := returned
    obtain ⟨inRange, outcome⟩ := insertMessage_inserted attempt
    exact ⟨inRange, outcome, rfl⟩

/-- A load that returns has read every row. -/
theorem loadMessages_ok {failure : Option Nat} {rows loaded : List ChatMessage}
    (returned : loadMessages failure rows = (.ok (), loaded)) : loaded = rows := by
  -- The induction follows the rows, each of which was read or ended the loop.
  induction rows generalizing failure loaded with
  | nil =>
    cases failure with
    | none => simpa [loadMessages] using returned.symm
    | some count => cases count <;> simp_all [loadMessages]
  | cons message rest ih =>
    cases failure with
    | none =>
      simp only [loadMessages] at returned
      split at returned
      · simp at returned
      · simp only [Prod.mk.injEq, Option.map_none] at returned
        obtain ⟨success, rfl⟩ := returned
        exact congrArg (message :: ·) (ih (Prod.ext success rfl))
    | some count =>
      cases count with
      | zero => simp [loadMessages] at returned
      | succ count =>
        simp only [loadMessages] at returned
        split at returned
        · simp at returned
        · simp only [Prod.mk.injEq] at returned
          obtain ⟨success, rfl⟩ := returned
          exact congrArg (message :: ·) (ih (Prod.ext success rfl))

/-- A load that ends early has read some of the first rows. -/
theorem loadMessages_prefix (failure : Option Nat) (rows : List ChatMessage) :
    (loadMessages failure rows).2 <+: rows := by
  -- Every turn of the loop reads the next row or ends the loop.
  induction rows generalizing failure with
  | nil => cases failure with
    | none => simp [loadMessages]
    | some count => cases count <;> simp [loadMessages]
  | cons message rest ih =>
    cases failure with
    | none =>
      simp only [loadMessages]
      split
      · exact List.nil_prefix
      · exact List.prefix_cons_inj message |>.mpr (ih _)
    | some count =>
      cases count with
      | zero => exact List.nil_prefix
      | succ count =>
        simp only [loadMessages]
        split
        · exact List.nil_prefix
        · exact List.prefix_cons_inj message |>.mpr (ih _)

/-- When reads succeed, rows with positive sequences load completely. -/
theorem loadMessages_none {rows : List ChatMessage} (positive : ∀ message ∈ rows, 1 ≤ message.sequence) :
    loadMessages none rows = (.ok (), rows) := by
  induction rows with
  | nil => rfl
  | cons message rest ih =>
    -- A positive sequence passes the check of its row.
    have low : ¬message.sequence < 1 := Nat.not_lt.mpr (positive message (by simp))
    have loaded := ih fun other member => positive other (by simp [member])
    simp only [loadMessages, if_neg low, Option.map_none, loaded]

/-- Pruning drops the hundred oldest rows. -/
@[simp] theorem Database.rows_prune (database : Database) :
    database.prune.rows = database.rows.drop 100 :=
  -- The first hundred rows are the oldest ones.
  Table.values_deleteOldest _ _

/-- Pruning forgets no mark. -/
@[simp] theorem Database.sequences_prune (database : Database) :
    database.prune.sequences = database.sequences := rfl

/-- Pruning commits no message. -/
@[simp] theorem Database.committed_prune (database : Database) :
    database.prune.committed = database.committed := rfl

/-- Storing appends a row. -/
@[simp] theorem Database.rows_store (database : Database) (message : ChatMessage)
    (fresh : database.messages.Fresh message) :
    (database.store message fresh).rows = database.rows ++ [message] :=
  -- A fresh row is inserted behind the others.
  Table.values_insert _ _ fresh

/-- Storing raises the mark of the message's origin. -/
@[simp] theorem Database.sequences_store (database : Database) (message : ChatMessage)
    (fresh : database.messages.Fresh message) :
    (database.store message fresh).sequences =
      database.sequences.raise message.origin message.sequence := rfl

/-- Storing is recorded in the history. -/
@[simp] theorem Database.committed_store (database : Database) (message : ChatMessage)
    (fresh : database.messages.Fresh message) :
    (database.store message fresh).committed = database.committed ++ [message] := rfl

/-- The stores `add` may insert into: the one it was called on, or that one pruned and reloaded. -/
def Base (store base : MessageStore) : Prop :=
  -- Pruning happens at most once, before the second attempt.
  base = store ∨ base = ⟨store.database.prune, store.database.prune.rows⟩

/-- Everything one `add` can do, with what it returns or throws. -/
inductive Added (results : AddResults) (message : ChatMessage) (store : MessageStore) :
    Except StoreError Bool → MessageStore → Prop where
  /-- An exception before anything changed. -/
  | failed (error : StoreError) : Added results message store (.error error) store
  /-- An exception after pruning, with a cache of the rows that were read back. -/
  | failedAfterPruning (error : StoreError) (loaded : List ChatMessage)
    (read : loaded <+: store.database.prune.rows)
    (complete : results.reload = none → (∀ row ∈ store.database.rows, 1 ≤ row.sequence) →
      loaded = store.database.prune.rows) :
    Added results message store (.error error) ⟨store.database.prune, loaded⟩
  /-- The message was fresh, and is now the last row. -/
  | stored (base : MessageStore) (cleared : Base store base) (inRange : message.sequence ≤ maxInt64)
    (fresh : base.database.messages.Fresh message) :
    Added results message store (.ok true)
      ⟨base.database.store message fresh, base.messages ++ [message]⟩
  /-- The message collided with a row. -/
  | ignored (base : MessageStore) (cleared : Base store base)
    (inRange : message.sequence ≤ maxInt64) (collides : ¬base.database.messages.Fresh message) :
    Added results message store (.ok false) base

/-- An attempt that returns is one of the two ways an `add` can return. -/
private theorem added_of_attempt {attempt : InsertResults} {results : AddResults}
    {message : ChatMessage} {store base after : MessageStore} {inserted : Bool}
    (cleared : Base store base)
    (returned : insertAndCache attempt message base = .ok (inserted, after)) :
    Added results message store (.ok inserted) after := by
  obtain ⟨inRange, outcome, cached⟩ := insertAndCache_inserted returned
  -- The file and the cache of the store afterwards are both known.
  obtain ⟨database, messages⟩ := after
  cases outcome with
  | stored fresh =>
    simp only [if_true] at cached
    subst cached
    exact .stored base cleared inRange fresh
  | ignored collides =>
    simp only [Bool.false_eq_true, if_false] at cached
    subst cached
    exact .ignored base cleared inRange collides

/-- Rows that survive pruning were rows before. -/
theorem Database.mem_rows_prune {database : Database} {message : ChatMessage}
    (member : message ∈ database.prune.rows) : message ∈ database.rows := by
  -- Pruning drops rows from the front.
  rw [Database.rows_prune] at member
  exact List.mem_of_mem_drop member

/-- Every `add` does one of the listed things. -/
theorem add_added (results : AddResults) (message : ChatMessage) (store : MessageStore) :
    Added results message store (add results message store).1 (add results message store).2 := by
  unfold add
  split
  · rename_i inserted after attempt
    exact added_of_attempt (.inl rfl) attempt
  · exact .failed _
  · -- A full database is pruned and reloaded before the second attempt.
    unfold pruneOldestMessages
    cases deleted : execute results.prune with
    | error error => exact .failed error
    | ok done =>
      have read := loadMessages_prefix results.reload store.database.prune.rows
      have complete : results.reload = none → (∀ row ∈ store.database.rows, 1 ≤ row.sequence) →
          (loadMessages results.reload store.database.prune.rows).2 = store.database.prune.rows := by
        intro healthy positive
        rw [healthy, loadMessages_none fun row member =>
          positive row (Database.mem_rows_prune member)]
      cases loading : loadMessages results.reload store.database.prune.rows with
      | mk outcome loaded =>
        rw [loading] at read complete
        cases outcome with
        | error error => simpa only [loading] using Added.failedAfterPruning error loaded read complete
        | ok done =>
          -- A reload that returned has read back all the rows.
          have all := loadMessages_ok loading
          subst all
          simp only [loading]
          split
          · rename_i inserted after attempt
            exact added_of_attempt (.inr rfl) attempt
          · exact .failedAfterPruning _ _ read complete

/-- Neither base of an insert has committed anything since `add` was called. -/
theorem Base.committed_eq {store base : MessageStore} (cleared : Base store base) :
    base.database.committed = store.database.committed := by
  -- Pruning does not take back what was committed.
  rcases cleared with rfl | rfl <;> rfl

/-- Neither base of an insert has changed a mark since `add` was called. -/
theorem Base.sequences_eq {store base : MessageStore} (cleared : Base store base) :
    base.database.sequences = store.database.sequences := by
  -- Pruning leaves the marks alone.
  rcases cleared with rfl | rfl <;> rfl

/-- Every row of a base was a row when `add` was called. -/
theorem Base.mem_rows {store base : MessageStore} (cleared : Base store base)
    {message : ChatMessage} (member : message ∈ base.database.rows) :
    message ∈ store.database.rows := by
  -- The attempt began with these rows, or with the ones pruning left.
  rcases cleared with rfl | rfl
  · exact member
  · exact Database.mem_rows_prune member

/-- An `add` commits its message exactly when it reports an insertion. -/
theorem Added.committed_eq {results : AddResults} {message : ChatMessage}
    {store after : MessageStore} {result : Except StoreError Bool}
    (added : Added results message store result after) :
    after.database.committed =
      store.database.committed ++ if result = .ok true then [message] else [] := by
  -- Of the four ways to end, only one commits.
  cases added with
  | failed error => simp
  | failedAfterPruning error loaded read complete => simp
  | stored base cleared inRange fresh => simp [cleared.committed_eq]
  | ignored base cleared inRange collides => simp [cleared.committed_eq]

/-- An `add` raises a mark exactly when it reports an insertion. -/
theorem Added.sequences_eq {results : AddResults} {message : ChatMessage}
    {store after : MessageStore} {result : Except StoreError Bool}
    (added : Added results message store result after) :
    after.database.sequences =
      if result = .ok true then store.database.sequences.raise message.origin message.sequence
      else store.database.sequences := by
  -- The mark is raised in the one case in which the row is inserted.
  cases added with
  | failed error => simp
  | failedAfterPruning error loaded read complete => simp
  | stored base cleared inRange fresh => simp [cleared.sequences_eq]
  | ignored base cleared inRange collides => simp [cleared.sequences_eq]

/-- An `add` that returns had a sequence in range. -/
theorem Added.inRange {results : AddResults} {message : ChatMessage} {store after : MessageStore}
    {inserted : Bool} (added : Added results message store (.ok inserted) after) :
    message.sequence ≤ maxInt64 := by
  -- A sequence outside the range would have thrown.
  cases added with
  | stored base cleared inRange fresh => exact inRange
  | ignored base cleared inRange collides => exact inRange

/-- A row after an `add` was there before, or it is the message. -/
theorem Added.mem_rows {results : AddResults} {message : ChatMessage} {store after : MessageStore}
    {result : Except StoreError Bool} (added : Added results message store result after)
    {row : ChatMessage} (member : row ∈ after.database.rows) :
    row ∈ store.database.rows ∨ row = message := by
  -- Only in one case is there a new row, and that is the message.
  cases added with
  | failed error => exact .inl member
  | failedAfterPruning error loaded read complete => exact .inl (Database.mem_rows_prune member)
  | stored base cleared inRange fresh =>
    rw [Database.rows_store] at member
    rcases List.mem_append.mp member with old | new
    · exact .inl (cleared.mem_rows old)
    · exact .inr (List.mem_singleton.mp new)
  | ignored base cleared inRange collides => exact .inl (cleared.mem_rows member)

/-- An `add` that returns has inserted a message apart from all rows. -/
theorem Added.inserted_of_apart {results : AddResults} {message : ChatMessage}
    {store after : MessageStore} {inserted : Bool}
    (added : Added results message store (.ok inserted) after)
    (apart : ∀ row ∈ store.database.rows, Apart row message) : inserted = true := by
  cases added with
  | stored base cleared inRange fresh => rfl
  | ignored base cleared inRange collides =>
    -- Pruning only removes rows the message might have collided with.
    exact absurd (fun row member => apart row (cleared.mem_rows member)) collides

/-- No call of an attempt reports a full database. -/
structure InsertResults.NeverFull (results : InsertResults) : Prop where
  /-- The transaction begins without hitting the limit. -/
  beginImmediate : results.beginImmediate ≠ .full
  /-- The insert does not hit the limit. -/
  insert : results.insert ≠ .full
  /-- The mark update does not hit the limit. -/
  updateMark : results.updateMark ≠ .full
  /-- The commit does not hit the limit. -/
  commit : results.commit ≠ .full

/-- An attempt on which every call succeeds never hits the limit. -/
theorem InsertResults.neverFull_default : ({} : InsertResults).NeverFull := by
  -- Calls that all succeed do not report a full database.
  constructor <;> decide

/-- An attempt that never hits the limit does not ask for pruning. -/
theorem insertMessage_neverFull {results : InsertResults} (neverFull : results.NeverFull)
    (message : ChatMessage) (database : Database) :
    insertMessage results message database ≠ .error .databaseFull := by
  -- Each call in turn is shown not to be the one that threw.
  intro thrown
  unfold insertMessage at thrown
  rcases bind_eq_error thrown with failed | ⟨_, _, thrown⟩
  · exact neverFull.beginImmediate (by simpa using failed)
  split at thrown
  · simp [throw, throwThe, MonadExceptOf.throw, rangeError] at thrown
  rcases bind_eq_error thrown with failed | ⟨_, _, thrown⟩
  · exact neverFull.insert (by simpa using failed)
  split at thrown
  · rcases bind_eq_error thrown with failed | ⟨_, _, thrown⟩
    · exact neverFull.updateMark (by simpa using failed)
    rcases bind_eq_error thrown with failed | ⟨_, _, thrown⟩
    · exact neverFull.commit (by simpa using failed)
    · simp [pure, Except.pure] at thrown
  · rcases bind_eq_error thrown with failed | ⟨_, _, thrown⟩
    · exact neverFull.commit (by simpa using failed)
    · simp [pure, Except.pure] at thrown

/-- An attempt on which every call succeeds returns, when the sequence is in range. -/
theorem insertMessage_default {message : ChatMessage} (inRange : message.sequence ≤ maxInt64)
    (database : Database) : ∃ outcome, insertMessage {} message database = .ok outcome := by
  -- Every call succeeds, whether the row is inserted or skipped.
  simp only [insertMessage, execute, expectOk, if_neg (Nat.not_lt.mpr inRange), Bind.bind,
    Except.bind]
  split
  · exact ⟨_, rfl⟩
  · exact ⟨_, rfl⟩

/-- Without a full database, `add` leaves the store alone or inserts into it as it is. -/
theorem add_neverFull {results : AddResults} (neverFull : results.first.NeverFull)
    (message : ChatMessage) (store : MessageStore) :
    (∃ error, add results message store = (.error error, store)) ∨
    (∃ fresh : store.database.messages.Fresh message, add results message store =
      (.ok true, ⟨store.database.store message fresh, store.messages ++ [message]⟩)) ∨
    (¬store.database.messages.Fresh message ∧ add results message store = (.ok false, store)) := by
  -- The first attempt is the only one.
  cases attempt : insertMessage results.first message store.database with
  | error error =>
    cases error with
    | databaseFull => exact absurd attempt (insertMessage_neverFull neverFull _ _)
    | runtimeError what => exact .inl ⟨.runtimeError what, by simp [add, insertAndCache, attempt]⟩
  | ok outcome =>
    obtain ⟨inserted, database⟩ := outcome
    obtain ⟨_, outcome⟩ := insertMessage_inserted attempt
    cases outcome with
    | stored fresh => exact .inr (.inl ⟨fresh, by simp [add, insertAndCache, attempt]⟩)
    | ignored collides => exact .inr (.inr ⟨collides, by simp [add, insertAndCache, attempt]⟩)

/-- When every call of the first attempt succeeds, `add` returns. -/
theorem add_returns {results : AddResults} (clean : results.first = {}) {message : ChatMessage}
    (inRange : message.sequence ≤ maxInt64) (store : MessageStore) :
    ∃ inserted, (add results message store).1 = .ok inserted := by
  -- The first attempt succeeds, and returns whether it inserted a row.
  obtain ⟨⟨inserted, database⟩, attempt⟩ := insertMessage_default inRange store.database
  exact ⟨inserted, by simp [add, insertAndCache, clean, attempt]⟩

/-- A call with another text of its own does not throw the range error. -/
theorem expectOk_ne_rangeError {what : String} (other : StoreError.runtimeError what ≠ rangeError)
    (result : SqliteResult) : expectOk what result ≠ .error rangeError := by
  -- A call that fails has another text, and a full database has none.
  cases result with
  | ok => simp [expectOk]
  | full => simp [expectOk, rangeError]
  | error => simpa [expectOk] using other

/-- A statement does not throw the range error. -/
theorem execute_ne_rangeError (result : SqliteResult) : execute result ≠ .error rangeError :=
  -- The two errors have different texts.
  expectOk_ne_rangeError (by decide) result

/-- An attempt on a sequence in range does not throw the range error. -/
theorem insertMessage_ne_rangeError {message : ChatMessage} (inRange : message.sequence ≤ maxInt64)
    (results : InsertResults) (database : Database) :
    insertMessage results message database ≠ .error rangeError := by
  -- Whichever call throws has a text of its own.
  intro thrown
  rw [insertMessage, if_neg (Nat.not_lt.mpr inRange)] at thrown
  rcases bind_eq_error thrown with failed | ⟨_, _, thrown⟩
  · exact execute_ne_rangeError _ failed
  rcases bind_eq_error thrown with failed | ⟨_, _, thrown⟩
  · exact expectOk_ne_rangeError (by decide) _ failed
  split at thrown
  · rcases bind_eq_error thrown with failed | ⟨_, _, thrown⟩
    · exact expectOk_ne_rangeError (by decide) _ failed
    rcases bind_eq_error thrown with failed | ⟨_, _, thrown⟩
    · exact execute_ne_rangeError _ failed
    · simp [pure, Except.pure] at thrown
  · rcases bind_eq_error thrown with failed | ⟨_, _, thrown⟩
    · exact execute_ne_rangeError _ failed
    · simp [pure, Except.pure] at thrown

/-- An attempt of `add` throws what `insert_message` throws. -/
theorem insertAndCache_error {results : InsertResults} {message : ChatMessage}
    {store : MessageStore} {thrown : StoreError}
    (failed : insertAndCache results message store = .error thrown) :
    insertMessage results message store.database = .error thrown := by
  -- Caching does not fail, so the error is that of the insertion.
  unfold insertAndCache at failed
  split at failed
  · rename_i error attempt
    rw [attempt]
    simpa using failed
  · simp at failed

/-- A load does not throw the range error. -/
theorem loadMessages_ne_rangeError (failure : Option Nat) (rows : List ChatMessage) :
    (loadMessages failure rows).1 ≠ .error rangeError := by
  -- The two exceptions of the loop have texts of their own.
  induction rows generalizing failure with
  | nil => rcases failure with _ | _ | count <;> simp [loadMessages, rangeError]
  | cons message rest ih =>
    rcases failure with _ | _ | count
    · simp only [loadMessages]
      split
      · simp [rangeError]
      · exact ih _
    · simp [loadMessages, rangeError]
    · simp only [loadMessages]
      split
      · simp [rangeError]
      · exact ih _

/-- Adding a message whose sequence is in range never throws the range error. -/
theorem add_ne_rangeError {message : ChatMessage} (inRange : message.sequence ≤ maxInt64)
    (results : AddResults) (store : MessageStore) :
    (add results message store).1 ≠ .error rangeError := by
  intro thrown
  unfold add at thrown
  split at thrown
  · simp at thrown
  · rename_i what attempt
    simp only [Except.error.injEq] at thrown
    rw [thrown] at attempt
    exact insertMessage_ne_rangeError inRange _ _ (insertAndCache_error attempt)
  · -- Neither the pruning statement nor the reload nor the second attempt throws it.
    split at thrown
    · rename_i error pruned pruning
      simp only [Except.error.injEq] at thrown
      subst thrown
      unfold pruneOldestMessages at pruning
      split at pruning
      · rename_i deleted
        simp only [Prod.mk.injEq, Except.error.injEq] at pruning
        exact execute_ne_rangeError _ (pruning.1 ▸ deleted)
      · simp only [Prod.mk.injEq] at pruning
        exact loadMessages_ne_rangeError _ _ pruning.1
    · split at thrown
      · simp at thrown
      · rename_i error attempt
        simp only [Except.error.injEq] at thrown
        subst thrown
        exact insertMessage_ne_rangeError inRange _ _ (insertAndCache_error attempt)

end LesChat
