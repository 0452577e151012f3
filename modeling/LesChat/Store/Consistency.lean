import LesChat.Store.MessageStoreLaws

/-! The agreement between tables, cache and history that every call of the store keeps. -/

namespace LesChat

open Foundation

/-- The largest sequence ever committed for an origin. -/
def Database.highest (database : Database) (origin : Bytes) : Nat :=
  -- The history keeps what pruning removes.
  highWater ChatMessage.origin ChatMessage.sequence database.committed origin

/-- The two tables agree with the history of commits. -/
structure Database.Consistent (database : Database) : Prop where
  /-- The rows are the latest commits, in commit order. -/
  window : Window database.committed database.rows
  /-- Exactly the origins of committed messages have a mark. -/
  marked : ∀ origin, (database.sequences.get? origin).isSome ↔
    ∃ message ∈ database.committed, message.origin = origin
  /-- A mark is the largest sequence committed for its origin. -/
  mark_eq : ∀ origin, database.sequences.value origin = database.highest origin
  /-- Every committed sequence fits its column. -/
  inRange : ∀ message ∈ database.committed, message.sequence ≤ maxInt64

/-- A new file is consistent. -/
theorem Database.consistent_empty : Database.empty.Consistent where
  -- There are no rows, and all marks are zero.
  window := Window.refl []
  marked := by simp [Database.empty]
  mark_eq := fun origin => rfl
  inRange := by simp [Database.empty]

/-- Pruning keeps a file consistent. -/
theorem Database.Consistent.prune {database : Database} (consistent : database.Consistent) :
    database.prune.Consistent where
  window := by
    -- The rows that are left are the last ones stored, and the marks are the old ones.
    rw [Database.rows_prune]
    exact consistent.window.drop 100
  marked := consistent.marked
  mark_eq := consistent.mark_eq
  inRange := consistent.inRange

/-- Storing a fresh message in range keeps a file consistent. -/
theorem Database.Consistent.store {database : Database} (consistent : database.Consistent)
    {message : ChatMessage} (fresh : database.messages.Fresh message)
    (inRange : message.sequence ≤ maxInt64) : (database.store message fresh).Consistent where
  window := by
    rw [Database.rows_store]
    exact consistent.window.append message
  marked := by
    -- Only the message's own origin can gain a mark.
    intro origin
    rw [Database.sequences_store, Database.committed_store]
    by_cases same : origin = message.origin
    · subst same
      simp [Marks.get?_raise_same]
    · rw [Marks.get?_raise_other _ _ same, consistent.marked]
      simp [Ne.symm same]
  mark_eq := by
    -- The mark and the largest sequence are raised alike.
    intro origin
    have before := consistent.mark_eq origin
    simp only [Database.highest, Database.sequences_store, Database.committed_store] at before ⊢
    rw [Marks.value_raise, highWater_append, before]
  inRange := by
    intro other member
    rcases List.mem_append.mp member with old | new
    · exact consistent.inRange other old
    · rw [List.mem_singleton.mp new]
      exact inRange

/-- A base of an insert is consistent when the store it came from is. -/
theorem Base.consistent {store base : MessageStore} (cleared : Base store base)
    (consistent : store.database.Consistent) : base.database.Consistent := by
  -- The attempt began where it was, or after pruning.
  rcases cleared with rfl | rfl
  · exact consistent
  · exact consistent.prune

/-- Whatever an `add` does, the file stays consistent. -/
theorem Added.consistent {results : AddResults} {message : ChatMessage}
    {store after : MessageStore} {result : Except StoreError Bool}
    (added : Added results message store result after) (consistent : store.database.Consistent) :
    after.database.Consistent := by
  -- One case for each way an `add` can end.
  cases added with
  | failed error => exact consistent
  | failedAfterPruning error loaded read complete => exact consistent.prune
  | stored base cleared inRange fresh => exact (cleared.consistent consistent).store fresh inRange
  | ignored base cleared inRange collides => exact cleared.consistent consistent

/--
What holds of a store even when reads fail.

A reload that was cut short leaves the cache without some of the rows.
-/
structure MessageStore.Sound (store : MessageStore) : Prop where
  /-- The tables agree with the history. -/
  consistent : store.database.Consistent
  /-- The cache lists rows, in storage order. -/
  cached : store.messages.Sublist store.database.rows

/-- A store on a new file is sound. -/
theorem MessageStore.sound_empty : MessageStore.empty.Sound :=
  -- An empty store has cached all of nothing.
  ⟨Database.consistent_empty, List.Sublist.refl _⟩

/-- Whatever an `add` does, the store stays sound. -/
theorem Added.sound {results : AddResults} {message : ChatMessage} {store after : MessageStore}
    {result : Except StoreError Bool} (added : Added results message store result after)
    (sound : store.Sound) : after.Sound := by
  refine ⟨added.consistent sound.consistent, ?_⟩
  -- A base of the insert has its cache within its rows.
  have within : ∀ base, Base store base → base.messages.Sublist base.database.rows := by
    intro base either
    rcases either with rfl | rfl
    · exact sound.cached
    · exact List.Sublist.refl _
  cases added with
  | failed error => exact sound.cached
  | failedAfterPruning error loaded read complete => exact read.sublist
  | stored base cleared inRange fresh =>
    rw [Database.rows_store]
    exact (within base cleared).append (List.Sublist.refl _)
  | ignored base cleared inRange collides => exact within _ cleared

/-- No two cached messages share an identifier. -/
theorem MessageStore.Sound.nodup_messageId {store : MessageStore} (sound : store.Sound) :
    (store.messages.map ChatMessage.messageId).Nodup :=
  -- The cache lists rows, whose identifiers are unique.
  store.database.messages.nodup_first.sublist (sound.cached.map _)

/-- No two cached messages share an origin and a sequence. -/
theorem MessageStore.Sound.nodup_key {store : MessageStore} (sound : store.Sound) :
    (store.messages.map fun message => (message.origin, message.sequence)).Nodup :=
  -- The cache lists rows, whose pairs of origin and sequence are unique.
  store.database.messages.nodup_second.sublist (sound.cached.map _)

/-- Every cached message was committed. -/
theorem MessageStore.Sound.committed_of_mem {store : MessageStore} (sound : store.Sound)
    {message : ChatMessage} (member : message ∈ store.messages) :
    message ∈ store.database.committed :=
  -- What is cached is a row, and every row was committed.
  sound.consistent.window.subset (sound.cached.subset member)

/-- Every stored row was committed. -/
theorem Database.Consistent.committed_of_mem {database : Database}
    (consistent : database.Consistent) {message : ChatMessage} (member : message ∈ database.rows) :
    message ∈ database.committed :=
  -- The rows are the last ones committed.
  consistent.window.subset member

/-- No committed sequence is above the mark of its origin. -/
theorem Database.Consistent.le_mark {database : Database} (consistent : database.Consistent)
    {message : ChatMessage} (member : message ∈ database.committed) :
    message.sequence ≤ database.sequences.value message.origin := by
  -- The mark is the greatest sequence ever committed.
  rw [consistent.mark_eq]
  exact le_highWater ChatMessage.origin ChatMessage.sequence member

/-- Marks stay in the range of their column. -/
theorem Database.Consistent.mark_le {database : Database} (consistent : database.Consistent)
    (origin : Bytes) : database.sequences.value origin ≤ maxInt64 := by
  -- The mark is the greatest sequence ever committed, and each of them is in range.
  rw [consistent.mark_eq]
  exact (highWater_le_iff _ _ _ _ _).mpr fun message member _ => consistent.inRange message member

/-- When the read succeeds, a sequence that is returned is one more than the mark. -/
theorem nextSequence_eq {origin : Bytes} {database : Database} {next : Nat}
    (returned : nextSequence .ok origin database = .ok next) :
    next = database.sequences.value origin + 1 ∧ database.sequences.value origin ≠ maxInt64 := by
  -- An origin without a mark starts at one.
  unfold nextSequence at returned
  cases mark : database.sequences.get? origin with
  | none =>
    simp only [mark, Except.ok.injEq] at returned
    simp [Marks.value, mark, ← returned, maxInt64]
  | some last =>
    simp only [mark] at returned
    split at returned
    · simp at returned
    · rename_i below
      simp only [Except.ok.injEq] at returned
      simp [Marks.value, mark, ← returned, below]

end LesChat
