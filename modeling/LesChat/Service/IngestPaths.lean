import LesChat.Service.MessageServiceLaws
import LesChat.Store.Attempts

/-! When a replicated message and a synchronized one are ingested the same way. -/

namespace LesChat

open Foundation

/-- The call that separates two services committed exactly this message. -/
def NewlyStored (message : ChatMessage) (before after : MessageService) : Prop :=
  after.store.database.committed = before.store.database.committed ++ [message]

/-- Whether a message was newly stored can be seen from the commits. -/
instance (message : ChatMessage) (before after : MessageService) :
    Decidable (NewlyStored message before after) :=
  inferInstanceAs (Decidable (_ = _))

/-- A message is reported as new, and published, exactly when it was newly stored. -/
structure Reported (library : JsonC) (message : ChatMessage) (before : MessageService)
    (call : Except StoreError Bool × MessageService) : Prop where
  /-- The call returns true exactly when it stored the message. -/
  returned : call.1 = .ok true ↔ NewlyStored message before call.2
  /-- A message that was stored is published. -/
  published : NewlyStored message before call.2 →
    call.2.published = before.published ++ [serializeJson library (messageToJson message)]
  /-- Nothing else is published. -/
  silent : ¬NewlyStored message before call.2 → call.2.published = before.published

section Paths

variable (library : JsonC)

/-- Both ways of ingesting a message end alike, and each reports what it did. -/
def IngestAlike (lookup : SqliteResult) (results : AddResults) (message : ChatMessage)
    (service : MessageService) : Prop :=
  ingestReplica library lookup results message service =
      ingestSync library results message service ∧
    Reported library message service (ingestReplica library lookup results message service) ∧
    Reported library message service (ingestSync library results message service)

/-- The attempt of an `add` that goes through finds a row the message collides with. -/
def Ignores (results : AddResults) (message : ChatMessage) (store : MessageStore) : Prop :=
  (results.first.outcome message store.database = .ok ∧ ¬store.database.messages.Fresh message) ∨
  -- After pruning, the message is compared with the rows that are left.
  (results.first.outcome message store.database = .full ∧ results.prune = .ok ∧
    Reloads results.reload store.database.prune.rows ∧
    results.second.outcome message store.database.prune = .ok ∧
    ¬store.database.prune.messages.Fresh message)

/-- A message is accepted exactly when it collides with no row. -/
theorem MessageStore.accept_fst (store : MessageStore) (message : ChatMessage) :
    (store.accept message).1 = true ↔ store.database.messages.Fresh message := by
  -- A row is inserted where it collides with none.
  unfold MessageStore.accept
  split <;> simp_all

/-- A message that collides with a row leaves the store alone. -/
theorem MessageStore.accept_of_collision {store : MessageStore} {message : ChatMessage}
    (collides : ¬store.database.messages.Fresh message) :
    store.accept message = (false, store) := by
  -- A collision skips the row.
  simp only [MessageStore.accept, dif_neg collides]

/-- An `add` returns false exactly when the message is ignored. -/
theorem add_false_iff (results : AddResults) (message : ChatMessage) (store : MessageStore) :
    (add results message store).1 = .ok false ↔ Ignores results message store := by
  have ended := add_ended results message store
  generalize add results message store = call at ended ⊢
  obtain ⟨result, after⟩ := call
  -- Only the two ways to return can answer false, and each does on a collision.
  cases ended with
  | returned first =>
    simp [Ignores, first, ← MessageStore.accept_fst]
  | failed error first => simp [Ignores, first]
  | unpruned error first prune => simp [Ignores, first, prune]
  | unloaded error loaded first prune unread read =>
    simp only [Ignores, first, prune, unread, reduceCtorEq, false_and, and_false, or_self]
  | retried first prune read second =>
    have collided := MessageStore.accept_fst store.pruned message
    simp only [Ignores, first, prune, read, second, reduceCtorEq, false_and, false_or, true_and,
      Except.ok.injEq, ← Bool.not_eq_true, collided]
    exact Iff.rfl
  | refused error first prune read second =>
    simp only [Ignores, first, second, reduceCtorEq, false_and, and_false, or_self]

/-- A call that left the store of an `add` stored the message exactly when the `add` inserted it. -/
theorem newlyStored_iff {results : AddResults} {message : ChatMessage}
    {before after : MessageService} (store : after.store = (add results message before.store).2) :
    NewlyStored message before after ↔ (add results message before.store).1 = .ok true := by
  -- Exactly an insertion appends the message to what was committed.
  have committed := (add_added results message before.store).committed_eq
  rw [NewlyStored, store, committed, List.append_cancel_left_eq]
  split <;> simp_all

/-- A synchronized message is always reported as it was stored. -/
theorem ingestSync_reported (results : AddResults) (message : ChatMessage)
    (service : MessageService) :
    Reported library message service (ingestSync library results message service) := by
  have stored := newlyStored_iff (ingestSync_store library results message service)
  -- The result of the insert decides both the answer and the event.
  refine ⟨by rw [stored, ingestSync_result], ?_, ?_⟩
  · intro new
    have inserted := stored.mp new
    unfold ingestSync
    split <;> simp_all [publish]
  · intro old
    have skipped := mt stored.mpr old
    unfold ingestSync
    split <;> simp_all

/-- A replicated message whose identifier is found is not stored, and not reported either. -/
theorem ingestReplica_of_hit {lookup : SqliteResult} {message : ChatMessage}
    {service : MessageService} (hit : contains lookup message.messageId service.store = true)
    (results : AddResults) :
    ingestReplica library lookup results message service = (.ok false, service) := by
  -- What is found is answered as a duplicate at once.
  unfold ingestReplica
  rw [if_pos hit]

/-- A replicated message whose identifier is not found ends like a synchronized one, unless it is
ignored. -/
theorem ingestReplica_of_miss {lookup : SqliteResult} {message : ChatMessage}
    {service : MessageService} (miss : contains lookup message.messageId service.store = false)
    (results : AddResults) :
    ingestReplica library lookup results message service =
      if (add results message service.store).1 = .ok false then
        (.ok true, publish library message
          { service with store := (add results message service.store).2 })
      else ingestSync library results message service := by
  -- Only the answer false is treated differently.
  unfold ingestReplica ingestSync
  rw [if_neg (by simp [miss])]
  generalize add results message service.store = call
  obtain ⟨result, store⟩ := call
  cases result with
  | error error => simp
  | ok inserted => cases inserted <;> simp

/-- A message whose identifier is found collides with a row. -/
theorem not_fresh_of_contains {lookup : SqliteResult} {message : ChatMessage}
    {store : MessageStore} (hit : contains lookup message.messageId store = true) :
    ¬store.database.messages.Fresh message := by
  -- The row that was found has the identifier of the message.
  intro fresh
  simp only [contains, Bool.and_eq_true, List.any_eq_true, beq_iff_eq] at hit
  obtain ⟨_, row, member, same⟩ := hit
  exact (fresh row member).1 same

/-- A row with the message's identifier makes pruning change the table. -/
theorem rows_prune_ne_of_contains {lookup : SqliteResult} {messageId : Bytes}
    {store : MessageStore} (hit : contains lookup messageId store = true) :
    store.database.prune.rows ≠ store.database.rows := by
  simp only [contains, Bool.and_eq_true, List.any_eq_true] at hit
  obtain ⟨_, row, member, _⟩ := hit
  -- Dropping a hundred rows shortens a table that has one.
  intro same
  have lengths := congrArg List.length same
  have positive := List.length_pos_of_mem member
  rw [Database.rows_prune, List.length_drop] at lengths
  omega

/-- With the identifier found, both ways end alike exactly when the first attempt succeeds. -/
theorem ingestSync_eq_of_hit {lookup : SqliteResult} {message : ChatMessage}
    {service : MessageService} (hit : contains lookup message.messageId service.store = true)
    (results : AddResults) :
    (.ok false, service) = ingestSync library results message service ↔
      results.first.outcome message service.store.database = .ok := by
  have collides := not_fresh_of_contains hit
  have answer := ingestSync_result library results message service
  have left := ingestSync_store library results message service
  constructor
  · intro same
    rw [← same] at answer left
    rcases (add_false_iff results message service.store).mp answer.symm with
      ⟨first, _⟩ | ⟨first, prune, read, second, collided⟩
    · exact first
    · -- An answer after pruning leaves the table shorter than it was.
      rw [add_of_retry first prune read second, MessageStore.accept_of_collision collided] at left
      have rows := congrArg (fun store => store.database.rows) left
      exact absurd rows.symm (rows_prune_ne_of_contains hit)
  · intro first
    -- The first attempt ignores the message, so nothing changes.
    unfold ingestSync
    rw [add_of_first first, MessageStore.accept_of_collision collides]

/--
Replication and synchronization ingest a message alike exactly when neither shortcut shows: a known
identifier is answered before the insert could have failed, and a new one is answered without
looking at what the insert did.
-/
theorem ingestAlike_iff (lookup : SqliteResult) (results : AddResults) (message : ChatMessage)
    (service : MessageService) :
    IngestAlike library lookup results message service ↔
      if contains lookup message.messageId service.store then
        results.first.outcome message service.store.database = .ok
      else ¬Ignores results message service.store := by
  have synchronized := ingestSync_reported library results message service
  unfold IngestAlike
  cases hit : contains lookup message.messageId service.store with
  | true =>
    rw [if_pos rfl, ← ingestSync_eq_of_hit library hit, ingestReplica_of_hit library hit]
    -- Ending alike makes the replicated message reported like the synchronized one.
    constructor
    · exact fun alike => alike.1
    · exact fun same => ⟨same, same ▸ synchronized, synchronized⟩
  | false =>
    have replicated := ingestReplica_of_miss library hit results
    rw [if_neg Bool.false_ne_true, ← add_false_iff]
    constructor
    · intro alike ignored
      rw [if_pos ignored] at replicated
      -- A message that was ignored is answered with true by one and with false by the other.
      have answers := congrArg Prod.fst (replicated.symm.trans alike.1)
      rw [ingestSync_result, ignored] at answers
      simp at answers
    · intro inserted
      rw [if_neg inserted] at replicated
      rw [replicated]
      exact ⟨rfl, synchronized, synchronized⟩

end Paths

/--
Two authors' numbering has gone wrong once: the second message has an identifier of its own and the
key of the first, so replication announces a message that synchronization calls a duplicate.
-/
theorem ingestAlike_sameKey :
    let message (identifier body : String) : ChatMessage :=
      ⟨1, ascii identifier, ascii "a", ascii "Alice", defaultChannel, 0, ascii body⟩
    let service := (ingestReplica plainJsonC .ok {} (message "a:1" "first")
      (MessageService.initial ⟨ascii "b", ascii "Bob"⟩)).2
    parseMessage (messageToJson (message "a:1" "first")) = some (message "a:1" "first") ∧
      parseMessage (messageToJson (message "x" "second")) = some (message "x" "second") ∧
      ¬IngestAlike plainJsonC .ok {} (message "x" "second") service := by
  -- The identifiers differ, so the lookup misses what the insertion collides with.
  intro message service
  refine ⟨by decide +kernel, by decide +kernel, fun alike => ?_⟩
  have answers := congrArg Prod.fst alike.1
  exact absurd answers (by decide +kernel)

end LesChat
