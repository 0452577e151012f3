import LesChat.Service.IngestPaths

/-! The calls by which messages get into the store of a daemon, and the events they publish. -/

namespace LesChat

open Foundation

/-- A call of the service that can store a message. -/
inductive ServiceCall where
  /-- A local message. -/
  | createLocal (now : Int64) (results : AddResults) (body : Bytes)
  /-- A replicated message. -/
  | ingestReplica (lookup : SqliteResult) (results : AddResults) (message : ChatMessage)
  /-- A synchronized message. -/
  | ingestSync (results : AddResults) (message : ChatMessage)

namespace ServiceCall

variable (library : JsonC)

/-- The service after a call. -/
def after (service : MessageService) : ServiceCall → MessageService
  | .createLocal now results body => (LesChat.createLocal library now results body service).2
  | .ingestReplica lookup results message =>
    (LesChat.ingestReplica library lookup results message service).2
  | .ingestSync results message => (LesChat.ingestSync library results message service).2

/-- The message a call publishes, if it publishes one. -/
def event (service : MessageService) : ServiceCall → Option ChatMessage
  | .createLocal now results body =>
    -- A local message is published whenever the call returns, inserted or not.
    (LesChat.createLocal library now results body service).1.toOption
  | .ingestReplica lookup results message =>
    if (LesChat.ingestReplica library lookup results message service).1.toOption = some true then
      some message
    else none
  | .ingestSync results message =>
    if (LesChat.ingestSync library results message service).1.toOption = some true then some message
    else none

variable {library} {service : MessageService}

/-- A call publishes the text of its event. -/
theorem published_after (call : ServiceCall) :
    (call.after library service).published = service.published ++
      (call.event library service).toList.map fun message =>
        serializeJson library (messageToJson message) := by
  -- Each call publishes in the branches in which it has an event.
  cases call with
  | createLocal now results body =>
    simp only [after, event, LesChat.createLocal]
    split <;> simp [publish, replicate, Except.toOption]
  | ingestReplica lookup results message =>
    simp only [after, event, LesChat.ingestReplica]
    split
    · simp [Except.toOption]
    · split <;> simp [publish, Except.toOption]
  | ingestSync results message =>
    have answer := ingestSync_result library results message service
    simp only [after, event, answer]
    unfold LesChat.ingestSync
    cases ended : add results message service.store with
    | mk result store =>
      cases result with
      | error error => simp [Except.toOption]
      | ok inserted => cases inserted <;> simp [publish, Except.toOption]

/-- Every call keeps the store sound. -/
theorem sound_after (sound : service.store.Sound) (call : ServiceCall) :
    (call.after library service).store.Sound := by
  -- A call leaves the store alone, or as an `add` left it.
  cases call with
  | createLocal now results body =>
    rw [after, createLocal_store]
    exact (add_added _ _ _).sound sound
  | ingestReplica lookup results message =>
    rw [after, ingestReplica_store]
    split
    · exact sound
    · exact (add_added _ _ _).sound sound
  | ingestSync results message =>
    rw [after, ingestSync_store]
    exact (add_added _ _ _).sound sound

/-- What a call does to the rows: it stores its event, or it stores nothing. -/
inductive Stored (before after : MessageService) : Option ChatMessage → Prop where
  /-- Nothing is stored, and rows may have been pruned. -/
  | nothing (event : Option ChatMessage)
    (kept : ∀ row ∈ after.store.database.rows, row ∈ before.store.database.rows) :
    Stored before after event
  /-- A message is stored and published. -/
  | one (message : ChatMessage) (new : NewlyStored message before after)
    (listed : message ∈ after.store.database.rows)
    (kept : ∀ row ∈ after.store.database.rows,
      row ∈ before.store.database.rows ∨ row = message) :
    Stored before after (some message)

/-- An `add` stores its message when it returns true, and nothing otherwise. -/
theorem stored_of_added {results : AddResults} {message : ChatMessage}
    {result : Except StoreError Bool} {after : MessageService} {event : Option ChatMessage}
    (added : Added results message service.store result after.store)
    (published : result = .ok true → event = some message) : Stored service after event := by
  -- Of the four ways to end, only one stores the message.
  have committed := added.committed_eq
  generalize left : after.store = store at added
  cases added with
  | failed error => exact .nothing event fun row member => by rwa [left] at member
  | failedAfterPruning error loaded read complete =>
    refine .nothing event fun row member => ?_
    rw [left] at member
    exact Database.mem_rows_prune member
  | stored base cleared inRange fresh =>
    rw [published rfl]
    refine .one message (by rwa [if_pos rfl] at committed) ?_ fun row member => ?_
    · rw [left, Database.rows_store]
      exact List.mem_append_right _ (List.mem_singleton_self message)
    · rw [left, Database.rows_store] at member
      rcases List.mem_append.mp member with old | new
      · exact .inl (cleared.mem_rows old)
      · exact .inr (List.mem_singleton.mp new)
  | ignored base cleared inRange collides =>
    refine .nothing event fun row member => ?_
    rw [left] at member
    exact cleared.mem_rows member

/-- Every call stores its event, or it stores nothing. -/
theorem stored_after (call : ServiceCall) :
    Stored service (call.after library service) (call.event library service) := by
  -- Each call ends in an `add` of its message, unless the identifier was found.
  cases call with
  | createLocal now results body =>
    have added := add_added results (service.nextMessage now body) service.store
    rw [← createLocal_store library] at added
    refine stored_of_added added fun inserted => ?_
    rw [event, createLocal_result, inserted]
    rfl
  | ingestReplica lookup results message =>
    cases known : contains lookup message.messageId service.store with
    | true =>
      refine .nothing _ fun row member => ?_
      rwa [after, ingestReplica_of_hit library known] at member
    | false =>
      have added := add_added results message service.store
      have store := ingestReplica_store library lookup results message service
      rw [known, if_neg Bool.false_ne_true] at store
      rw [← store] at added
      refine stored_of_added added fun inserted => ?_
      have answer := ingestReplica_of_miss library known results
      rw [if_neg (by simp [inserted])] at answer
      rw [event, answer, ingestSync_result, inserted]
      rfl
  | ingestSync results message =>
    have added := add_added results message service.store
    rw [← ingestSync_store library] at added
    refine stored_of_added added fun inserted => ?_
    rw [event, ingestSync_result, inserted]
    rfl

end ServiceCall

end LesChat
