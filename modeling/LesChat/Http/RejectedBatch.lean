import LesChat.Http.HttpApiLaws
import LesChat.Store.Attempts
import LesChat.Sync.SyncRound

/-! What a batch with a rejected element leaves behind, and what the answer to any other counts. -/

namespace LesChat

open Foundation

section Steps

variable (library : JsonC)

/-- A service has published more, or published the same and lost rows. -/
def Progressed (before after : MessageService) : Prop :=
  before.published.length < after.published.length ∨
    before.published.length = after.published.length ∧
      after.store.database.rows.length < before.store.database.rows.length

/-- Progress adds up. -/
theorem Progressed.trans {first second third : MessageService} (earlier : Progressed first second)
    (later : Progressed second third) : Progressed first third := by
  -- Both count upwards.
  unfold Progressed at *
  omega

/-- The message collides with a row, and the insertion does not fail. -/
def Repeats (results : AddResults) (message : ChatMessage) (database : Database) : Prop :=
  results.first.outcome message database = .ok ∧ ¬database.messages.Fresh message

/-- An `add` that returns leaves everything alone for a repeated message, or makes progress. -/
theorem ingestSync_returned {results : AddResults} {message : ChatMessage}
    {service : MessageService} {inserted : Bool}
    (returned : (ingestSync library results message service).1 = .ok inserted) :
    (ingestSync library results message service).2 = service ∧
        Repeats results message service.store.database ∨
      Progressed service (ingestSync library results message service).2 := by
  have ended := add_ended results message service.store
  rw [ingestSync_result] at returned
  unfold ingestSync
  generalize add results message service.store = call at ended returned ⊢
  obtain ⟨result, after⟩ := call
  cases ended with
  | failed error first => simp at returned
  | unpruned error first prune => simp at returned
  | unloaded error loaded first prune unread read => simp at returned
  | refused error first prune read second => simp at returned
  | returned first =>
    by_cases fresh : service.store.database.messages.Fresh message
    · right
      left
      simp [MessageStore.accept, fresh, publish]
    · left
      simp only [MessageStore.accept, fresh, dif_neg, not_false_eq_true]
      exact ⟨trivial, first, fresh⟩
  | retried first prune read second =>
    right
    by_cases fresh : service.store.pruned.database.messages.Fresh message
    · left
      simp [MessageStore.accept, fresh, publish]
    · -- A row was left to collide with, so a hundred others were removed.
      right
      simp only [MessageStore.accept, fresh, dif_neg, not_false_eq_true, true_and]
      simp only [MessageStore.pruned, Table.Fresh, not_forall] at fresh
      obtain ⟨row, kept, _⟩ := fresh
      have left : row ∈ service.store.database.rows.drop 100 :=
        Database.rows_prune _ ▸ kept
      have length := List.length_pos_of_mem left
      rw [List.length_drop] at length
      simp only [MessageStore.pruned, Database.rows_prune, List.length_drop]
      omega

end Steps

section Batch

variable (library : JsonC) (results : Nat → AddResults)

/-- The service after the messages of a batch, from an index on. -/
def ingestMessages : List ChatMessage → (index : Nat) → MessageService → MessageService
  | [], _, service => service
  | message :: rest, index, service =>
    ingestMessages rest (index + 1) (ingestSync library (results index) message service).2

/-- Messages that all return leave everything alone when each is repeated, or make progress. -/
theorem ingestMessages_returned {messages : List ChatMessage} {index : Nat}
    {service : MessageService} (returns : AddsReturn library results messages index service) :
    (ingestMessages library results messages index service = service ∧
        ∀ entry ∈ messages.zipIdx index,
          Repeats (results entry.2) entry.1 service.store.database) ∨
      Progressed service (ingestMessages library results messages index service) := by
  -- The induction follows the batch: progress that was made once is not undone.
  induction messages generalizing index service with
  | nil => simp [ingestMessages]
  | cons message rest ih =>
    obtain ⟨⟨inserted, returned⟩, later⟩ := returns
    rw [ingestMessages]
    rcases ingestSync_returned library returned with ⟨same, repeated⟩ | progressed
    · rw [same] at later ⊢
      refine (ih later).imp_left fun rest => ⟨rest.1, ?_⟩
      rw [List.zipIdx_cons, List.forall_mem_cons]
      exact ⟨repeated, rest.2⟩
    · right
      rcases ih later with ⟨same, _⟩ | more
      · rw [same]
        exact progressed
      · exact progressed.trans more

/-- Messages that are all repeated leave everything alone. -/
theorem ingestMessages_repeated {messages : List ChatMessage} {index : Nat}
    {service : MessageService} (repeated : ∀ entry ∈ messages.zipIdx index,
      Repeats (results entry.2) entry.1 service.store.database) :
    ingestMessages library results messages index service = service := by
  -- The induction follows the batch, whose every message collides.
  induction messages generalizing index with
  | nil => rfl
  | cons message rest ih =>
    rw [List.zipIdx_cons, List.forall_mem_cons] at repeated
    obtain ⟨⟨first, collides⟩, later⟩ := repeated
    have same : (ingestSync library (results index) message service).2 = service := by
      unfold ingestSync
      rw [add_of_first first]
      simp [MessageStore.accept, collides]
    rw [ingestMessages, same]
    exact ih later

/-- How the loop over a batch ends, by its elements and by what their calls do. -/
theorem ingestItems_ended (items : List Json) (index accepted : Nat) (service : MessageService) :
    let handled := ingestItems library results items index accepted service
    handled.1 = internalError ∧ ¬AddsReturn library results (acceptedItems items) index service ∨
      AddsReturn library results (acceptedItems items) index service ∧
      handled.2 = ingestMessages library results (acceptedItems items) index service ∧
      ((∃ item ∈ items, parseMessage item = none) ∧
          handled.1 = badRequest (errorBody "invalid_sync_message") ∨
        (∀ item ∈ items, parseMessage item ≠ none) ∧
          ∃ stored : List ChatMessage, stored.Sublist (acceptedItems items) ∧
            handled.2.store.database.committed = service.store.database.committed ++ stored ∧
            handled.1 = acceptedResponse (accepted + stored.length)) := by
  -- The induction follows the loop, with what was counted before.
  induction items generalizing index accepted service with
  | nil =>
    right
    exact ⟨trivial, rfl, .inr ⟨by simp, [], List.Sublist.refl _, by simp [ingestItems], rfl⟩⟩
  | cons item rest ih =>
    unfold acceptedItems ingestItems
    cases parsed : parseMessage item with
    | none =>
      right
      exact ⟨trivial, rfl, .inl ⟨⟨item, by simp, parsed⟩, rfl⟩⟩
    | some message =>
      have committed := (add_added (results index) message service.store).committed_eq
      rw [← ingestSync_result library, ← ingestSync_store library] at committed
      cases call : ingestSync library (results index) message service with
      | mk outcome next =>
        cases outcome with
        | error error => simp [call, AddsReturn]
        | ok inserted =>
          have here : next.store.database.committed = service.store.database.committed ++
              if inserted then [message] else [] := by
            simpa [call] using committed
          simp only [call, AddsReturn, ingestMessages, Except.ok.injEq, exists_eq', true_and]
          rcases ih (index + 1) (if inserted then accepted + 1 else accepted) next with
            failed | ⟨returns, same, rejected | ⟨valid, stored, sublist, history, answer⟩⟩
          · exact .inl failed
          · obtain ⟨⟨bad, member, refused⟩, answer⟩ := rejected
            exact .inr ⟨returns, same, .inl ⟨⟨bad, by simp [member], refused⟩, answer⟩⟩
          · refine .inr ⟨returns, same, .inr ⟨?_, ?_⟩⟩
            · rw [List.forall_mem_cons]
              exact ⟨by simp [parsed], valid⟩
            · -- The message counts when it was inserted.
              cases inserted with
              | true =>
                refine ⟨message :: stored, sublist.cons_cons message, ?_, ?_⟩
                · exact history.trans (by simp [here])
                · rw [answer, List.length_cons]
                  simp only [if_true]
                  congr 1
                  omega
              | false =>
                refine ⟨stored, sublist.cons message, ?_, ?_⟩
                · exact history.trans (by simp [here])
                · rw [answer]
                  rfl

/-- The elements of the batch a request carries, unless it is refused as a whole. -/
def requestItems (request : HttpRequest) : Option (List Json) :=
  match readJsonObject library request maxSyncRequestBytes true
      (errorBody "invalid_sync_messages") with
  | .error _ => none
  | .ok parsed => batchItems parsed

/-- A request without a batch is refused and leaves everything alone. -/
theorem syncMessages_refused {request : HttpRequest} (refused : requestItems library request = none)
    (service : MessageService) :
    (syncMessages library results request service).2 = service ∧
      (syncMessages library results request service).1.status ≠ 200 := by
  -- Reading the request fails in one of three ways, and none is a success.
  unfold requestItems at refused
  unfold syncMessages
  cases reading : readJsonObject library request maxSyncRequestBytes true
      (errorBody "invalid_sync_messages") with
  | error response =>
    rcases readJsonObject_status library reading with rfl | rfl | rfl <;>
      simp [unsupportedMediaType, requestTooLarge, payloadTooLarge, badRequest]
  | ok parsed =>
    rw [reading] at refused
    simp only at refused
    simp [refused, badRequest]

/-- A request with a batch runs the loop over it. -/
theorem syncMessages_items {request : HttpRequest} {items : List Json}
    (batch : requestItems library request = some items) (service : MessageService) :
    syncMessages library results request service =
      ingestItems library results items 0 0 service := by
  -- The request is read, and its items are looped over.
  unfold requestItems at batch
  unfold syncMessages
  cases reading : readJsonObject library request maxSyncRequestBytes true
      (errorBody "invalid_sync_messages") with
  | error response => simp [reading] at batch
  | ok parsed =>
    rw [reading] at batch
    simp only at batch
    simp [batch]

/-- The rows, the marks, the cache and the events of a service are what they were before. -/
structure Unchanged (before after : MessageService) : Prop where
  /-- No row was added or removed. -/
  rows : after.store.database.rows = before.store.database.rows
  /-- No mark was moved. -/
  marks : after.store.database.sequences = before.store.database.sequences
  /-- The cache lists the same messages. -/
  cache : after.store.messages = before.store.messages
  /-- Nothing was published. -/
  published : after.published = before.published

/-- A service is what it was. -/
theorem Unchanged.refl (service : MessageService) : Unchanged service service :=
  ⟨rfl, rfl, rfl, rfl⟩

/-- A service that made progress has changed. -/
theorem Progressed.not_unchanged {before after : MessageService}
    (progressed : Progressed before after) : ¬Unchanged before after := by
  -- A row or an event more is a change.
  intro unchanged
  unfold Progressed at progressed
  rw [unchanged.rows, unchanged.published] at progressed
  omega

/-- A rejected request has no effect, and an accepted one counts what it stored. -/
structure BatchAtomic (request : HttpRequest) (service : MessageService) : Prop where
  /-- An answer that rejects the request, or an element of it, leaves everything alone. -/
  rejected : let handled := syncMessages library results request service
    handled.1.status = 400 ∨ handled.1.status = 413 → Unchanged service handled.2
  /-- After any other answer that is no failure, the count is that of the messages stored. -/
  accepted : let handled := syncMessages library results request service
    handled.1.status = 200 → ∃ items stored, requestItems library request = some items ∧
      (∀ item ∈ items, parseMessage item ≠ none) ∧ stored.Sublist (acceptedItems items) ∧
      handled.2.store.database.committed = service.store.database.committed ++ stored ∧
      handled.1 = acceptedResponse stored.length

/--
A request has no effect when it is rejected, and counts what it stored when it is not, exactly when
either no element of its batch is rejected, or the `add` of an element before that throws, or
everything before it is repeated.
-/
theorem batchAtomic_iff (request : HttpRequest) (service : MessageService) :
    BatchAtomic library results request service ↔
      ∀ items, requestItems library request = some items →
        (∃ item ∈ items, parseMessage item = none) →
        AddsReturn library results (acceptedItems items) 0 service →
        ∀ entry ∈ (acceptedItems items).zipIdx,
          Repeats (results entry.2) entry.1 service.store.database := by
  constructor
  · intro atomic items batch rejects returns
    have unchanged := atomic.rejected
    rw [syncMessages_items library results batch service] at unchanged
    rcases ingestItems_ended library results items 0 0 service with
      ⟨_, thrown⟩ | ⟨_, same, ⟨_, answer⟩ | ⟨valid, _⟩⟩
    · exact absurd returns thrown
    · -- An answer with status 400 leaves no room for progress.
      have kept := unchanged (.inl (by rw [answer]; rfl))
      rw [same] at kept
      rcases ingestMessages_returned library results returns with ⟨_, repeated⟩ | progressed
      · exact repeated
      · exact absurd kept progressed.not_unchanged
    · obtain ⟨item, member, refused⟩ := rejects
      exact absurd refused (valid item member)
  · intro repeats
    cases batch : requestItems library request with
    | none =>
      obtain ⟨same, failure⟩ := syncMessages_refused library results batch service
      refine ⟨fun _ => ?_, fun success => absurd success failure⟩
      rw [same]
      exact .refl service
    | some items =>
      have handled := syncMessages_items library results batch service
      constructor <;> rw [handled] <;> dsimp only
      · -- Only a rejected element is answered with a status of the two.
        intro status
        rcases ingestItems_ended library results items 0 0 service with
          ⟨answer, _⟩ | ⟨returns, same, ⟨rejects, _⟩ | ⟨_, stored, _, _, answer⟩⟩
        · rw [answer] at status
          simp [internalError] at status
        · rw [same, ingestMessages_repeated library results (repeats items batch rejects returns)]
          exact .refl service
        · rw [answer] at status
          simp [acceptedResponse, okResponse] at status
      · intro success
        rcases ingestItems_ended library results items 0 0 service with
          ⟨answer, _⟩ | ⟨_, _, ⟨_, answer⟩ | ⟨valid, stored, sublist, history, answer⟩⟩
        · rw [answer] at success
          simp [internalError] at success
        · rw [answer] at success
          simp [badRequest] at success
        · rw [Nat.zero_add] at answer
          exact ⟨items, stored, batch, valid, sublist, history, answer⟩

/-- A good message in front of a bad one is stored and published, and the request rejected. -/
theorem batchAtomic_torn :
    let good : ChatMessage :=
      ⟨1, ascii "a:1", ascii "a", ascii "Alice", defaultChannel, 0, ascii "hi"⟩
    let bad : ChatMessage :=
      ⟨0, ascii "a:0", ascii "a", ascii "Alice", defaultChannel, 0, ascii "ho"⟩
    let request := jsonRequest
      (serializeJson plainJsonC (batchJson ([good, bad].map messageToJson)))
    let service := MessageService.initial ⟨ascii "b", ascii "Bob"⟩
    let handled := syncMessages plainJsonC (fun _ => {}) request service
    handled.1 = badRequest (errorBody "invalid_sync_message") ∧
      handled.2.store.messages = [good] ∧ handled.2.published.length = 1 ∧
      ¬BatchAtomic plainJsonC (fun _ => {}) request service := by
  intro good bad request service handled
  have small : (serializeJson plainJsonC (batchJson ([good, bad].map messageToJson))).length ≤
      maxSyncRequestBytes := by decide +kernel
  have reading := readJsonObject_serializeJson plainJsonC_lawful (plain_batchJson [good, bad])
    (by rw [batchJson_eq]; rfl) small true (errorBody "invalid_sync_messages")
  have items : requestItems plainJsonC request = some ([good, bad].map messageToJson) := by
    rw [requestItems, reading]
    exact batchItems_batchJson (by decide)
  -- The second item is refused when the first one is stored already.
  have loop := syncMessages_items plainJsonC (fun _ => {}) items service
  have answer : (ingestItems plainJsonC (fun _ => {}) ([good, bad].map messageToJson) 0 0
      service).1 = badRequest (errorBody "invalid_sync_message") := by decide +kernel
  have stored : (ingestItems plainJsonC (fun _ => {}) ([good, bad].map messageToJson) 0 0
      service).2.store.messages = [good] := by decide +kernel
  have events : (ingestItems plainJsonC (fun _ => {}) ([good, bad].map messageToJson) 0 0
      service).2.published.length = 1 := by decide +kernel
  have torn : ¬BatchAtomic plainJsonC (fun _ => {}) request service := by
    intro atomic
    have rejected := atomic.rejected
    rw [loop] at rejected
    generalize ingestItems plainJsonC (fun _ => {}) ([good, bad].map messageToJson) 0 0
      service = after at rejected answer events
    have unchanged := rejected (.inl (by rw [answer]; rfl))
    rw [unchanged.published] at events
    exact absurd events (by decide)
  simp only [handled, loop]
  exact ⟨answer, stored, events, torn⟩

end Batch

end LesChat
