import LesChat.Service.MessageService
import LesChat.Store.Consistency

/-! What each operation of the message service does, in terms of the store call it makes. -/

namespace LesChat

open Foundation

section Operations

variable (library : JsonC)

/-- The message a call of `create_local` builds. -/
def MessageService.nextMessage (service : MessageService) (now : Int64) (body : Bytes) :
    ChatMessage :=
  localMessage service.identity service.nextSequence now body

/-- A local call returns its message exactly when the store call returns. -/
theorem createLocal_result (now : Int64) (results : AddResults) (body : Bytes)
    (service : MessageService) : (createLocal library now results body service).1 =
      (add results (service.nextMessage now body) service.store).1.map
        fun _ => service.nextMessage now body := by
  -- Every branch repeats what the store call ended with.
  unfold createLocal MessageService.nextMessage
  dsimp only
  split <;> (rename_i call; rw [call]; rfl)

/-- A local call leaves the store as the store call does. -/
@[simp] theorem createLocal_store (now : Int64) (results : AddResults) (body : Bytes)
    (service : MessageService) : (createLocal library now results body service).2.store =
      (add results (service.nextMessage now body) service.store).2 := by
  unfold createLocal MessageService.nextMessage
  dsimp only
  -- Publishing and replicating touch the other fields only.
  split <;> (rename_i call; simp only [call, publish, replicate])

/-- A local call keeps the identity. -/
@[simp] theorem createLocal_identity (now : Int64) (results : AddResults) (body : Bytes)
    (service : MessageService) :
    (createLocal library now results body service).2.identity = service.identity := by
  -- Both branches keep the identity.
  unfold createLocal
  dsimp only
  split <;> rfl

/-- A local call moves the counter on, whether it returns or throws. -/
@[simp] theorem createLocal_nextSequence (now : Int64) (results : AddResults) (body : Bytes)
    (service : MessageService) : (createLocal library now results body service).2.nextSequence =
      (service.nextSequence + 1) % 2 ^ 64 := by
  -- The counter moves on in both branches, also when the store fails.
  unfold createLocal
  dsimp only
  split <;> rfl

/-- A local call broadcasts its message exactly when it returns. -/
theorem createLocal_broadcasts (now : Int64) (results : AddResults) (body : Bytes)
    (service : MessageService) : (createLocal library now results body service).2.broadcasts =
      match (createLocal library now results body service).1 with
      | .ok message => service.broadcasts ++ [serializeJson library (messageToJson message)]
      | .error _ => service.broadcasts := by
  -- Only the branch that succeeds broadcasts.
  unfold createLocal
  dsimp only
  split <;> rfl

/-- Only a returned store call makes a local call return, and then with the message built. -/
theorem createLocal_ok {now : Int64} {results : AddResults} {body : Bytes}
    {service : MessageService} {message : ChatMessage}
    (returned : (createLocal library now results body service).1 = .ok message) :
    message = service.nextMessage now body ∧
      ∃ inserted, (add results (service.nextMessage now body) service.store).1 = .ok inserted := by
  -- An exception of the store call would have been thrown on.
  rw [createLocal_result] at returned
  cases call : (add results (service.nextMessage now body) service.store).1 with
  | error error => simp [call, Except.map] at returned
  | ok inserted =>
    simp only [call, Except.map, Except.ok.injEq] at returned
    exact ⟨returned.symm, inserted, rfl⟩

/-- Replicated messages leave the store alone when they are known, and are added otherwise. -/
@[simp] theorem ingestReplica_store (lookup : SqliteResult) (results : AddResults)
    (message : ChatMessage) (service : MessageService) :
    (ingestReplica library lookup results message service).2.store =
      if contains lookup message.messageId service.store then service.store
      else (add results message service.store).2 := by
  -- Publishing leaves the store alone.
  unfold ingestReplica
  split
  · rfl
  · split <;> (rename_i call; simp only [call, publish])

/-- Replicated messages keep the identity. -/
@[simp] theorem ingestReplica_identity (lookup : SqliteResult) (results : AddResults)
    (message : ChatMessage) (service : MessageService) :
    (ingestReplica library lookup results message service).2.identity = service.identity := by
  -- No branch touches the identity.
  unfold ingestReplica
  split
  · rfl
  · split <;> rfl

/-- Replicated messages leave the counter alone, whatever their origin. -/
@[simp] theorem ingestReplica_nextSequence (lookup : SqliteResult) (results : AddResults)
    (message : ChatMessage) (service : MessageService) :
    (ingestReplica library lookup results message service).2.nextSequence =
      service.nextSequence := by
  -- Numbers are taken for local messages only.
  unfold ingestReplica
  split
  · rfl
  · split <;> rfl

/-- Replicated messages are not broadcast again. -/
@[simp] theorem ingestReplica_broadcasts (lookup : SqliteResult) (results : AddResults)
    (message : ChatMessage) (service : MessageService) :
    (ingestReplica library lookup results message service).2.broadcasts = service.broadcasts := by
  -- What was received is published, and not broadcast.
  unfold ingestReplica
  split
  · rfl
  · split <;> rfl

/-- Synchronized messages are added. -/
@[simp] theorem ingestSync_store (results : AddResults) (message : ChatMessage)
    (service : MessageService) : (ingestSync library results message service).2.store =
      (add results message service.store).2 := by
  -- Publishing leaves the store alone.
  unfold ingestSync
  split <;> (rename_i call; simp only [call, publish])

/-- Synchronized messages count as accepted exactly when they were inserted. -/
theorem ingestSync_result (results : AddResults) (message : ChatMessage)
    (service : MessageService) : (ingestSync library results message service).1 =
      (add results message service.store).1 := by
  unfold ingestSync
  -- Both booleans are handed on as they are.
  split <;> (rename_i call; rw [call])

/-- Synchronized messages keep the identity. -/
@[simp] theorem ingestSync_identity (results : AddResults) (message : ChatMessage)
    (service : MessageService) :
    (ingestSync library results message service).2.identity = service.identity := by
  -- No branch touches the identity.
  unfold ingestSync
  split <;> rfl

/-- Synchronized messages leave the counter alone, whatever their origin. -/
@[simp] theorem ingestSync_nextSequence (results : AddResults) (message : ChatMessage)
    (service : MessageService) :
    (ingestSync library results message service).2.nextSequence = service.nextSequence := by
  -- Numbers are taken for local messages only.
  unfold ingestSync
  split <;> rfl

/-- Synchronized messages are not broadcast again. -/
@[simp] theorem ingestSync_broadcasts (results : AddResults) (message : ChatMessage)
    (service : MessageService) :
    (ingestSync library results message service).2.broadcasts = service.broadcasts := by
  -- What was received is published, and not broadcast.
  unfold ingestSync
  split <;> rfl

end Operations

/-- A store that opens has cached every row of its file. -/
theorem openStore_ok {reload : Option Nat} {database : Database} {store : MessageStore}
    (opened : openStore reload database = .ok store) : store = ⟨database, database.rows⟩ := by
  unfold openStore at opened
  split at opened
  -- The load ran to its end, so the cache is the whole table.
  · rename_i loaded loading
    simp only [Except.ok.injEq] at opened
    rw [← opened, loadMessages_ok loading]
  · simp at opened

/-- A service that opens runs under its identity, on all the rows, from the counter it read. -/
theorem openService_ok {identity : NodeIdentity} {reload : Option Nat} {lookup : SqliteResult}
    {database : Database} {service : MessageService}
    (opened : openService identity reload lookup database = .ok service) :
    service.identity = identity ∧ service.store = ⟨database, database.rows⟩ ∧
      nextSequence lookup identity.nodeId database = .ok service.nextSequence := by
  -- The store is opened first, then the mark is read from it.
  unfold openService at opened
  obtain ⟨store, opening, opened⟩ := bind_eq_ok opened
  obtain ⟨next, reading, opened⟩ := bind_eq_ok opened
  simp only [pure, Except.pure, Except.ok.injEq] at opened
  subst opened
  have all := openStore_ok opening
  subst all
  exact ⟨rfl, rfl, reading⟩

/-- A service that opened has neither published nor broadcast anything. -/
theorem openService_silent {identity : NodeIdentity} {reload : Option Nat} {lookup : SqliteResult}
    {database : Database} {service : MessageService}
    (opened : openService identity reload lookup database = .ok service) :
    service.published = [] ∧ service.broadcasts = [] := by
  -- Both records are empty in the service that is built.
  unfold openService at opened
  obtain ⟨store, _, opened⟩ := bind_eq_ok opened
  obtain ⟨next, _, opened⟩ := bind_eq_ok opened
  simp only [pure, Except.pure, Except.ok.injEq] at opened
  subst opened
  exact ⟨rfl, rfl⟩

/-- Starting the daemon leaves its file alone. -/
@[simp] theorem startProcess_database (identity : NodeIdentity) (reload : Option Nat)
    (lookup : SqliteResult) (database : Database) :
    (startProcess identity reload lookup database).database = database := by
  unfold startProcess
  split
  · rename_i service opened
    -- A service that opened has the file it was given, and one that did not leaves it.
    simp only [Process.database, (openService_ok opened).2.1]
  · rfl

/-- A started daemon runs a service that opened. -/
theorem startProcess_running {identity : NodeIdentity} {reload : Option Nat}
    {lookup : SqliteResult} {database : Database} {service : MessageService}
    (running : startProcess identity reload lookup database = .running service) :
    openService identity reload lookup database = .ok service := by
  -- A process that runs has opened its database.
  unfold startProcess at running
  split at running
  · rename_i opened
    simp only [Process.running.injEq] at running
    rw [opened, running]
  · simp at running

end LesChat
