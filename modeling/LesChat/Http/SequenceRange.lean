import LesChat.Http.Daemon

/-! When a daemon can always be restarted, and never runs out of sequences to send under. -/

namespace LesChat

open Foundation

/-- A message that takes this node's own counter to the end of its range. -/
def TopsOut (identity : NodeIdentity) (message : ChatMessage) : Prop :=
  message.origin = identity.nodeId ∧ message.sequence = maxInt64

/-- Whether a message tops out can be checked. -/
instance (identity : NodeIdentity) (message : ChatMessage) : Decidable (TopsOut identity message) :=
  inferInstanceAs (Decidable (_ ∧ _))

/--
The largest sequence is neither issued nor accepted for this node.

A local call is made while the counter is below it, and no accepted remote message carries it
together with this node's own identifier.
-/
def DaemonAction.BelowLimit (library : JsonC) (identity : NodeIdentity) (node : Node) :
    DaemonAction → Prop
  | .create _ _ _ => ∀ service ∈ node.process.service?, service.nextSequence < maxInt64
  | .replicate _ _ request =>
    ∀ message ∈ replicatedMessages library request, ¬TopsOut identity message
  | .synchronize _ request =>
    ∀ message ∈ synchronizedMessages library request, ¬TopsOut identity message
  | .restart _ _ => True

/-- Whether an action stays below the limit can be checked. -/
instance (library : JsonC) (identity : NodeIdentity) (node : Node) :
    DecidablePred (DaemonAction.BelowLimit library identity node)
  | .create _ _ _ =>
    inferInstanceAs (Decidable (∀ service ∈ node.process.service?, service.nextSequence < maxInt64))
  | .replicate _ _ request =>
    inferInstanceAs (Decidable (∀ message ∈ replicatedMessages library request, _))
  | .synchronize _ request =>
    inferInstanceAs (Decidable (∀ message ∈ synchronizedMessages library request, _))
  | .restart _ _ => isTrue trivial

/-- No local call of a service throws because of the range of its sequence. -/
def MessageService.CanSend (library : JsonC) (service : MessageService) : Prop :=
  ∀ now results body, (createLocal library now results body service).1 ≠ .error rangeError

/-- The daemon can be started on a file, and can send once it runs. -/
def Database.Restartable (library : JsonC) (identity : NodeIdentity) (database : Database) : Prop :=
  ∃ service, openService identity none .ok database = .ok service ∧ service.CanSend library

/-- What keeps a daemon restartable: own sequences stay below the limit of their column. -/
structure Node.InRange (identity : NodeIdentity) (node : Node) : Prop where
  /-- The process is sound. -/
  sound : node.process.Sound identity
  /-- Committed sequences start at one. -/
  positive : ∀ message ∈ node.process.database.committed, 1 ≤ message.sequence
  /-- The mark of the node itself has not reached the limit. -/
  mark : node.process.database.sequences.value identity.nodeId < maxInt64
  /-- The counter of a running service is a sequence that can be stored. -/
  counter : ∀ service, node.process = .running service →
    1 ≤ service.nextSequence ∧ service.nextSequence ≤ maxInt64

/-- A counter in range can be sent under. -/
theorem MessageService.canSend (library : JsonC) {service : MessageService}
    (inRange : service.nextSequence ≤ maxInt64) : service.CanSend library := by
  intro now results body thrown
  rw [createLocal_result] at thrown
  -- The local call throws what the store call throws.
  have kept : (add results (service.nextMessage now body) service.store).1 ≠ .error rangeError :=
    add_ne_rangeError inRange results service.store
  cases call : (add results (service.nextMessage now body) service.store).1 with
  | ok inserted => simp [call, Except.map] at thrown
  | error error =>
    simp only [call, Except.map, Except.error.injEq] at thrown
    exact kept (thrown ▸ call)

/-- A file whose own mark is below the limit can be started on. -/
theorem Node.InRange.restartable {identity : NodeIdentity} {node : Node} (library : JsonC)
    (inRange : node.InRange identity) : node.process.database.Restartable library identity := by
  have consistent := inRange.sound.consistent
  have opened : openStore none node.process.database =
      .ok ⟨node.process.database, node.process.database.rows⟩ := by
    -- Every row can be read back, since none has a sequence below one.
    rw [openStore, loadMessages_none fun row member =>
      inRange.positive row (consistent.committed_of_mem member)]
  -- The mark is read, and one more than it is still in range.
  have below := inRange.mark
  have reading : nextSequence .ok identity.nodeId node.process.database =
      .ok (node.process.database.sequences.value identity.nodeId + 1) := by
    simp only [nextSequence, Marks.value] at below ⊢
    cases mark : node.process.database.sequences.get? identity.nodeId with
    | none => rfl
    | some last =>
      simp only [mark, Option.getD_some] at below ⊢
      rw [if_neg (Nat.ne_of_lt below)]
  refine ⟨⟨identity, ⟨node.process.database, node.process.database.rows⟩, _, [], []⟩, ?_,
    MessageService.canSend library (Nat.succ_le_of_lt below)⟩
  simp only [openService, opened, reading, Bind.bind, Except.bind]
  rfl

/-- An `add` of a positive sequence keeps every committed sequence positive. -/
theorem add_positive (results : AddResults) {message : ChatMessage} {store : MessageStore}
    (positive : ∀ row ∈ store.database.committed, 1 ≤ row.sequence) (low : 1 ≤ message.sequence) :
    ∀ row ∈ (add results message store).2.database.committed, 1 ≤ row.sequence := by
  intro row member
  -- What is committed was committed before, or is the message.
  rw [(add_added results message store).committed_eq] at member
  rcases List.mem_append.mp member with old | new
  · exact positive row old
  · split at new
    · rw [List.mem_singleton.mp new]
      exact low
    · simp at new

/-- An `add` of another message than the topmost keeps the mark of the node below the limit. -/
theorem add_mark {identity : NodeIdentity} (results : AddResults) {message : ChatMessage}
    {store : MessageStore} (below : store.database.sequences.value identity.nodeId < maxInt64)
    (inRange : message.sequence ≤ maxInt64) (stays : ¬TopsOut identity message) :
    (add results message store).2.database.sequences.value identity.nodeId < maxInt64 := by
  rw [(add_added results message store).sequences_eq]
  split
  · -- Only a message of the node itself moves its mark.
    rw [Marks.value_raise]
    split
    · rename_i own
      have notTop : message.sequence ≠ maxInt64 := fun top => stays ⟨own, top⟩
      omega
    · exact below
  · exact below

/-- Ingesting a valid message other than the topmost keeps a daemon in range. -/
private theorem Node.InRange.ingested {identity : NodeIdentity} {service after : MessageService}
    {acknowledged : List ChatMessage}
    (inRange : Node.InRange identity ⟨.running service, acknowledged⟩)
    (sound : after.Sound identity) (counter : after.nextSequence = service.nextSequence)
    (results : AddResults) {message : ChatMessage} (valid : message.Valid)
    (stays : ¬TopsOut identity message)
    (stored : after.store = service.store ∨ after.store = (add results message service.store).2) :
    Node.InRange identity ⟨.running after, acknowledged⟩ where
  sound := sound
  positive := by
    -- The store is what it was, or what an `add` of the message left.
    have before := inRange.positive
    simp only [Process.database] at before ⊢
    rcases stored with same | added
    · rw [same]
      exact before
    · rw [added]
      exact add_positive results before valid.sequence_pos
  mark := by
    have before := inRange.mark
    simp only [Process.database] at before ⊢
    rcases stored with same | added
    · rw [same]
      exact before
    · rw [added]
      exact add_mark results before valid.sequence_le stays
  counter := by
    intro _ same
    cases same
    rw [counter]
    exact inRange.counter service rfl

/-- A local call below the limit keeps a daemon in range. -/
private theorem Node.InRange.created {identity : NodeIdentity} {node : Node} (library : JsonC)
    (inRange : node.InRange identity) {service : MessageService}
    (running : node.process = .running service) (below : service.nextSequence < maxInt64)
    (now : Int64) (results : AddResults) (body : Bytes) :
    (node.afterCreate (createLocal library now results body service)).InRange identity := by
  -- The message takes the number of the counter, which is below the limit.
  obtain ⟨process, acknowledged⟩ := node
  simp only at running
  subst running
  have sound : service.Sound identity := inRange.sound
  have soundAfter := sound.createLocal library now results body
  have low := (inRange.counter service rfl).1
  have stays : ¬TopsOut identity (service.nextMessage now body) :=
    fun top => Nat.ne_of_lt below top.2
  have positive : ∀ row ∈ (add results (service.nextMessage now body) service.store).2.database.committed,
      1 ≤ row.sequence := add_positive results inRange.positive low
  have mark := add_mark results inRange.mark (Nat.le_of_lt below) stays
  -- The counter moves on by one and stays within the range.
  have counter : (createLocal library now results body service).2.nextSequence =
      service.nextSequence + 1 := by
    rw [createLocal_nextSequence]
    simp only [maxInt64] at below
    omega
  rw [← createLocal_store library] at positive mark
  have after : ∀ acknowledged, Node.InRange identity
      ⟨.running (createLocal library now results body service).2, acknowledged⟩ := by
    intro acknowledged
    refine ⟨soundAfter, positive, mark, ?_⟩
    intro _ same
    cases same
    omega
  cases call : createLocal library now results body service with
  | mk outcome next =>
    rw [call] at after
    cases outcome <;> exact after _

/-- Every action below the limit keeps a daemon in range. -/
theorem daemonStep_inRange (library : JsonC) (identity : NodeIdentity) (node : Node)
    (action : DaemonAction) (inRange : node.InRange identity)
    (belowLimit : action.BelowLimit library identity node) :
    (daemonStep library identity node action).InRange identity := by
  refine daemonStep_keeps (Node.InRange identity) inRange ?_ ?_ ?_ ?_
  · intro now results parsed same service running body _
    subst same
    have below := belowLimit service (by rw [running]; rfl)
    exact inRange.created library running below now results body
  · intro lookup results request same service running message member
    subst same
    have here : Node.InRange identity ⟨.running service, node.acknowledged⟩ := running ▸ inRange
    refine here.ingested (MessageService.Sound.ingestReplica library here.sound lookup results
      message) (ingestReplica_nextSequence _ _ _ _ _) results
      (replicatedMessages_valid library member) (belowLimit message member) ?_
    -- A known message leaves the store alone, any other is added.
    rw [ingestReplica_store]
    split
    · exact .inl rfl
    · exact .inr rfl
  · intro results request same message member index service here
    subst same
    exact here.ingested (MessageService.Sound.ingestSync library here.sound (results index) message)
      (ingestSync_nextSequence _ _ _ _) (results index) (synchronizedMessages_valid library member)
      (belowLimit message member) (.inr (ingestSync_store _ _ _ _))
  · intro reload lookup same
    subst same
    refine ⟨startProcess_sound identity reload lookup inRange.sound.consistent, ?_, ?_, ?_⟩
    · simpa only [startProcess_database] using inRange.positive
    · simpa only [startProcess_database] using inRange.mark
    -- A daemon that starts reads its counter from the mark, and it is in range.
    · intro service running
      exact nextSequence_le inRange.sound.consistent (openService_ok (startProcess_running running)).2.2

/-- A daemon on a new file is in range. -/
theorem Node.initial_inRange (identity : NodeIdentity) : (Node.initial identity).InRange identity where
  sound := Node.initial_sound identity
  positive := by simp [Node.initial, MessageService.initial, Process.database, MessageStore.empty,
    Database.empty]
  mark := show 0 < maxInt64 by decide
  counter := by
    intro _ same
    -- The counter begins at one.
    cases same
    exact ⟨Nat.le_refl _, show 1 ≤ maxInt64 by decide⟩

/--
Below the limit, no run of requests stops a daemon from restarting or from sending.

The running service and every rebuilt one can send.
-/
theorem daemon_restartable (library : JsonC) (identity : NodeIdentity) {actions : List DaemonAction}
    (belowLimit : Guarded (daemonStep library identity)
      (fun node action => action.BelowLimit library identity node) (Node.initial identity) actions) :
    let node := run (daemonStep library identity) (Node.initial identity) actions
    node.process.database.Restartable library identity ∧
      ∀ service, node.process = .running service → service.CanSend library := by
  -- The invariant holds in every state of the run, and gives both results.
  intro node
  have inRange : node.InRange identity :=
    guarded_invariant (daemonStep_inRange library identity) belowLimit
      (Node.initial_inRange identity)
  exact ⟨inRange.restartable library,
    fun service running => MessageService.canSend library (inRange.counter service running).2⟩

/-- A daemon that accepted a message under its own name still restarts, and can still send. -/
theorem daemon_restartable_own :
    let identity : NodeIdentity := ⟨ascii "a", ascii "Alice"⟩
    let request := jsonRequest (serializeJson plainJsonC (messageToJson
      ⟨7, ascii "a:7", ascii "a", ascii "Eve", defaultChannel, 0, ascii "hi"⟩))
    let actions : List DaemonAction :=
      [.replicate .ok {} request, .restart none .ok, .create 1 {} (.object [(ascii "body",
        .string (ascii "hello"))])]
    let node := run (daemonStep plainJsonC identity) (Node.initial identity) actions
    node.process.database.Restartable plainJsonC identity ∧
      node.process.messages.map ChatMessage.sequence = [7, 8] :=
  -- The sequence that came from outside is the mark the restart reads.
  ⟨(daemon_restartable plainJsonC _ (by decide +kernel)).1, by decide +kernel⟩

/-- One accepted message with the largest sequence keeps the daemon from ever starting again. -/
theorem daemon_toppedOut :
    let identity : NodeIdentity := ⟨ascii "a", ascii "Alice"⟩
    let request := jsonRequest (serializeJson plainJsonC (messageToJson
      ⟨maxInt64, ascii "x", ascii "a", ascii "Eve", defaultChannel, 0, ascii "hi"⟩))
    let node := run (daemonStep plainJsonC identity) (Node.initial identity)
      [.replicate .ok {} request]
    (replicateMessage plainJsonC .ok {} request (MessageService.initial identity)).1 =
        okResponse (ascii (statusBody "accepted")) ∧
      ¬node.process.database.Restartable plainJsonC identity := by
  intro identity request node
  refine ⟨by decide +kernel, ?_⟩
  intro both
  obtain ⟨service, opened, _⟩ := both
  -- Opening needs the mark to be below the limit, and the message has raised it there.
  have below := (nextSequence_eq (openService_ok opened).2.2).2
  exact below (by decide +kernel)

end LesChat
