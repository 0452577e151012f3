import LesChat.Network.Agreement
import LesChat.Network.Recovery

/-! One node of an honest mesh: what it holds of its own messages, whatever it is asked to do. -/

namespace LesChat

open Foundation

/-- A message an honest mesh may bring: some node built it, and never this one without knowing. -/
def Brought (identity : NodeIdentity) (node : Node) (message : ChatMessage) : Prop :=
  Built message ∧ (message.origin = identity.nodeId → message ∈ node.acknowledged)

/-- What an honest mesh lets happen to a node whose counter does not wrap around. -/
def NodeAction.Honest (identity : NodeIdentity) (node : Node) : NodeAction → Prop
  | .create _ _ body => AcceptedBody body ∧
    ∀ service ∈ node.process.service?, service.nextSequence ≠ 2 ^ 64 - 1
  | .replica _ _ object | .sync _ object => ∀ message ∈ parseMessage object,
    Brought identity node message
  | .restart _ lookup => lookup = .ok

/-- A node of an honest mesh: what it ever stored under its own name, it has acknowledged. -/
structure Node.Honest (identity : NodeIdentity) (node : Node) : Prop where
  /-- What was acknowledged is sound. -/
  acknowledges : node.Acknowledges identity
  /-- Every message that was ever stored was built by some node. -/
  built : ∀ row ∈ node.process.database.committed, Built row
  /-- Those of this node were acknowledged by it. -/
  own : ∀ row ∈ node.process.database.committed, row.origin = identity.nodeId →
    row ∈ node.acknowledged

/-- A node on a new file is honest. -/
theorem Node.initial_honest (identity : NodeIdentity) :
    (Node.initial identity).Honest identity where
  -- A new file has no rows.
  acknowledges := Node.initial_acknowledges identity
  built := by simp [Node.initial, Process.database, MessageService.initial, MessageStore.empty,
    Database.empty]
  own := by simp [Node.initial, Process.database, MessageService.initial, MessageStore.empty,
    Database.empty]

section Actions

variable {identity : NodeIdentity} {node : Node}

/-- What a daemon has cached was stored by it. -/
theorem Node.Honest.cached (honest : node.Honest identity) :
    ∀ row ∈ node.process.messages, row ∈ node.process.database.committed := by
  -- A stopped daemon caches nothing, and a running one what it stored.
  intro row member
  have whole := honest.acknowledges.sound
  cases running : node.process with
  | stopped database => simp [running, Process.messages] at member
  | running service =>
    rw [running] at whole member
    exact MessageService.Sound.stored whole |>.committed_of_mem member

/-- Nothing an honest node ever stored has the identity that comes next. -/
theorem Node.Honest.fresh (honest : node.Honest identity) (accepted : identity.Accepted)
    {service : MessageService} (running : node.process = .running service) :
    ∀ row ∈ node.process.database.committed,
      row.messageId ≠ identity.nodeId ++ 0x3A :: decimal service.nextSequence ∧
        (row.origin, row.sequence) ≠ (identity.nodeId, service.nextSequence) := by
  intro row member
  -- A row of this node has a sequence the counter has passed.
  have passed : row.origin = identity.nodeId → row.sequence < service.nextSequence := fun named =>
    honest.acknowledges.passed service running row (honest.own row member named)
  constructor
  · intro sameId
    obtain ⟨author, authorAccepted, builtBy⟩ := honest.built row member
    rw [builtBy.messageId] at sameId
    -- The identifier names the node, and then the sequence.
    have named : author.nodeId = identity.nodeId :=
      messageId_nodeId ((checkIdentity_eq_ok author).mp authorAccepted.checked).1
        ((checkIdentity_eq_ok identity).mp accepted.checked).1 sameId
    have below := passed (builtBy.origin.trans named)
    rw [named] at sameId
    have same := messageId_injective identity.nodeId sameId
    omega
  · intro sameKey
    obtain ⟨named, same⟩ := Prod.mk.inj sameKey
    have below := passed named
    omega

/-- The next identity of an honest node is unclaimed while its counter does not wrap around. -/
theorem Node.Honest.unclaimed (honest : node.Honest identity) (accepted : identity.Accepted)
    {service : MessageService} (running : node.process = .running service)
    (unwrapped : service.nextSequence ≠ 2 ^ 64 - 1) : service.Unclaimed := by
  -- The next identity is fresh among everything that was ever stored.
  have sound : service.Sound identity := by
    have whole := honest.acknowledges.sound
    rwa [running] at whole
  refine ⟨unwrapped, fun row member => ?_⟩
  rw [sound.named]
  apply honest.fresh accepted running row
  rw [running]
  exact sound.stored.consistent.committed_of_mem member

/-- What an ingested message leaves of an honest node, when only that message was committed. -/
theorem Node.Honest.ingested {service after : MessageService} {acknowledged : List ChatMessage}
    {message : ChatMessage} (honest : Node.Honest identity ⟨.running service, acknowledged⟩)
    (brought : Brought identity ⟨.running service, acknowledged⟩ message)
    (acknowledges : Node.Acknowledges identity ⟨.running after, acknowledged⟩)
    (committed : ∀ row ∈ after.store.database.committed,
      row ∈ service.store.database.committed ∨ row = message) :
    Node.Honest identity ⟨.running after, acknowledged⟩ where
  acknowledges := acknowledges
  built := by
    -- The message is the only row that can be new.
    intro row member
    rcases committed row member with old | rfl
    · exact honest.built row old
    · exact brought.1
  own := by
    intro row member named
    rcases committed row member with old | rfl
    · exact honest.own row old named
    · exact brought.2 named

/-- An `add` commits nothing but its message. -/
theorem mem_committed_add {results : AddResults} {message : ChatMessage} {store : MessageStore}
    {row : ChatMessage} (member : row ∈ (add results message store).2.database.committed) :
    row ∈ store.database.committed ∨ row = message := by
  -- What is committed grows by the message or by nothing.
  rw [(add_added results message store).committed_eq] at member
  rcases List.mem_append.mp member with old | new
  · exact .inl old
  · split at new
    · exact .inr (List.mem_singleton.mp new)
    · simp at new

/-- A local call leaves an honest node honest, whatever it returns. -/
theorem Node.Honest.created {library : JsonC} {service : MessageService}
    {acknowledged : List ChatMessage}
    (honest : Node.Honest identity ⟨.running service, acknowledged⟩)
    (accepted : identity.Accepted) (unwrapped : service.nextSequence ≠ 2 ^ 64 - 1) (now : Int64)
    (results : AddResults) {body : Bytes} (acceptedBody : AcceptedBody body) :
    (Node.afterCreate ⟨.running service, acknowledged⟩
      (createLocal library now results body service)).Honest identity := by
  have unclaimed := honest.unclaimed accepted rfl unwrapped
  have sound : service.Sound identity := honest.acknowledges.sound
  have acknowledges :=
    @Node.Acknowledges.created library _ _ _ honest.acknowledges unclaimed now results body
  have result := createLocal_result library now results body service
  have store := createLocal_store library now results body service
  have added := add_added results (service.nextMessage now body) service.store
  cases call : createLocal library now results body service with
  | mk outcome after =>
    rw [call] at acknowledges result store
    simp only at result store
    have committed : after.store.database.committed = service.store.database.committed ++
        if (add results (service.nextMessage now body) service.store).1 = .ok true then
          [service.nextMessage now body] else [] := by
      rw [store]
      exact added.committed_eq
    -- Only the message that was built can be new, and it is acknowledged when it is.
    have new : ∀ row ∈ after.store.database.committed,
        row ∈ service.store.database.committed ∨ row = service.nextMessage now body ∧
          outcome = .ok row ∧ row.sequence ≤ maxInt64 := by
      intro row member
      rw [committed] at member
      rcases List.mem_append.mp member with old | fresh
      · exact .inl old
      · split at fresh
        · rename_i inserted
          obtain rfl := List.mem_singleton.mp fresh
          rw [inserted] at result added
          exact .inr ⟨rfl, result, added.inRange⟩
        · simp at fresh
    have builtBy : ∀ row, row = service.nextMessage now body → row.sequence ≤ maxInt64 →
        Built row := by
      rintro row rfl inRange
      refine ⟨identity, accepted, ?_, inRange, acceptedBody⟩
      rw [MessageService.nextMessage, sound.named]
      rfl
    cases outcome with
    | ok message =>
      refine ⟨acknowledges, fun row member => ?_, fun row member named => ?_⟩
      · rcases new row member with old | ⟨next, _, inRange⟩
        · exact honest.built row old
        · exact builtBy row next inRange
      · rcases new row member with old | ⟨_, same, _⟩
        · exact List.mem_append_left _ (honest.own row old named)
        · rw [Except.ok.inj same]
          exact List.mem_append_right _ (List.mem_singleton_self row)
    | error error =>
      refine ⟨acknowledges, fun row member => ?_, fun row member named => ?_⟩
      · rcases new row member with old | ⟨_, same, _⟩
        · exact honest.built row old
        · simp at same
      · rcases new row member with old | ⟨_, same, _⟩
        · exact honest.own row old named
        · simp at same

/-- Every honest action keeps a node honest. -/
theorem nodeStep_honest (library : JsonC) (accepted : identity.Accepted) (node : Node)
    (action : NodeAction) (honest : node.Honest identity) (allowed : action.Honest identity node) :
    (nodeStep library identity node action).Honest identity := by
  -- The cases follow the actions; a daemon that does not run ignores all but a restart.
  obtain ⟨process, acknowledged⟩ := node
  cases action with
  | restart reload lookup =>
    have read : lookup = .ok := allowed
    subst read
    refine ⟨honest.acknowledges.restarted reload, ?_, ?_⟩
    · simp only [nodeStep, startProcess_database]
      exact honest.built
    · simp only [nodeStep, startProcess_database]
      exact honest.own
  | create now results body =>
    cases process with
    | stopped database => exact honest
    | running service => exact honest.created accepted (allowed.2 service rfl) now results allowed.1
  | replica lookup results object =>
    cases process with
    | stopped database => exact honest
    | running service =>
      have sound : service.Sound identity := honest.acknowledges.sound
      cases parsed : parseMessage object with
      | none => simpa only [nodeStep, parsed] using honest
      | some message =>
        simp only [nodeStep, parsed]
        have committed : ∀ row, row ∈ (ingestReplica library lookup results message
            service).2.store.database.committed →
            row ∈ service.store.database.committed ∨ row = message := by
          intro row member
          rw [ingestReplica_store] at member
          split at member
          · exact .inl member
          · exact mem_committed_add member
        refine honest.ingested (allowed message parsed) ?_ committed
        refine honest.acknowledges.ingested (sound.ingestReplica library lookup results _)
          (ingestReplica_nextSequence _ _ _ _ _) ?_
        rw [ingestReplica_store]
        split
        · exact fun row member => member
        · exact add_committed_subset _ _ _
  | sync results object =>
    cases process with
    | stopped database => exact honest
    | running service =>
      have sound : service.Sound identity := honest.acknowledges.sound
      cases parsed : parseMessage object with
      | none => simpa only [nodeStep, parsed] using honest
      | some message =>
        simp only [nodeStep, parsed]
        have committed : ∀ row, row ∈ (ingestSync library results message
            service).2.store.database.committed →
            row ∈ service.store.database.committed ∨ row = message := by
          intro row member
          rw [ingestSync_store] at member
          exact mem_committed_add member
        refine honest.ingested (allowed message parsed) ?_ committed
        refine honest.acknowledges.ingested (sound.ingestSync library results _)
          (ingestSync_nextSequence _ _ _ _) ?_
        rw [ingestSync_store]
        exact add_committed_subset _ _ _

end Actions

/-- Nothing is taken back: what was stored or acknowledged stays so. -/
structure Node.Grows (before after : Node) : Prop where
  /-- What was stored. -/
  committed : before.process.database.committed ⊆ after.process.database.committed
  /-- What was acknowledged. -/
  acknowledged : before.acknowledged ⊆ after.acknowledged

/-- A node grows by nothing. -/
theorem Node.Grows.refl (node : Node) : node.Grows node := ⟨fun _ => id, fun _ => id⟩

/-- A local call takes nothing back. -/
theorem afterCreate_grows (library : JsonC) (now : Int64) (results : AddResults) (body : Bytes)
    (service : MessageService) (acknowledged : List ChatMessage) :
    Node.Grows ⟨.running service, acknowledged⟩
      (Node.afterCreate ⟨.running service, acknowledged⟩
        (createLocal library now results body service)) := by
  -- The store only commits, and the acknowledged messages grow at their end.
  have kept := add_committed_subset results (service.nextMessage now body) service.store
  rw [← createLocal_store library] at kept
  cases call : createLocal library now results body service with
  | mk outcome after =>
    rw [call] at kept
    cases outcome with
    | ok message => exact ⟨kept, fun row member => List.mem_append_left _ member⟩
    | error error => exact ⟨kept, fun row member => member⟩

/-- No action takes anything back. -/
theorem nodeStep_grows (library : JsonC) (identity : NodeIdentity) (node : Node)
    (action : NodeAction) : node.Grows (nodeStep library identity node action) := by
  -- Every action leaves what was committed, and only a local call acknowledges.
  obtain ⟨process, acknowledged⟩ := node
  cases action with
  | restart reload lookup =>
    refine ⟨fun row member => ?_, fun row member => member⟩
    simpa only [nodeStep, startProcess_database] using member
  | create now results body =>
    cases process with
    | stopped database => exact .refl _
    | running service => exact afterCreate_grows library now results body service acknowledged
  | replica lookup results object =>
    simp only [nodeStep]
    split
    · rename_i service message running parsed
      refine ⟨fun row member => ?_, fun row member => member⟩
      cases running
      simp only [Process.database, ingestReplica_store]
      split
      · exact member
      · exact add_committed_subset _ _ _ row member
    · exact .refl _
  | sync results object =>
    simp only [nodeStep]
    split
    · rename_i service message running parsed
      refine ⟨fun row member => ?_, fun row member => member⟩
      cases running
      simp only [Process.database, ingestSync_store]
      exact add_committed_subset _ _ _ row member
    · exact .refl _

section Networks

variable {ι : Type*} {library : JsonC} {mesh : Mesh ι} {network : Network ι}

/-- Every node of a network in agreement is honest. -/
theorem Network.Agreeing.honest (agreeing : network.Agreeing library mesh) (node : ι) :
    (network.nodes node).Honest (mesh.identity node) where
  acknowledges := agreeing.acknowledges node
  built := fun row member =>
    agreeing.genuine.built_of_created (agreeing.genuine.stored node row member)
  -- The identifier names the author, which has acknowledged it.
  own := fun row member named =>
    agreeing.genuine.acknowledged_of_origin (agreeing.genuine.stored node row member) named

/-- Whatever a request of such a network delivers, an honest mesh may bring. -/
theorem Network.Agreeing.brought (lawful : library.Lawful)
    (agreeing : network.Agreeing library mesh) (node : ι) {post : Post}
    (listed : post ∈ network.posts) {message : ChatMessage}
    (member : message ∈ post.received library) :
    Brought (mesh.identity node) (network.nodes node) message := by
  -- Whatever is delivered was created by the node it names.
  have created := agreeing.genuine.created_of_received lawful listed member
  exact ⟨agreeing.genuine.built_of_created created,
    agreeing.genuine.acknowledged_of_origin created⟩

end Networks

end LesChat
