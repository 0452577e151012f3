import LesChat.Service.LocalMessage
import LesChat.Service.NodeRuns

/-! Acknowledged messages: when they are stored, and when their identities are issued only once. -/

namespace LesChat

open Foundation

/--
The next identity of a service is still unclaimed.

No stored row has its identifier or its key, and the counter is not about to wrap around.
-/
def MessageService.Unclaimed (service : MessageService) : Prop :=
  service.nextSequence ≠ 2 ^ 64 - 1 ∧
    ∀ row ∈ service.store.database.rows,
      row.messageId ≠ service.identity.nodeId ++ 0x3A :: decimal service.nextSequence ∧
      (row.origin, row.sequence) ≠ (service.identity.nodeId, service.nextSequence)

/-- Whether an identity is unclaimed can be checked by scanning the rows. -/
instance (service : MessageService) : Decidable service.Unclaimed :=
  inferInstanceAs (Decidable (_ ∧ _))

/-- Local calls are made while their identity is unclaimed, and restarts read their mark. -/
def NodeAction.Undisturbed (node : Node) : NodeAction → Prop
  | .create _ _ _ => ∀ service ∈ node.process.service?, service.Unclaimed
  | .restart _ lookup => lookup = .ok
  | _ => True

/-- Whether an action is undisturbed can be checked. -/
instance (node : Node) : DecidablePred (NodeAction.Undisturbed node)
  | .create _ _ _ =>
    inferInstanceAs (Decidable (∀ service ∈ node.process.service?, service.Unclaimed))
  | .restart _ lookup => inferInstanceAs (Decidable (lookup = .ok))
  | .replica _ _ _ => isTrue trivial
  | .sync _ _ => isTrue trivial

/-- A local call that returns has stored exactly the message it returns. -/
def MessageService.Stores (library : JsonC) (service : MessageService) : Prop :=
  ∀ now results body message,
    (createLocal library now results body service).1 = .ok message →
    message.body = body ∧
      message ∈ (createLocal library now results body service).2.store.messages ∧
      ∀ other ∈ (createLocal library now results body service).2.store.messages,
        other.messageId = message.messageId ∨
          (other.origin, other.sequence) = (message.origin, message.sequence) → other = message

/-- No two acknowledged messages share an identifier, or an origin and a sequence. -/
def Node.IssuesOnce (node : Node) : Prop :=
  (node.acknowledged.map ChatMessage.messageId).Nodup ∧
    (node.acknowledged.map fun message => (message.origin, message.sequence)).Nodup

/-- Whether identities were issued once can be checked. -/
instance (node : Node) : Decidable node.IssuesOnce := inferInstanceAs (Decidable (_ ∧ _))

/-- An unclaimed identity is fresh for the table, and stays so when rows are pruned. -/
theorem MessageService.Unclaimed.fresh {service : MessageService} (unclaimed : service.Unclaimed)
    (now : Int64) (body : Bytes) {base : MessageStore} (cleared : Base service.store base) :
    base.database.messages.Fresh (service.nextMessage now body) :=
  -- Pruning takes rows away, and adds none that could claim the identity.
  fun row member => unclaimed.2 row (cleared.mem_rows member)

/-- Under an unclaimed identity, a call that returns has inserted its message at the end. -/
theorem MessageService.Unclaimed.stored {library : JsonC} {service : MessageService}
    (unclaimed : service.Unclaimed) {now : Int64} {results : AddResults} {body : Bytes}
    {message : ChatMessage}
    (returned : (createLocal library now results body service).1 = .ok message) :
    ∃ base, ∃ fresh : base.database.messages.Fresh message, Base service.store base ∧
      (createLocal library now results body service).2.store =
        ⟨base.database.store message fresh, base.messages ++ [message]⟩ := by
  obtain ⟨rfl, inserted, returnedAdd⟩ := createLocal_ok library returned
  have added := add_added results (service.nextMessage now body) service.store
  rw [createLocal_store]
  rw [returnedAdd] at added
  -- The message cannot have been ignored, since nothing stored collides with it.
  generalize outcome : (add results (service.nextMessage now body) service.store).2 = after at added
  cases added with
  | stored base cleared inRange fresh => exact ⟨base, fresh, cleared, rfl⟩
  | ignored base cleared inRange collides => exact absurd (unclaimed.fresh now body cleared) collides

/-- A cached message is determined by its identifier, and by its origin and sequence. -/
theorem MessageStore.Sound.eq_of_same {store : MessageStore} (sound : store.Sound)
    {left right : ChatMessage} (leftMember : left ∈ store.messages)
    (rightMember : right ∈ store.messages)
    (same : left.messageId = right.messageId ∨
      (left.origin, left.sequence) = (right.origin, right.sequence)) : left = right := by
  -- Both columns of the table are unique.
  rcases same with sameId | sameKey
  · exact List.inj_on_of_nodup_map sound.nodup_messageId leftMember rightMember sameId
  · exact List.inj_on_of_nodup_map sound.nodup_key leftMember rightMember sameKey

/-- Under an unclaimed identity, a local call that returns has stored its message. -/
theorem MessageService.Unclaimed.stores {library : JsonC} {identity : NodeIdentity}
    {service : MessageService} (unclaimed : service.Unclaimed) (sound : service.Sound identity) :
    service.Stores library := by
  -- Where nothing has the identity that comes next, the insertion is not ignored.
  intro now results body message returned
  obtain ⟨base, fresh, cleared, after⟩ := unclaimed.stored returned
  have member : message ∈ (createLocal library now results body service).2.store.messages := by
    rw [after]
    simp
  have soundAfter := (sound.createLocal library now results body).stored
  refine ⟨?_, member, fun other otherMember same => soundAfter.eq_of_same otherMember member same⟩
  obtain ⟨rfl, _⟩ := createLocal_ok library returned
  rfl

/-- What acknowledged messages satisfy while no action is disturbed. -/
structure Node.Acknowledges (identity : NodeIdentity) (node : Node) : Prop where
  /-- The process is sound. -/
  sound : node.process.Sound identity
  /-- Acknowledged messages were committed. -/
  committed : ∀ message ∈ node.acknowledged, message ∈ node.process.database.committed
  /-- Acknowledged messages carry this node's identities. -/
  own : ∀ message ∈ node.acknowledged, message.origin = identity.nodeId ∧
    message.messageId = identity.nodeId ++ 0x3A :: decimal message.sequence
  /-- The counter of a running service has passed every acknowledged sequence. -/
  passed : ∀ service, node.process = .running service →
    ∀ message ∈ node.acknowledged, message.sequence < service.nextSequence
  /-- No sequence was acknowledged twice. -/
  once : (node.acknowledged.map ChatMessage.sequence).Nodup

/-- A node on a new file has acknowledged nothing. -/
theorem Node.initial_acknowledges (identity : NodeIdentity) :
    (Node.initial identity).Acknowledges identity where
  -- Nothing is acknowledged yet.
  sound := Node.initial_sound identity
  committed := by simp [Node.initial]
  own := by simp [Node.initial]
  passed := by simp [Node.initial]
  once := List.nodup_nil

/-- Acknowledged sequences that differ give identities that differ. -/
theorem Node.Acknowledges.issuesOnce {identity : NodeIdentity} {node : Node}
    (acknowledges : node.Acknowledges identity) : node.IssuesOnce := by
  have distinct := acknowledges.once
  rw [List.nodup_map_iff_inj_on (List.Nodup.of_map _ distinct)] at distinct
  -- Equal identifiers, like equal keys, come from equal sequences.
  refine ⟨List.Nodup.map_on ?_ (List.Nodup.of_map _ acknowledges.once),
    List.Nodup.map_on ?_ (List.Nodup.of_map _ acknowledges.once)⟩
  · intro left leftMember right rightMember same
    rw [(acknowledges.own left leftMember).2, (acknowledges.own right rightMember).2] at same
    exact distinct left leftMember right rightMember (messageId_injective _ same)
  · intro left leftMember right rightMember same
    exact distinct left leftMember right rightMember (Prod.mk.inj same).2

/-- Ingesting a message, by whatever path, keeps what is acknowledged. -/
theorem Node.Acknowledges.ingested {identity : NodeIdentity} {service after : MessageService}
    {acknowledged : List ChatMessage}
    (acknowledges : Node.Acknowledges identity ⟨.running service, acknowledged⟩)
    (sound : after.Sound identity) (counter : after.nextSequence = service.nextSequence)
    (kept : ∀ message ∈ service.store.database.committed,
      message ∈ after.store.database.committed) :
    Node.Acknowledges identity ⟨.running after, acknowledged⟩ where
  sound := sound
  committed := fun message member => kept message (acknowledges.committed message member)
  own := acknowledges.own
  passed := by
    -- The counter has not moved.
    intro _ same message member
    cases same
    rw [counter]
    exact acknowledges.passed service rfl message member
  once := acknowledges.once

/-- An `add` keeps the history it found. -/
theorem add_committed_subset (results : AddResults) (message : ChatMessage) (store : MessageStore) :
    ∀ row ∈ store.database.committed, row ∈ (add results message store).2.database.committed := by
  -- An `add` only appends to what was committed.
  intro row member
  rw [(add_added results message store).committed_eq]
  exact List.mem_append_left _ member

/-- A service that has counted on, and lost nothing from its history, acknowledges as before. -/
theorem Node.Acknowledges.grown {identity : NodeIdentity} {service after : MessageService}
    {acknowledged : List ChatMessage}
    (acknowledges : Node.Acknowledges identity ⟨.running service, acknowledged⟩)
    (sound : after.Sound identity)
    (kept : ∀ message ∈ service.store.database.committed, message ∈ after.store.database.committed)
    (counter : service.nextSequence ≤ after.nextSequence) :
    Node.Acknowledges identity ⟨.running after, acknowledged⟩ where
  sound := sound
  committed := fun message member => kept message (acknowledges.committed message member)
  own := acknowledges.own
  passed := by
    intro _ same message member
    cases same
    -- The counter only moved further past what was acknowledged.
    have before := acknowledges.passed service rfl message member
    omega
  once := acknowledges.once

/-- A committed message of the node, with a sequence behind all others, may be acknowledged. -/
theorem Node.Acknowledges.acknowledge {identity : NodeIdentity} {service : MessageService}
    {acknowledged : List ChatMessage}
    (acknowledges : Node.Acknowledges identity ⟨.running service, acknowledged⟩)
    {message : ChatMessage} (inserted : message ∈ service.store.database.committed)
    (own : message.origin = identity.nodeId ∧
      message.messageId = identity.nodeId ++ 0x3A :: decimal message.sequence)
    (unused : ∀ other ∈ acknowledged, other.sequence < message.sequence)
    (counted : message.sequence < service.nextSequence) :
    Node.Acknowledges identity ⟨.running service, acknowledged ++ [message]⟩ where
  sound := acknowledges.sound
  committed := by
    intro other member
    rcases List.mem_append.mp member with old | new
    · exact acknowledges.committed other old
    · rw [List.mem_singleton.mp new]
      exact inserted
  own := by
    intro other member
    rcases List.mem_append.mp member with old | new
    · exact acknowledges.own other old
    · rw [List.mem_singleton.mp new]
      exact own
  passed := by
    intro _ same other member
    cases same
    rcases List.mem_append.mp member with old | new
    · exact acknowledges.passed service rfl other old
    · rw [List.mem_singleton.mp new]
      exact counted
  once := by
    simp only [List.map_append, List.nodup_append, List.map_cons, List.map_nil]
    refine ⟨acknowledges.once, List.nodup_singleton _, ?_⟩
    -- All the earlier sequences are smaller.
    intro left leftMember right rightMember same
    obtain ⟨old, oldMember, equal⟩ := List.mem_map.mp leftMember
    have before := unused old oldMember
    rw [List.mem_singleton] at rightMember
    omega

/-- A local call under an unclaimed identity keeps what is acknowledged, whatever it returns. -/
theorem Node.Acknowledges.created {library : JsonC} {identity : NodeIdentity}
    {service : MessageService} {acknowledged : List ChatMessage}
    (acknowledges : Node.Acknowledges identity ⟨.running service, acknowledged⟩)
    (unclaimed : service.Unclaimed) (now : Int64) (results : AddResults) (body : Bytes) :
    (Node.afterCreate ⟨.running service, acknowledged⟩
      (createLocal library now results body service)).Acknowledges identity := by
  have sound : service.Sound identity := acknowledges.sound
  have soundAfter := sound.createLocal library now results body
  have kept := add_committed_subset results (service.nextMessage now body) service.store
  rw [← createLocal_store library] at kept
  -- The counter moves on by one, short of its limit.
  have counter : (createLocal library now results body service).2.nextSequence =
      service.nextSequence + 1 := by
    rw [createLocal_nextSequence]
    have bound := sound.counted
    have limit := unclaimed.1
    omega
  have grown := acknowledges.grown soundAfter kept (by omega)
  cases call : createLocal library now results body service with
  | mk outcome after =>
    rw [call] at grown counter
    cases outcome with
    | error error => exact grown
    | ok message =>
      -- The returned message was inserted, under the sequence the counter had.
      have returned : (createLocal library now results body service).1 = .ok message := by rw [call]
      obtain ⟨base, fresh, cleared, stored⟩ := unclaimed.stored returned
      obtain ⟨built, _⟩ := createLocal_ok library returned
      have sequence : message.sequence = service.nextSequence := by rw [built]; rfl
      have inserted : message ∈ after.store.database.committed := by
        rw [call] at stored
        simp only at stored
        simp [stored]
      refine grown.acknowledge inserted ?_ ?_ ?_
      · rw [built, ← sound.named]
        exact ⟨rfl, rfl⟩
      · rw [sequence]
        exact acknowledges.passed service rfl
      · rw [sequence, counter]
        exact Nat.lt_succ_self _

/-- A restart that reads its mark starts counting past everything acknowledged. -/
theorem Node.Acknowledges.restarted {identity : NodeIdentity} {node : Node}
    (acknowledges : node.Acknowledges identity) (reload : Option Nat) :
    Node.Acknowledges identity
      ⟨startProcess identity reload .ok node.process.database, node.acknowledged⟩ where
  sound := startProcess_sound identity reload .ok acknowledges.sound.consistent
  committed := by
    simp only [startProcess_database]
    exact acknowledges.committed
  own := acknowledges.own
  passed := by
    intro service running message member
    -- The counter is one past the mark, and the mark bounds what was committed.
    obtain ⟨_, _, reading⟩ := openService_ok (startProcess_running running)
    have counter := (nextSequence_eq reading).1
    have bounded := acknowledges.sound.consistent.le_mark (acknowledges.committed message member)
    rw [(acknowledges.own message member).1] at bounded
    omega
  once := acknowledges.once

/-- Every undisturbed action keeps what is acknowledged. -/
theorem nodeStep_acknowledges (library : JsonC) (identity : NodeIdentity) (node : Node)
    (action : NodeAction) (acknowledges : node.Acknowledges identity)
    (undisturbed : action.Undisturbed node) :
    (nodeStep library identity node action).Acknowledges identity := by
  obtain ⟨process, acknowledged⟩ := node
  cases action with
  | restart reload lookup =>
    -- The guard of a restart is that its mark was read.
    simp only [NodeAction.Undisturbed] at undisturbed
    subst undisturbed
    exact acknowledges.restarted reload
  | create now results body =>
    cases process with
    | stopped database => exact acknowledges
    | running service => exact acknowledges.created (undisturbed service rfl) now results body
  | replica lookup results object =>
    cases process with
    | stopped database => exact acknowledges
    | running service =>
      have sound : service.Sound identity := acknowledges.sound
      simp only [nodeStep]
      split
      · rename_i same parsed
        cases same
        refine acknowledges.ingested (sound.ingestReplica library lookup results _)
          (ingestReplica_nextSequence _ _ _ _ _) ?_
        rw [ingestReplica_store]
        split
        · exact fun row member => member
        · exact add_committed_subset _ _ _
      · exact acknowledges
  | sync results object =>
    cases process with
    | stopped database => exact acknowledges
    | running service =>
      have sound : service.Sound identity := acknowledges.sound
      simp only [nodeStep]
      split
      · rename_i same parsed
        cases same
        refine acknowledges.ingested (sound.ingestSync library results _)
          (ingestSync_nextSequence _ _ _ _) ?_
        rw [ingestSync_store]
        exact add_committed_subset _ _ _
      · exact acknowledges

/--
In an undisturbed run, acknowledged messages are stored and their identities issued once.

The run may ingest any message the parser accepts, prune, fail and restart.
-/
theorem createLocal_acknowledged (library : JsonC) (identity : NodeIdentity)
    {actions : List NodeAction}
    (undisturbed : Guarded (nodeStep library identity) (fun node action => action.Undisturbed node)
      (Node.initial identity) actions) :
    let node := run (nodeStep library identity) (Node.initial identity) actions
    (∀ service, node.process = .running service → service.Unclaimed → service.Stores library) ∧
      node.IssuesOnce := by
  -- The invariant holds in every state of the run, and gives both results.
  intro node
  have acknowledges : node.Acknowledges identity :=
    guarded_invariant (nodeStep_acknowledges library identity) undisturbed
      (Node.initial_acknowledges identity)
  refine ⟨fun service running unclaimed => ?_, acknowledges.issuesOnce⟩
  have sound := acknowledges.sound
  rw [running] at sound
  exact unclaimed.stores sound

/-- A node that restarts between two messages acknowledges both, and issues two identities. -/
theorem createLocal_acknowledged_restart :
    let identity : NodeIdentity := ⟨ascii "a", ascii "Alice"⟩
    let actions : List NodeAction :=
      [.create 1 {} (ascii "one"), .restart none .ok, .create 2 {} (ascii "two")]
    let node := run (nodeStep plainJsonC identity) (Node.initial identity) actions
    node.IssuesOnce ∧ node.acknowledged.map ChatMessage.messageId = [ascii "a:1", ascii "a:2"] :=
  -- The restart reads its mark, so the count goes on at two.
  ⟨(createLocal_acknowledged plainJsonC _ (by decide +kernel)).2, by decide +kernel⟩

/-- A remote message can claim the next identity, whose owner then acknowledges without storing. -/
theorem createLocal_claimed :
    let identity : NodeIdentity := ⟨ascii "a", ascii "Alice"⟩
    let claim : ChatMessage :=
      ⟨1, ascii "a:2", ascii "b", ascii "Bob", defaultChannel, 0, ascii "mine"⟩
    let before := run (nodeStep plainJsonC identity) (Node.initial identity)
      [.create 1 {} (ascii "one"), .replica .ok {} (messageToJson claim)]
    let again := run (nodeStep plainJsonC identity) before
      [.create 2 {} (ascii "two"), .restart none .ok, .create 3 {} (ascii "three")]
    (∃ service, before.process = .running service ∧ ¬service.Stores plainJsonC) ∧
      ¬again.IssuesOnce := by
  intro identity claim before again
  refine ⟨?_, by decide +kernel⟩
  -- The claim has the identifier of the second message, under another origin.
  have parsed : parseMessage (messageToJson claim) = some claim := by decide +kernel
  let service := (ingestReplica plainJsonC .ok {} claim
    (createLocal plainJsonC 1 {} (ascii "one") ⟨identity, MessageStore.empty, 1, [], []⟩).2).2
  refine ⟨service, ?_, ?_⟩
  · simp only [before, run_cons, run_nil, nodeStep, parsed]
    rfl
  · intro stores
    obtain ⟨_, member, _⟩ := stores 2 {} (ascii "two") (service.nextMessage 2 (ascii "two"))
      (by decide +kernel)
    exact absurd member (by decide +kernel)

end LesChat
