import LesChat.Network.Network
import LesChat.Service.LocalMessage

/-! Every message in a network was built by some node, and acknowledged by the same node. -/

namespace LesChat

open Foundation

/-- A message exactly as `create_local` builds it for an identity. -/
structure BuiltBy (identity : NodeIdentity) (message : ChatMessage) : Prop where
  /-- All fields but sequence, clock and body are those of the identity. -/
  fields : message = localMessage identity message.sequence message.createdAtMs message.body
  /-- The sequence fits its column. -/
  inRange : message.sequence ≤ maxInt64
  /-- The body passed the checks of `create_message`. -/
  accepted : AcceptedBody message.body

/-- A built message names its node as the origin. -/
theorem BuiltBy.origin {identity : NodeIdentity} {message : ChatMessage}
    (built : BuiltBy identity message) : message.origin = identity.nodeId := by
  -- A message that was built has the fields of a local one.
  rw [built.fields]
  rfl

/-- A built message has an identifier made of its node and its sequence. -/
theorem BuiltBy.messageId {identity : NodeIdentity} {message : ChatMessage}
    (built : BuiltBy identity message) :
    message.messageId = identity.nodeId ++ 0x3A :: decimal message.sequence := by
  -- A message that was built has the fields of a local one.
  rw [built.fields]
  rfl

/-- A built message numbered from one on survives encoding and parsing. -/
theorem BuiltBy.parse {identity : NodeIdentity} {message : ChatMessage}
    (built : BuiltBy identity message) (accepted : identity.Accepted) (low : 1 ≤ message.sequence) :
    parseMessage (messageToJson message) = some message := by
  -- The message is the local message with its own sequence, clock and body.
  have parsed := parseMessage_localMessage accepted low built.inRange message.createdAtMs
    built.accepted
  rwa [← built.fields] at parsed

/-- Whatever is parsed back from a built message is that message. -/
theorem BuiltBy.parsed {identity : NodeIdentity} {message parsed : ChatMessage}
    (built : BuiltBy identity message) (accepted : identity.Accepted)
    (read : parseMessage (messageToJson message) = some parsed) :
    1 ≤ message.sequence ∧ parsed = message := by
  -- A text that is read back has a positive sequence, and is then read as what was written.
  have low : 1 ≤ message.sequence := by
    rw [built.fields] at read
    exact localMessage_sequence_pos built.inRange read
  rw [built.parse accepted low, Option.some.injEq] at read
  exact ⟨low, read.symm⟩

/-- A message that some node with an accepted identity built. -/
def Built (message : ChatMessage) : Prop :=
  ∃ identity : NodeIdentity, identity.Accepted ∧ BuiltBy identity message

/-- The origin of a built message is a C string. -/
theorem Built.origin_terminated {message : ChatMessage} (built : Built message) :
    0 ∉ message.origin := by
  -- The origin is a valid identifier, which has no NUL byte.
  obtain ⟨identity, accepted, builtBy⟩ := built
  rw [builtBy.origin]
  exact isValidNodeId_noNul ((checkIdentity_eq_ok identity).mp accepted.checked).1

/-- A built message numbered from one on is read back from its encoding. -/
theorem Built.parse {message : ChatMessage} (built : Built message) (low : 1 ≤ message.sequence) :
    parseMessage (messageToJson message) = some message := by
  -- Its author has an accepted identity, under which the text is read back.
  obtain ⟨identity, accepted, builtBy⟩ := built
  exact builtBy.parse accepted low

section Requests

variable (library : JsonC)

/-- The messages a request was made from. -/
inductive Post.Carries : Post → List ChatMessage → Prop where
  /-- A replicated message. -/
  | replicate (message : ChatMessage) :
    Post.Carries (.replicate (serializeJson library (messageToJson message))) [message]
  /-- A batch. -/
  | syncMessages (messages : List ChatMessage) (few : messages.length ≤ maxSyncBatchMessages) :
    Post.Carries (.syncMessages (serializeJson library (batchJson (messages.map messageToJson))))
      messages

/-- The items of a batch of built messages are accepted up to the first numbered zero. -/
theorem acceptedItems_prefix {messages : List ChatMessage} (built : ∀ message ∈ messages, Built message) :
    acceptedItems (messages.map messageToJson) <+: messages := by
  -- The induction follows the batch: an item is read as the message it was made from, or ends it.
  induction messages with
  | nil => exact List.nil_prefix
  | cons message rest ih =>
    obtain ⟨identity, accepted, builtBy⟩ := built message (by simp)
    simp only [List.map_cons, acceptedItems]
    split
    · exact List.nil_prefix
    · rename_i parsed read
      rw [(builtBy.parsed accepted read).2, List.prefix_cons_inj]
      exact ih fun other member => built other (by simp [member])

/-- A request delivers the messages it was made from, in order, up to some point. -/
theorem Post.Carries.received {library : JsonC} (lawful : library.Lawful) {post : Post}
    {messages : List ChatMessage} (carries : post.Carries library messages)
    (built : ∀ message ∈ messages, Built message) : post.received library <+: messages := by
  cases carries with
  | replicate message =>
    obtain ⟨identity, accepted, builtBy⟩ := built message (by simp)
    simp only [Post.received, replicatedMessages]
    split
    · exact List.nil_prefix
    · -- The handler read the very object that was sent.
      rename_i parsed reading
      have sent : parsed = messageToJson message := by
        by_cases small : (serializeJson library (messageToJson message)).length ≤ maxRequestBytes
        · rw [readJsonObject_serializeJson lawful (plain_messageToJson 30 message)
            (by rw [messageToJson_eq]; rfl) small, Except.ok.injEq] at reading
          exact reading.symm
        · rw [readJsonObject_tooLarge library (Nat.lt_of_not_le small)] at reading
          simp at reading
      subst sent
      cases read : parseMessage (messageToJson message) with
      | none => exact List.nil_prefix
      | some parsed =>
        rw [(builtBy.parsed accepted read).2]
        exact List.prefix_refl _
  | syncMessages messages few =>
    -- The same for a batch, whose items are then read one by one.
    simp only [Post.received, synchronizedMessages]
    split
    · exact List.nil_prefix
    · rename_i parsed reading
      have sent : parsed = batchJson (messages.map messageToJson) := by
        by_cases small : (serializeJson library
            (batchJson (messages.map messageToJson))).length ≤ maxSyncRequestBytes
        · rw [readJsonObject_serializeJson lawful (plain_batchJson messages)
            (by rw [batchJson_eq]; rfl) small, Except.ok.injEq] at reading
          exact reading.symm
        · rw [readJsonObject_tooLarge library (Nat.lt_of_not_le small)] at reading
          simp at reading
      subst sent
      rw [batchItems_batchJson (by rwa [List.length_map])]
      exact acceptedItems_prefix built

end Requests

section LocalCalls

variable {library : JsonC} {now : Int64} {results : AddResults} {body : Bytes}
  {service : MessageService}

/-- A node acknowledges what it acknowledged before, and what the call returned. -/
theorem Node.mem_acknowledged_afterCreate {node : Node} {message : ChatMessage}
    {call : Except StoreError ChatMessage × MessageService} :
    message ∈ (node.afterCreate call).acknowledged ↔
      message ∈ node.acknowledged ∨ call.1 = .ok message := by
  -- A call that fails acknowledges nothing.
  obtain ⟨outcome, after⟩ := call
  cases outcome with
  | error error => simp [Node.afterCreate]
  | ok returned => simp [Node.afterCreate, eq_comm]

/-- After a local call, the node runs the service the call left. -/
@[simp] theorem Node.process_afterCreate (node : Node)
    (call : Except StoreError ChatMessage × MessageService) :
    (node.afterCreate call).process = .running call.2 := by
  -- Whether the call succeeds or not, the service goes on.
  obtain ⟨outcome, after⟩ := call
  cases outcome <;> rfl

/-- A message a call returns is built for the identity of the service. -/
theorem createLocal_built (accepted : AcceptedBody body) {message : ChatMessage}
    (returned : (createLocal library now results body service).1 = .ok message) :
    BuiltBy service.identity message := by
  -- A call that returns has passed the range check of the store.
  obtain ⟨rfl, inserted, returnedAdd⟩ := createLocal_ok library returned
  have added := add_added results (service.nextMessage now body) service.store
  rw [returnedAdd] at added
  exact ⟨rfl, added.inRange, accepted⟩

/-- A call commits nothing but the message it returns. -/
theorem createLocal_committed {message : ChatMessage}
    (member : message ∈ (createLocal library now results body service).2.store.database.committed) :
    message ∈ service.store.database.committed ∨
      (createLocal library now results body service).1 = .ok message := by
  rw [createLocal_store, (add_added _ _ _).committed_eq] at member
  rcases List.mem_append.mp member with old | new
  · exact .inl old
  · -- A row was inserted, so the store call returned.
    split at new
    · rename_i inserted
      refine .inr ?_
      rw [createLocal_result, inserted, List.mem_singleton.mp new]
      rfl
    · simp at new

end LocalCalls

section Genuine

variable {ι : Type*} (library : JsonC) (mesh : Mesh ι)

/-- A message some node acknowledged. -/
def Network.Created (network : Network ι) (message : ChatMessage) : Prop :=
  ∃ author, message ∈ (network.nodes author).acknowledged

/-- What holds of a network whose only source of messages are local calls. -/
structure Network.Genuine (network : Network ι) : Prop where
  /-- Every process is sound. -/
  sound : ∀ node, (network.nodes node).process.Sound (mesh.identity node)
  /-- What a node acknowledged, it built. -/
  built : ∀ author, ∀ message ∈ (network.nodes author).acknowledged,
    BuiltBy (mesh.identity author) message
  /-- What any node ever stored was acknowledged by some node. -/
  stored : ∀ node, ∀ message ∈ (network.nodes node).process.database.committed,
    network.Created message
  /-- Every request was made from acknowledged messages. -/
  posted : ∀ post ∈ network.posts, ∃ messages, post.Carries library messages ∧
    ∀ message ∈ messages, network.Created message

variable {library mesh} {network : Network ι}

/-- Every created message was built by a node of the network. -/
theorem Network.Genuine.built_of_created (genuine : network.Genuine library mesh)
    {message : ChatMessage} (created : network.Created message) : Built message := by
  -- What a node acknowledged, it built under its accepted identity.
  obtain ⟨author, member⟩ := created
  exact ⟨mesh.identity author, mesh.accepted author, genuine.built author message member⟩

/-- Every message a request delivers was created. -/
theorem Network.Genuine.created_of_received (lawful : library.Lawful)
    (genuine : network.Genuine library mesh) {post : Post} (listed : post ∈ network.posts)
    {message : ChatMessage} (member : message ∈ post.received library) :
    network.Created message := by
  obtain ⟨messages, carries, created⟩ := genuine.posted post listed
  -- A request delivers part of what it was made from.
  have delivered := carries.received lawful fun other inPost =>
    genuine.built_of_created (created other inPost)
  exact created message (delivered.subset member)

/-- Every cached message was created. -/
theorem Network.Genuine.created_of_cached (genuine : network.Genuine library mesh) {node : ι}
    {service : MessageService} (running : (network.nodes node).process = .running service)
    {message : ChatMessage} (member : message ∈ service.store.messages) :
    network.Created message := by
  -- The cache of a sound service holds nothing that was not committed.
  have sound := genuine.sound node
  rw [running] at sound
  have committed := (MessageService.Sound.stored sound).committed_of_mem member
  refine genuine.stored node message ?_
  rw [running]
  exact committed

/-- The origins in a node's summary are C strings. -/
theorem Network.Genuine.terminated (genuine : network.Genuine library mesh) (node : ι) :
    ∀ entry ∈ sequenceSummary (network.nodes node).process.database, 0 ∉ entry.1 := by
  intro both member
  obtain ⟨origin, last⟩ := both
  -- Every origin with a mark is the origin of a message that was committed, and so of a built one.
  have marked := (Marks.mem_entries_iff _ _ _).mp member
  obtain ⟨message, committed, rfl⟩ := ((genuine.sound node).consistent.marked origin).mp
    (by rw [marked]; rfl)
  exact (genuine.built_of_created (genuine.stored node message committed)).origin_terminated

/-- New networks are genuine. -/
theorem Network.initial_genuine (library : JsonC) (mesh : Mesh ι) :
    (Network.initial mesh).Genuine library mesh where
  sound := fun node => Node.initial_sound (mesh.identity node)
  built := by simp [Network.initial, Node.initial]
  stored := by
    -- A new file has no rows.
    intro node message member
    simp [Network.initial, Node.initial, Process.database, MessageService.initial,
      MessageStore.empty, Database.empty] at member
  posted := by simp [Network.initial]

end Genuine

section Steps

variable {ι : Type*} [DecidableEq ι] {library : JsonC} {mesh : Mesh ι} {network : Network ι}

/-- A fact about all nodes survives a step of one node that keeps it. -/
theorem forall_update (fact : ι → Node → Prop) {nodes : ι → Node} {acting : ι} {after : Node}
    (others : ∀ node, fact node (nodes node)) (same : fact acting after) (node : ι) :
    fact node (Function.update nodes acting after node) := by
  -- Only the acting node was replaced.
  by_cases acts : node = acting
  · subst acts
    rwa [Function.update_self]
  · rw [Function.update_of_ne acts]
    exact others node

/-- A created message stays created while every node keeps what it acknowledged. -/
theorem Network.Created.kept {nodes : ι → Node} {posts later : List Post} {acting : ι}
    {after : Node} {message : ChatMessage}
    (kept : ∀ message ∈ (nodes acting).acknowledged, message ∈ after.acknowledged)
    (created : Network.Created ⟨nodes, posts⟩ message) :
    Network.Created ⟨Function.update nodes acting after, later⟩ message := by
  -- The author may be the node that acted.
  obtain ⟨author, member⟩ := created
  refine ⟨author, ?_⟩
  by_cases acts : author = acting
  · subst acts
    simpa using kept message member
  · simpa [Function.update_of_ne acts] using member

/-- What was created stays created. -/
theorem Stepped.created_kept {action : NetworkAction ι} {after : Network ι}
    (stepped : Stepped library mesh network action after) {message : ChatMessage}
    (created : network.Created message) : after.Created message := by
  -- No step takes an acknowledgement back.
  cases stepped with
  | idle => exact created
  | created node now results parsed service body running accepted =>
    exact created.kept fun other member => Node.mem_acknowledged_afterCreate.mpr (.inl member)
  | delivered index receiver lookup results post listed =>
    refine created.kept fun other member => ?_
    rwa [(daemonStep_unaffected library _ _ lookup results post).acknowledged]
  | sent => exact created
  | restarted node reload lookup => exact created.kept fun other member => member

/--
A network stays genuine when one node acts.

Whatever the node acknowledges anew it has built, and whatever it stores or posts was created.
-/
private theorem Network.Genuine.updated (genuine : network.Genuine library mesh) {acting : ι}
    (after : Node) (new : List Post) (sound : after.process.Sound (mesh.identity acting))
    (kept : ∀ message ∈ (network.nodes acting).acknowledged, message ∈ after.acknowledged)
    (built : ∀ message ∈ after.acknowledged, BuiltBy (mesh.identity acting) message)
    (stored : ∀ message ∈ after.process.database.committed,
      network.Created message ∨ message ∈ after.acknowledged)
    (posted : ∀ post ∈ new, ∃ messages, post.Carries library messages ∧
      ∀ message ∈ messages, network.Created message ∨ message ∈ after.acknowledged) :
    Network.Genuine library mesh
      ⟨Function.update network.nodes acting after, network.posts ++ new⟩ := by
  -- A message is created afterwards when it was before, or when the acting node acknowledges it.
  have created : ∀ message, network.Created message ∨ message ∈ after.acknowledged →
      Network.Created ⟨Function.update network.nodes acting after, network.posts ++ new⟩
        message := by
    intro message either
    rcases either with before | own
    · exact before.kept kept
    · exact ⟨acting, by simpa using own⟩
  refine ⟨?_, ?_, ?_, ?_⟩
  · exact forall_update (fun node state => state.process.Sound (mesh.identity node))
      genuine.sound sound
  · exact forall_update (fun node state => ∀ message ∈ state.acknowledged,
      BuiltBy (mesh.identity node) message) genuine.built built
  · refine forall_update (fun _ state => ∀ message ∈ state.process.database.committed,
      Network.Created ⟨Function.update network.nodes acting after, network.posts ++ new⟩ message)
      ?_ ?_
    · exact fun node message member => created message (.inl (genuine.stored node message member))
    · exact fun message member => created message (stored message member)
  -- The requests from before, and those that are new.
  · intro post listed
    rcases List.mem_append.mp listed with old | recent
    · obtain ⟨messages, carries, before⟩ := genuine.posted post old
      exact ⟨messages, carries, fun message member => created message (.inl (before message member))⟩
    · obtain ⟨messages, carries, origin⟩ := posted post recent
      exact ⟨messages, carries, fun message member => created message (origin message member)⟩

/-- Every step keeps a network genuine, whatever fails and whatever is lost or repeated. -/
theorem Stepped.genuine (lawful : library.Lawful) {action : NetworkAction ι} {after : Network ι}
    (stepped : Stepped library mesh network action after)
    (genuine : network.Genuine library mesh) : after.Genuine library mesh := by
  -- Every step but a local call leaves open only where the messages came from.
  cases stepped with
  | idle => exact genuine
  | created node now results parsed service body running accepted =>
    have sound : service.Sound (mesh.identity node) := by
      have before := genuine.sound node
      rwa [running] at before
    refine genuine.updated _ _ (Node.afterCreate_sound (sound.createLocal library now results body))
      (fun message member => Node.mem_acknowledged_afterCreate.mpr (.inl member)) ?_ ?_ ?_
    · intro message member
      rcases Node.mem_acknowledged_afterCreate.mp member with old | returned
      · exact genuine.built node message old
      · rw [← sound.named]
        exact createLocal_built accepted returned
    · intro message member
      rw [Node.process_afterCreate] at member
      rcases createLocal_committed member with old | returned
      · refine .inl (genuine.stored node message ?_)
        rwa [running]
      · exact .inr (Node.mem_acknowledged_afterCreate.mpr (.inr returned))
    · -- The one request that may be new carries the returned message.
      intro post listed
      cases returned : (createLocal library now results body service).1 with
      | error error => simp [returned, createdPosts] at listed
      | ok message =>
        rw [returned, createdPosts, List.mem_singleton] at listed
        subst listed
        refine ⟨[message], .replicate message, fun other member => ?_⟩
        rw [List.mem_singleton.mp member]
        exact .inr (Node.mem_acknowledged_afterCreate.mpr (.inr returned))
  | delivered index receiver lookup results post listed =>
    have unaffected := daemonStep_unaffected library (mesh.identity receiver)
      (network.nodes receiver) lookup results post
    have updated := genuine.updated
      (daemonStep library (mesh.identity receiver) (network.nodes receiver)
        (post.action lookup results)) []
      (daemonStep_sound library (mesh.identity receiver) (network.nodes receiver)
        (post.action lookup results) (genuine.sound receiver))
      (fun message member => by rwa [unaffected.acknowledged])
      (fun message member => genuine.built receiver message (by rwa [← unaffected.acknowledged]))
      ?_ (by simp)
    · rwa [List.append_nil] at updated
    · -- Whatever was committed anew was in the request.
      intro message member
      rcases daemonStep_committed library _ _ lookup results post message member with old | carried
      · exact .inl (genuine.stored receiver message old)
      · exact .inl (genuine.created_of_received lawful (List.mem_of_getElem? listed) carried)
  | sent node summary service running =>
    refine ⟨genuine.sound, genuine.built, genuine.stored, fun post listed => ?_⟩
    rcases List.mem_append.mp listed with old | new
    · exact genuine.posted post old
    · rw [List.mem_singleton.mp new]
      -- A batch is made from messages in the cache.
      refine ⟨_, .syncMessages _ (missingMessages_length _ _ _), fun message member => ?_⟩
      exact genuine.created_of_cached running (mem_of_mem_missingMessages member)
  | restarted node reload lookup =>
    have updated := genuine.updated
      ⟨startProcess (mesh.identity node) reload lookup (network.nodes node).process.database,
        (network.nodes node).acknowledged⟩ []
      (startProcess_sound (mesh.identity node) reload lookup (genuine.sound node).consistent)
      (fun message member => member) (genuine.built node) ?_ (by simp)
    · rwa [List.append_nil] at updated
    · intro message member
      rw [startProcess_database] at member
      exact .inl (genuine.stored node message member)

/-- Every network a run reaches is genuine. -/
theorem run_genuine (lawful : library.Lawful) (actions : List (NetworkAction ι)) :
    (run (networkStep library mesh) (Network.initial mesh) actions).Genuine library mesh :=
  -- Every step keeps a network genuine, whatever fails.
  run_invariant (fun network action => (networkStep_stepped library mesh network action).genuine
    lawful) actions (Network.initial_genuine library mesh)

end Steps

end LesChat
