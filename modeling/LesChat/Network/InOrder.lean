import LesChat.Foundation.Ascending
import LesChat.Network.Recovery

/-! Logs in order: without gaps and without pruning, a node holds a prefix of what each node wrote. -/

namespace LesChat

open Foundation

section Appending

variable (library : JsonC)

/-- A store to which some messages were appended, each of them new. -/
structure MessageStore.Appends (before after : MessageStore) (new : List ChatMessage) : Prop where
  /-- They are committed in this order. -/
  committed : after.database.committed = before.database.committed ++ new
  /-- They follow the rows. -/
  rows : after.database.rows = before.database.rows ++ new
  /-- They follow what was cached. -/
  cached : after.messages = before.messages ++ new
  /-- None of them was stored before. -/
  fresh : ∀ message ∈ new, message ∉ before.database.rows

/-- Nothing was appended to a store that is the same. -/
theorem MessageStore.Appends.refl (store : MessageStore) : store.Appends store [] where
  committed := (List.append_nil _).symm
  rows := (List.append_nil _).symm
  cached := (List.append_nil _).symm
  fresh := by simp

/-- What is appended first is followed by what is appended next. -/
theorem MessageStore.Appends.trans {before middle after : MessageStore}
    {first second : List ChatMessage} (early : before.Appends middle first)
    (late : middle.Appends after second) : before.Appends after (first ++ second) where
  committed := by rw [late.committed, early.committed, List.append_assoc]
  rows := by rw [late.rows, early.rows, List.append_assoc]
  cached := by rw [late.cached, early.cached, List.append_assoc]
  fresh := by
    intro message member stored
    rcases List.mem_append.mp member with isFirst | isSecond
    · exact early.fresh message isFirst stored
    · -- The rows from before are still there when the second part is appended.
      apply late.fresh message isSecond
      rw [early.rows]
      exact List.mem_append_left _ stored

/-- Without a full database, `add` appends its message or nothing. -/
theorem add_appends {results : AddResults} (neverFull : results.first.NeverFull)
    (message : ChatMessage) (store : MessageStore) :
    ∃ new, store.Appends (add results message store).2 new ∧ new.Sublist [message] := by
  rcases add_neverFull neverFull message store with
    ⟨error, outcome⟩ | ⟨fresh, outcome⟩ | ⟨collides, outcome⟩
  · rw [outcome]
    exact ⟨[], .refl store, List.nil_sublist _⟩
  · -- The one row that is inserted collides with nothing, itself included.
    rw [outcome]
    refine ⟨[message], ⟨by simp, by simp, rfl, ?_⟩, List.Sublist.refl _⟩
    intro other member stored
    rw [List.mem_singleton.mp member] at stored
    exact (fresh message stored).1 rfl
  · rw [outcome]
    exact ⟨[], .refl store, List.nil_sublist _⟩

variable {library}

/-- A replicated message is appended, or nothing is. -/
theorem ingestReplica_appends {results : AddResults} (neverFull : results.first.NeverFull)
    (lookup : SqliteResult) (message : ChatMessage) (service : MessageService) :
    ∃ new, service.store.Appends
        (ingestReplica library lookup results message service).2.store new ∧
      new.Sublist [message] := by
  -- A message that is found is not added again.
  rw [ingestReplica_store]
  split
  · exact ⟨[], .refl _, List.nil_sublist _⟩
  · exact add_appends neverFull message service.store

/-- The messages a batch appends are some of its items, in the order of the batch. -/
theorem ingestItems_appends {results : Nat → AddResults}
    (neverFull : ∀ index, (results index).first.NeverFull) (items : List Json)
    (index accepted : Nat) (service : MessageService) :
    ∃ new, service.store.Appends
        (ingestItems library results items index accepted service).2.store new ∧
      new.Sublist (acceptedItems items) := by
  -- The induction follows the items, each of which appends its message or nothing.
  induction items generalizing index accepted service with
  | nil => exact ⟨[], .refl _, List.nil_sublist _⟩
  | cons item rest ih =>
    cases parsed : parseMessage item with
    | none =>
      simp only [ingestItems, acceptedItems, parsed]
      exact ⟨[], .refl _, List.nil_sublist _⟩
    | some message =>
      obtain ⟨first, appends, within⟩ := add_appends (neverFull index) message service.store
      rw [← ingestSync_store library] at appends
      simp only [ingestItems, acceptedItems, parsed]
      cases call : ingestSync library (results index) message service with
      | mk outcome after =>
        rw [call] at appends
        cases outcome with
        | error error =>
          exact ⟨first, appends, within.trans (by simp)⟩
        | ok inserted =>
          obtain ⟨second, later, withinRest⟩ :=
            ih (index + 1) (if inserted then accepted + 1 else accepted) after
          exact ⟨first ++ second, appends.trans later, within.append withinRest⟩

/-- A request makes a running daemon append some of the messages it delivers, in their order. -/
theorem daemonStep_appends {identity : NodeIdentity} {node : Node} {service : MessageService}
    (running : node.process = .running service) (lookup : SqliteResult)
    {results : Nat → AddResults} (neverFull : ∀ index, (results index).first.NeverFull)
    (post : Post) :
    ∃ after new, (daemonStep library identity node (post.action lookup results)).process =
        .running after ∧
      service.store.Appends after.store new ∧ new.Sublist (post.received library) := by
  cases post with
  | replicate payload =>
    simp only [daemonStep, Post.action, running, Post.received, replicatedMessages,
      replicateMessage]
    cases reading : readJsonObject library (jsonRequest payload) maxRequestBytes true
        (errorBody "invalid_message") with
    | error response => exact ⟨_, [], rfl, .refl _, List.nil_sublist _⟩
    | ok parsed =>
      cases read : parseMessage parsed with
      | none =>
        refine ⟨_, [], rfl, ?_, List.nil_sublist _⟩
        simp only [read]
        exact .refl _
      | some message =>
        obtain ⟨new, appends, within⟩ :=
          @ingestReplica_appends library _ (neverFull 0) lookup message service
        refine ⟨_, new, rfl, ?_, ?_⟩
        · -- Whatever the answer is, the service is the one the call left.
          simp only [read]
          split <;> (rename_i call; rw [call] at appends; exact appends)
        · simpa only [read, Option.toList_some] using within
  | syncMessages batch =>
    simp only [daemonStep, Post.action, running, Post.received, synchronizedMessages, syncMessages]
    cases reading : readJsonObject library (jsonRequest batch) maxSyncRequestBytes true
        (errorBody "invalid_sync_messages") with
    | error response => exact ⟨_, [], rfl, .refl _, List.nil_sublist _⟩
    | ok parsed =>
      cases listed : batchItems parsed with
      | none =>
        refine ⟨_, [], rfl, ?_, List.nil_sublist _⟩
        simp only [listed]
        exact .refl _
      | some items =>
        obtain ⟨new, appends, within⟩ :=
          @ingestItems_appends library _ neverFull items 0 0 service
        refine ⟨_, new, rfl, ?_, ?_⟩
        · simp only [listed]
          exact appends
        · simpa only [listed, Option.map_some, Option.getD_some] using within

/-- A replicated message comes alone. -/
theorem received_replicate_length (payload : Bytes) :
    ((Post.replicate payload).received library).length ≤ 1 := by
  -- A request that is refused carries no message, and any other one.
  unfold Post.received replicatedMessages
  dsimp only
  split
  · exact Nat.zero_le 1
  · exact Option.length_toList_le

end Appending

section InOrder

variable {ι : Type*}

/-- No insert a step makes hits the size limit of the database. -/
def NetworkAction.NeverFull : NetworkAction ι → Prop
  | .create _ _ results _ => results.first.NeverFull
  | .deliver _ _ _ results => ∀ index, (results index).first.NeverFull
  | _ => True

/-- Messages that ascend by sequence under every origin. -/
abbrev InSequence (messages : List ChatMessage) : Prop :=
  Ascending ChatMessage.origin ChatMessage.sequence messages

/-- A node whose log ascends, and of which nothing was pruned. -/
structure Node.InOrder (node : Node) : Prop where
  /-- The log ascends. -/
  ascending : InSequence node.process.database.committed
  /-- Every message ever stored is a row. -/
  unpruned : node.process.database.rows = node.process.database.committed
  /-- Every row is cached while the daemon runs. -/
  cached : ∀ service, node.process = .running service →
    service.store.messages = service.store.database.rows
  /-- The node acknowledges by ascending sequence. -/
  acknowledged : node.acknowledged.Pairwise fun earlier later => earlier.sequence < later.sequence

/-- A new node is in order. -/
theorem Node.initial_inOrder (identity : NodeIdentity) : (Node.initial identity).InOrder where
  ascending := ascending_nil
  unpruned := rfl
  cached := by
    intro service same
    cases same
    rfl
  acknowledged := List.Pairwise.nil

/-- A node stays in order when its log is extended in order. -/
theorem Node.InOrder.appended {node : Node} {service after : MessageService}
    {new acknowledged : List ChatMessage} (inOrder : node.InOrder)
    (running : node.process = .running service) (appends : service.store.Appends after.store new)
    (ascends : InSequence (node.process.database.committed ++ new))
    (later : acknowledged.Pairwise fun earlier later => earlier.sequence < later.sequence) :
    Node.InOrder ⟨.running after, acknowledged⟩ := by
  -- Rows and cache both grow by the new messages, at their ends.
  have unpruned := inOrder.unpruned
  rw [running] at ascends unpruned
  simp only [Process.database] at ascends unpruned
  refine ⟨?_, ?_, ?_, later⟩
  · show InSequence after.store.database.committed
    rwa [appends.committed]
  · show after.store.database.rows = after.store.database.committed
    rw [appends.rows, appends.committed, unpruned]
  · intro _ same
    cases same
    rw [appends.cached, appends.rows, inOrder.cached service running]

/-- What holds of a network in which nothing was taken with a gap and nothing was pruned. -/
structure Network.InOrder (library : JsonC) (mesh : Mesh ι) (network : Network ι) : Prop where
  /-- Whatever was missed is above its mark. -/
  recovering : network.Recovering library mesh
  /-- Every node is in order. -/
  nodes : ∀ node, (network.nodes node).InOrder
  /-- Every request delivers its messages in order. -/
  posted : ∀ post ∈ network.posts, InSequence (post.received library)

variable {library : JsonC} {mesh : Mesh ι} {network : Network ι}

/-- New networks are in order. -/
theorem Network.initial_inOrder (library : JsonC) (mesh : Mesh ι) :
    (Network.initial mesh).InOrder library mesh where
  -- Nothing is stored, and nothing is under way.
  recovering := Network.initial_recovering library mesh
  nodes := fun node => Node.initial_inOrder (mesh.identity node)
  posted := by simp [Network.initial]

/-- In a network in order, what was created is a row of its author. -/
theorem Network.InOrder.exists_row (inOrder : network.InOrder library mesh)
    {message : ChatMessage} (created : network.Created message) :
    ∃ author, message ∈ (network.nodes author).process.database.rows := by
  -- Its author stored it, and has pruned nothing.
  obtain ⟨author, _, _, _, committed⟩ := inOrder.recovering.agreeing.authentic created
  exact ⟨author, by rwa [(inOrder.nodes author).unpruned]⟩

/-- In a network in order, whatever a node has never stored is above its mark. -/
theorem Network.InOrder.mark_lt (inOrder : network.InOrder library mesh) {node : ι}
    {message : ChatMessage} (created : network.Created message)
    (missed : message ∉ (network.nodes node).process.database.committed) :
    (network.nodes node).process.database.sequences.value message.origin < message.sequence := by
  -- Its author has a row of it, and what is missed of a row is above the mark.
  obtain ⟨author, stored⟩ := inOrder.exists_row created
  exact inOrder.recovering.recoverable author node message stored missed

/--
What a node has stored can be read off its marks.

A message that was created is stored exactly when the mark of its origin has reached it.
-/
theorem Network.InOrder.committed_iff (inOrder : network.InOrder library mesh) (node : ι)
    {message : ChatMessage} (created : network.Created message) :
    message ∈ (network.nodes node).process.database.committed ↔
      message.sequence ≤ (network.nodes node).process.database.sequences.value message.origin := by
  constructor
  · exact (inOrder.recovering.agreeing.genuine.sound node).consistent.le_mark
  · -- Were it missed, it would be above the mark.
    intro reached
    by_contra missed
    have above := inOrder.mark_lt created missed
    omega

/-- A log may be extended by created messages in order that were not in it. -/
theorem Network.InOrder.ascending_append (inOrder : network.InOrder library mesh) {node : ι}
    {new : List ChatMessage} (ascends : InSequence new)
    (created : ∀ message ∈ new, network.Created message)
    (missed : ∀ message ∈ new,
      message ∉ (network.nodes node).process.database.committed) :
    InSequence ((network.nodes node).process.database.committed ++ new) := by
  apply (inOrder.nodes node).ascending.append ascends
  -- Whatever is in the log is within the mark, and whatever is new is above it.
  intro row stored message member same
  have within := (inOrder.recovering.agreeing.genuine.sound node).consistent.le_mark stored
  have above := inOrder.mark_lt (created message member) (missed message member)
  rw [same] at within
  omega

/-- The next message of a node is above everything stored under its origin. -/
theorem Network.Recovering.lt_nextMessage (recovering : network.Recovering library mesh) {node : ι}
    {service : MessageService} (running : (network.nodes node).process = .running service)
    (now : Int64) (body : Bytes) {row : ChatMessage}
    (stored : row ∈ (network.nodes node).process.database.committed)
    (same : row.origin = (service.nextMessage now body).origin) :
    row.sequence < (service.nextMessage now body).sequence := by
  have agreeing := recovering.agreeing
  -- Whatever has the origin of the node was acknowledged by it, so the counter has passed it.
  have named := same.trans (agreeing.genuine.nextMessage_origin running now body)
  have own := agreeing.genuine.acknowledged_of_origin (agreeing.genuine.stored node row stored) named
  exact (agreeing.acknowledges node).passed service running row own

/-- A local call keeps its node in order. -/
theorem Network.InOrder.node_created (inOrder : network.InOrder library mesh) {node : ι}
    {service : MessageService} (running : (network.nodes node).process = .running service)
    {results : AddResults} (neverFull : results.first.NeverFull) (now : Int64) (body : Bytes) :
    ((network.nodes node).afterCreate (createLocal library now results body service)).InOrder := by
  obtain ⟨new, appends, within⟩ :=
    add_appends neverFull (service.nextMessage now body) service.store
  rw [← createLocal_store library] at appends
  have before := inOrder.nodes node
  have ascends : InSequence ((network.nodes node).process.database.committed ++ new) := by
    apply before.ascending.append (ascending_of_length_le_one within.length_le)
    intro row stored message member same
    -- The one message that may be new is the next one.
    have next := List.mem_singleton.mp (within.subset member)
    subst next
    exact inOrder.recovering.lt_nextMessage running now body stored same
  cases call : createLocal library now results body service with
  | mk outcome after =>
    rw [call] at appends
    cases outcome with
    | error error => exact before.appended running appends ascends before.acknowledged
    | ok message =>
      refine before.appended running appends ascends ?_
      rw [List.pairwise_append]
      refine ⟨before.acknowledged, List.pairwise_singleton _ _, ?_⟩
      intro earlier member later isLater
      -- The message that is returned takes the counter, which has passed all the others.
      have returned : (createLocal library now results body service).1 = .ok message := by rw [call]
      rw [List.mem_singleton.mp isLater, (createLocal_ok library returned).1]
      exact (inOrder.recovering.agreeing.acknowledges node).passed service running earlier member

/-- A request keeps its receiver in order. -/
theorem Network.InOrder.node_delivered (lawful : library.Lawful)
    (inOrder : network.InOrder library mesh) {receiver : ι} (lookup : SqliteResult)
    {results : Nat → AddResults} (neverFull : ∀ index, (results index).first.NeverFull)
    {post : Post} (listed : post ∈ network.posts) :
    (daemonStep library (mesh.identity receiver) (network.nodes receiver)
      (post.action lookup results)).InOrder := by
  have genuine := inOrder.recovering.agreeing.genuine
  have before := inOrder.nodes receiver
  have unaffected := daemonStep_unaffected library (mesh.identity receiver)
    (network.nodes receiver) lookup results post
  cases process : (network.nodes receiver).process with
  | stopped database =>
    -- A stopped node receives nothing.
    have same : daemonStep library (mesh.identity receiver) (network.nodes receiver)
        (post.action lookup results) = network.nodes receiver := by
      cases post <;> simp [daemonStep, Post.action, process]
    rw [same]
    exact before
  | running service =>
    obtain ⟨after, new, running, appends, within⟩ :=
      @daemonStep_appends library (mesh.identity receiver) _ _ process lookup _ neverFull post
    have unpruned := before.unpruned
    rw [process] at unpruned
    have ascends : InSequence ((network.nodes receiver).process.database.committed ++ new) := by
      apply inOrder.ascending_append ((inOrder.posted post listed).sublist within)
      · intro message member
        exact genuine.created_of_received lawful listed (within.subset member)
      · intro message member stored
        rw [process, ← unpruned] at stored
        exact appends.fresh message member stored
    have kept := before.appended process appends ascends
      (unaffected.acknowledged ▸ before.acknowledged)
    rwa [← running] at kept

/-- A restart keeps its node in order. -/
theorem Node.InOrder.restarted {node : Node} (inOrder : node.InOrder) (identity : NodeIdentity)
    (reload : Option Nat) (lookup : SqliteResult) :
    Node.InOrder ⟨startProcess identity reload lookup node.process.database,
      node.acknowledged⟩ := by
  have same := startProcess_database identity reload lookup node.process.database
  refine ⟨?_, ?_, ?_, inOrder.acknowledged⟩
  · simp only [same]
    exact inOrder.ascending
  · simp only [same]
    exact inOrder.unpruned
  · intro service running
    -- A service that opened has read every row.
    obtain ⟨_, stored, _⟩ := openService_ok (startProcess_running running)
    rw [stored]

variable [DecidableEq ι]

/-- Every step without a gap and without pruning keeps a network in order. -/
theorem Stepped.inOrder (lawful : library.Lawful) {action : NetworkAction ι} {after : Network ι}
    (stepped : Stepped library mesh network action after) (inOrder : network.InOrder library mesh)
    (gapless : action.Gapless library network) (neverFull : action.NeverFull) :
    after.InOrder library mesh := by
  have recovering := stepped.recovering lawful inOrder.recovering gapless
  have genuine := inOrder.recovering.agreeing.genuine
  -- What is left is the node that acts, and the requests it makes.
  cases stepped with
  | idle => exact inOrder
  | created node now results parsed service body running accepted =>
    refine ⟨recovering, forall_update (fun _ state => state.InOrder) inOrder.nodes
      (inOrder.node_created running neverFull now body), ?_⟩
    intro post listed
    rcases List.mem_append.mp listed with old | new
    · exact inOrder.posted post old
    · cases returned : (createLocal library now results body service).1 with
      | error error => simp [returned, createdPosts] at new
      | ok message =>
        rw [returned, createdPosts, List.mem_singleton] at new
        subst new
        exact ascending_of_length_le_one (received_replicate_length _)
  | delivered index receiver lookup results post listed =>
    exact ⟨recovering, forall_update (fun _ state => state.InOrder) inOrder.nodes
      (inOrder.node_delivered lawful lookup neverFull (List.mem_of_getElem? listed)),
      inOrder.posted⟩
  | sent node summary service running =>
    refine ⟨recovering, inOrder.nodes, ?_⟩
    intro post listed
    rcases List.mem_append.mp listed with old | new
    · exact inOrder.posted post old
    · rw [List.mem_singleton.mp new]
      -- A batch lists messages as they are cached, and so as they were stored.
      have carries : Post.Carries library _ (missingMessages library service.store.messages summary) :=
        .syncMessages _ (missingMessages_length library service.store.messages summary)
      have delivered := carries.received lawful fun message member =>
        genuine.built_of_created
          (genuine.created_of_cached running (mem_of_mem_missingMessages member))
      have ascends := (inOrder.nodes node).ascending
      rw [← (inOrder.nodes node).unpruned, running, Process.database,
        ← (inOrder.nodes node).cached service running] at ascends
      exact ascends.sublist (delivered.sublist.trans (missingMessages_sublist _ _ _))
  | restarted node reload lookup =>
    exact ⟨recovering, forall_update (fun _ state => state.InOrder) inOrder.nodes
      ((inOrder.nodes node).restarted (mesh.identity node) reload lookup), inOrder.posted⟩

/--
A step that leaves no gap and does not fill the database.

A step without a gap is one in which no counter wraps around, and every restart reads its mark.
-/
def NetworkAction.Orderly (library : JsonC) (network : Network ι) (action : NetworkAction ι) :
    Prop := action.Gapless library network ∧ action.NeverFull

/-- Every network an orderly run reaches is in order. -/
theorem run_inOrder (lawful : library.Lawful) {actions : List (NetworkAction ι)}
    (orderly : Guarded (networkStep library mesh) (NetworkAction.Orderly library)
      (Network.initial mesh) actions) :
    (run (networkStep library mesh) (Network.initial mesh) actions).InOrder library mesh :=
  -- Every orderly step keeps a network in order.
  guarded_invariant (fun network action inOrder orderly => (networkStep_stepped library mesh network
    action).inOrder lawful inOrder orderly.1 orderly.2) orderly (Network.initial_inOrder library mesh)

end InOrder

section Logs

variable {ι : Type*} {library : JsonC} {mesh : Mesh ι} {network : Network ι}

/-- The rows of a node that name another as their origin, as they are stored. -/
def Network.log (mesh : Mesh ι) (network : Network ι) (node author : ι) : List ChatMessage :=
  (network.nodes node).process.database.rows.filter
    fun row => row.origin = (mesh.identity author).nodeId

/-- Every log ascends. -/
theorem Network.InOrder.log_ascends (inOrder : network.InOrder library mesh) (node author : ι) :
    (network.log mesh node author).Pairwise
      fun earlier later => earlier.sequence < later.sequence := by
  -- The rows are all that was stored, which ascends in each origin.
  have ascends := (inOrder.nodes node).ascending
  rw [← (inOrder.nodes node).unpruned] at ascends
  exact ascends.ofKey _

/-- A node's own log lists what it acknowledged. -/
theorem Network.InOrder.own_log (inOrder : network.InOrder library mesh) (author : ι) :
    network.log mesh author author = (network.nodes author).acknowledged := by
  -- Both lists ascend, so it is enough that they have the same members.
  have genuine := inOrder.recovering.agreeing.genuine
  have ascends := inOrder.log_ascends author author
  have members : ∀ message, message ∈ network.log mesh author author ↔
      message ∈ (network.nodes author).acknowledged := by
    intro message
    rw [Network.log, List.mem_filter, decide_eq_true_eq]
    constructor
    · intro logged
      exact genuine.acknowledged_of_origin (genuine.created_of_row logged.1) logged.2
    · intro member
      have committed := (inOrder.recovering.agreeing.acknowledges author).committed message member
      rw [← (inOrder.nodes author).unpruned] at committed
      exact ⟨committed, (genuine.built author message member).origin⟩
  exact eq_of_ascends _ ascends (inOrder.nodes author).acknowledged members

/-- What a node has stored of an author is what its mark has reached of what the author acknowledged. -/
theorem Network.InOrder.log_eq (inOrder : network.InOrder library mesh) (node author : ι) :
    network.log mesh node author = (network.nodes author).acknowledged.takeWhile fun message =>
      message.sequence ≤
        (network.nodes node).process.database.sequences.value (mesh.identity author).nodeId := by
  -- Both lists ascend, so it is enough that they have the same members.
  have genuine := inOrder.recovering.agreeing.genuine
  have acknowledged := (inOrder.nodes author).acknowledged
  rw [← filter_le_eq_takeWhile _ acknowledged]
  apply eq_of_ascends _ (inOrder.log_ascends node author) (acknowledged.filter _)
  intro message
  rw [Network.log, List.mem_filter, List.mem_filter, decide_eq_true_eq, decide_eq_true_eq,
    (inOrder.nodes node).unpruned]
  constructor
  · intro logged
    have created := genuine.stored node message logged.1
    have reached := (inOrder.committed_iff node created).mp logged.1
    rw [logged.2] at reached
    exact ⟨genuine.acknowledged_of_origin created logged.2, reached⟩
  · intro both
    have origin := (genuine.built author message both.1).origin
    refine ⟨(inOrder.committed_iff node ⟨author, both.1⟩).mpr ?_, origin⟩
    rw [origin]
    exact both.2

/--
In orderly runs every node holds a prefix of every node's log.

No gap is left, no database fills up, no counter wraps around, and every restart reads its mark.

Whatever a node has stored of another's messages is the beginning of what the other acknowledged,
in the same order and with nothing left out, and it ends where the mark of the origin says.
-/
theorem logs_ordered [DecidableEq ι] (lawful : library.Lawful) (mesh : Mesh ι)
    {actions : List (NetworkAction ι)}
    (orderly : Guarded (networkStep library mesh) (NetworkAction.Orderly library)
      (Network.initial mesh) actions) :
    let network := run (networkStep library mesh) (Network.initial mesh) actions
    (∀ node, ∀ row ∈ (network.nodes node).process.database.rows,
      ∃ author, row ∈ network.log mesh node author) ∧
    (∀ author, network.log mesh author author = (network.nodes author).acknowledged) ∧
    ∀ node author,
      network.log mesh node author <+: (network.nodes author).acknowledged ∧
      network.log mesh node author = (network.nodes author).acknowledged.takeWhile fun message =>
        message.sequence ≤
          (network.nodes node).process.database.sequences.value (mesh.identity author).nodeId := by
  intro network
  have inOrder : network.InOrder library mesh := run_inOrder lawful orderly
  have genuine := inOrder.recovering.agreeing.genuine
  refine ⟨?_, inOrder.own_log, ?_⟩
  · intro node row stored
    -- Every row was built by the node it names.
    obtain ⟨author, created⟩ := genuine.created_of_row stored
    refine ⟨author, List.mem_filter.mpr ⟨stored, ?_⟩⟩
    exact decide_eq_true (genuine.built author row created).origin
  · intro node author
    have log := inOrder.log_eq node author
    refine ⟨?_, log⟩
    rw [log]
    exact List.takeWhile_prefix _

/-- A node that was sent the first of two messages holds it, and nothing of the second. -/
theorem logs_ordered_first :
    let actions : List (NetworkAction Bool) := [
      .create false 1 {} (createRequest (ascii "one")),
      .create false 2 {} (createRequest (ascii "two")),
      .deliver 0 true .ok fun _ => {}]
    let network := run (networkStep plainJsonC pairMesh) (Network.initial pairMesh) actions
    network.log pairMesh true false <+: (network.nodes false).acknowledged ∧
      (network.log pairMesh true false).map ChatMessage.messageId = [ascii "a:1"] ∧
      (network.nodes false).acknowledged.map ChatMessage.messageId =
        [ascii "a:1", ascii "a:2"] := by
  intro actions network
  -- The one message that is delivered is the first of its author.
  have gapless : Guarded (networkStep plainJsonC pairMesh)
      (fun network action => action.Gapless plainJsonC network) (Network.initial pairMesh)
      actions := by decide +kernel
  have clean : ({} : AddResults).first.NeverFull := InsertResults.neverFull_default
  have orderly : Guarded (networkStep plainJsonC pairMesh) (NetworkAction.Orderly plainJsonC)
      (Network.initial pairMesh) actions :=
    ⟨⟨gapless.1, clean⟩, ⟨gapless.2.1, clean⟩, ⟨gapless.2.2.1, fun _ => clean⟩, trivial⟩
  exact ⟨((logs_ordered plainJsonC_lawful pairMesh orderly).2.2 true false).1, by decide +kernel,
    by decide +kernel⟩

end Logs

end LesChat
