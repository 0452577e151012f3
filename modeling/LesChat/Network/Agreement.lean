import LesChat.Network.Genuine
import LesChat.Service.Acknowledged

/-! Agreement: whatever any node stores or sends is what the node named in its origin stored first. -/

namespace LesChat

open Foundation

section Guard

variable {ι : Type*}

/-- No counter wraps around, and every restart reads its mark. -/
def NetworkAction.Unwrapped (network : Network ι) : NetworkAction ι → Prop
  | .create node _ _ _ =>
    ∀ service ∈ (network.nodes node).process.service?, service.nextSequence ≠ 2 ^ 64 - 1
  | .restart _ _ lookup => lookup = .ok
  | _ => True

/-- Whether a step leaves the counters unwrapped can be checked. -/
instance (network : Network ι) : DecidablePred (NetworkAction.Unwrapped network)
  | .create node _ _ _ => inferInstanceAs (Decidable
      (∀ service ∈ (network.nodes node).process.service?, service.nextSequence ≠ 2 ^ 64 - 1))
  | .restart _ _ lookup => inferInstanceAs (Decidable (lookup = .ok))
  | .deliver _ _ _ _ => isTrue trivial
  | .sendMissing _ _ => isTrue trivial

/-- A message is held when it is stored or cached at a node, or can be received from a request. -/
inductive Network.Holds (library : JsonC) (network : Network ι) (message : ChatMessage) : Prop where
  /-- A row of a node. -/
  | stored (node : ι) (member : message ∈ (network.nodes node).process.database.rows)
  /-- A message `messages()` of a node returns. -/
  | cached (node : ι) (member : message ∈ (network.nodes node).process.messages)
  /-- A message in flight. -/
  | inFlight (post : Post) (listed : post ∈ network.posts)
    (member : message ∈ post.received library)

/-- The node named in the origin built the message, returned it from `create_local`, and stored it. -/
def Network.Authentic (mesh : Mesh ι) (network : Network ι) (message : ChatMessage) : Prop :=
  ∃ author, message.origin = (mesh.identity author).nodeId ∧
    BuiltBy (mesh.identity author) message ∧
    message ∈ (network.nodes author).acknowledged ∧
    message ∈ (network.nodes author).process.database.committed

/-- What holds of a network whose counters never wrapped around. -/
structure Network.Agreeing (library : JsonC) (mesh : Mesh ι) (network : Network ι) : Prop where
  /-- Every message was created. -/
  genuine : network.Genuine library mesh
  /-- Every node stored what it acknowledged, under identities it used once. -/
  acknowledges : ∀ node, (network.nodes node).Acknowledges (mesh.identity node)

variable {library : JsonC} {mesh : Mesh ι} {network : Network ι}

/-- New networks agree. -/
theorem Network.initial_agreeing (library : JsonC) (mesh : Mesh ι) :
    (Network.initial mesh).Agreeing library mesh where
  -- Nothing was created, so nothing has to agree.
  genuine := Network.initial_genuine library mesh
  acknowledges := fun node => Node.initial_acknowledges (mesh.identity node)

/-- Two nodes that built messages with the same identifier or the same key are one node. -/
theorem Mesh.author_unique (mesh : Mesh ι) {first second : ι} {left right : ChatMessage}
    (leftBuilt : BuiltBy (mesh.identity first) left)
    (rightBuilt : BuiltBy (mesh.identity second) right)
    (same : left.messageId = right.messageId ∨
      (left.origin, left.sequence) = (right.origin, right.sequence)) :
    first = second ∧ left.sequence = right.sequence := by
  have valid : ∀ node, isValidNodeId (mesh.identity node).nodeId = true := fun node =>
    ((checkIdentity_eq_ok _).mp (mesh.accepted node).checked).1
  rcases same with sameId | sameKey
  · -- An identifier names its node up to the first colon, and its sequence after it.
    rw [leftBuilt.messageId, rightBuilt.messageId] at sameId
    have author := mesh.distinct (messageId_nodeId (valid first) (valid second) sameId)
    subst author
    exact ⟨rfl, messageId_injective _ sameId⟩
  · rw [leftBuilt.origin, rightBuilt.origin, Prod.mk.injEq] at sameKey
    exact ⟨mesh.distinct sameKey.1, sameKey.2⟩

/-- A message that was created is authentic. -/
theorem Network.Agreeing.authentic (agreeing : network.Agreeing library mesh)
    {message : ChatMessage} (created : network.Created message) :
    network.Authentic mesh message := by
  -- Some node acknowledged it, and so built it under its own name and stored it.
  obtain ⟨author, member⟩ := created
  have built := agreeing.genuine.built author message member
  exact ⟨author, built.origin, built, member,
    (agreeing.acknowledges author).committed message member⟩

/-- Created messages with the same identifier, or with the same key, are the same message. -/
theorem Network.Agreeing.eq_of_same (agreeing : network.Agreeing library mesh)
    {left right : ChatMessage} (leftCreated : network.Created left)
    (rightCreated : network.Created right)
    (same : left.messageId = right.messageId ∨
      (left.origin, left.sequence) = (right.origin, right.sequence)) : left = right := by
  -- Both were acknowledged by the node their identity names.
  obtain ⟨first, leftMember⟩ := leftCreated
  obtain ⟨second, rightMember⟩ := rightCreated
  obtain ⟨rfl, sameSequence⟩ := mesh.author_unique
    (agreeing.genuine.built first left leftMember)
    (agreeing.genuine.built second right rightMember) same
  -- Their common author used the sequence once.
  exact List.inj_on_of_nodup_map (agreeing.acknowledges first).once leftMember rightMember
    sameSequence

/-- Everything that is held was created. -/
theorem Network.Holds.created (lawful : library.Lawful) (genuine : network.Genuine library mesh)
    {message : ChatMessage} (holds : network.Holds library message) : network.Created message := by
  -- One case for each place a message can be held in.
  cases holds with
  | stored node member =>
    exact genuine.stored node message ((genuine.sound node).consistent.committed_of_mem member)
  | cached node member =>
    cases running : (network.nodes node).process with
    | stopped database => simp [running, Process.messages] at member
    | running service =>
      rw [running] at member
      exact genuine.created_of_cached running member
  | inFlight post listed member => exact genuine.created_of_received lawful listed member

/-- Unless its counter wraps around, the next identity of a node is unclaimed. -/
theorem Network.Agreeing.unclaimed (agreeing : network.Agreeing library mesh) {node : ι}
    {service : MessageService} (running : (network.nodes node).process = .running service)
    (unwrapped : service.nextSequence ≠ 2 ^ 64 - 1) : service.Unclaimed := by
  -- Two things have to be shown: the counter does not wrap, and no row is in the way.
  have acknowledges := agreeing.acknowledges node
  have sound := acknowledges.sound
  rw [running] at sound
  have named : service.identity = mesh.identity node := MessageService.Sound.named sound
  refine ⟨unwrapped, fun row member => ?_⟩
  -- Every row was created, and a row with the next identity would be one of this node's own.
  have stored : row ∈ (network.nodes node).process.database.committed := by
    refine (agreeing.genuine.sound node).consistent.committed_of_mem ?_
    rwa [running]
  obtain ⟨author, created⟩ := agreeing.genuine.stored node row stored
  have built := agreeing.genuine.built author row created
  have passed : author = node → row.sequence < service.nextSequence := by
    intro same
    subst same
    exact acknowledges.passed service running row created
  rw [named]
  constructor
  · intro sameId
    rw [built.messageId] at sameId
    -- An identifier made of the next number could only be one of this node's own.
    have author_eq := mesh.distinct (messageId_nodeId
      ((checkIdentity_eq_ok _).mp (mesh.accepted author).checked).1
      ((checkIdentity_eq_ok _).mp (mesh.accepted node).checked).1 sameId)
    have below := passed author_eq
    subst author_eq
    have sequence := messageId_injective _ sameId
    omega
  · intro sameKey
    rw [built.origin, Prod.mk.injEq] at sameKey
    have below := passed (mesh.distinct sameKey.1)
    omega

end Guard

section Steps

variable {ι : Type*} [DecidableEq ι] {library : JsonC} {mesh : Mesh ι} {network : Network ι}

/-- Receiving a request keeps what a node acknowledged. -/
theorem daemonStep_acknowledges {identity : NodeIdentity} {node : Node}
    (acknowledges : node.Acknowledges identity) (lookup : SqliteResult)
    (results : Nat → AddResults) (post : Post) :
    (daemonStep library identity node (post.action lookup results)).Acknowledges identity := by
  -- A request makes no local call and does not restart the daemon.
  refine daemonStep_keeps (fun after => after.Acknowledges identity) acknowledges ?_ ?_ ?_ ?_
  · intro now results parsed same
    cases post <;> simp [Post.action] at same
  · intro lookup results request _ service running message _
    have before : Node.Acknowledges identity ⟨.running service, node.acknowledged⟩ := by
      rw [← running]
      exact acknowledges
    have sound : service.Sound identity := before.sound
    refine before.ingested (sound.ingestReplica library lookup results message)
      (ingestReplica_nextSequence _ _ _ _ _) ?_
    rw [ingestReplica_store]
    split
    · exact fun row member => member
    · exact add_committed_subset _ _ _
  · intro results request _ message _ index service before
    have sound : service.Sound identity := before.sound
    refine before.ingested (sound.ingestSync library (results index) message)
      (ingestSync_nextSequence _ _ _ _) ?_
    rw [ingestSync_store]
    exact add_committed_subset _ _ _
  · intro reload lookup same
    cases post <;> simp [Post.action] at same

/-- A step under which no counter wraps around keeps a network agreeing. -/
theorem Stepped.agreeing (lawful : library.Lawful) {action : NetworkAction ι} {after : Network ι}
    (stepped : Stepped library mesh network action after)
    (agreeing : network.Agreeing library mesh) (unwrapped : action.Unwrapped network) :
    after.Agreeing library mesh := by
  -- What is left is that each node keeps what it acknowledged.
  refine ⟨stepped.genuine lawful agreeing.genuine, ?_⟩
  have others := agreeing.acknowledges
  cases stepped with
  | idle => exact others
  | created node now results parsed service body running accepted =>
    refine forall_update (fun node state => state.Acknowledges (mesh.identity node)) others ?_
    have own := others node
    rw [show network.nodes node = ⟨.running service, (network.nodes node).acknowledged⟩ by
      rw [← running]] at own ⊢
    exact own.created (agreeing.unclaimed running (unwrapped service (by rw [running]; rfl))) now
      results body
  | delivered index receiver lookup results post listed =>
    exact forall_update (fun node state => state.Acknowledges (mesh.identity node)) others
      (daemonStep_acknowledges (others receiver) lookup results post)
  | sent => exact others
  | restarted node reload lookup =>
    refine forall_update (fun node state => state.Acknowledges (mesh.identity node)) others ?_
    simp only [NetworkAction.Unwrapped] at unwrapped
    subst unwrapped
    exact (others node).restarted reload

/-- Every network an unwrapped run reaches agrees. -/
theorem run_agreeing (lawful : library.Lawful) {actions : List (NetworkAction ι)}
    (unwrapped : Guarded (networkStep library mesh) NetworkAction.Unwrapped (Network.initial mesh)
      actions) :
    (run (networkStep library mesh) (Network.initial mesh) actions).Agreeing library mesh :=
  -- Every step without a wrapped counter keeps a network agreeing.
  guarded_invariant (fun network action agreeing => (networkStep_stepped library mesh network
    action).agreeing lawful agreeing) unwrapped (Network.initial_agreeing library mesh)

/-- What was created at some point of a run is created at its end. -/
theorem run_created {start : Network ι} (actions : List (NetworkAction ι)) (count : Nat)
    {message : ChatMessage}
    (created : (run (networkStep library mesh) start (actions.take count)).Created message) :
    (run (networkStep library mesh) start actions).Created message := by
  -- The rest of the run keeps whatever was created.
  rw [← List.take_append_drop count actions, run_append]
  exact run_invariant (fun network action before => (networkStep_stepped library mesh network
    action).created_kept before) (actions.drop count) created

/--
Agreement across the nodes of a network.

Unless a counter wraps around, whatever is stored, cached or in flight at some point of a run is
the message its origin built and stored, and no two different messages are ever held under one
identifier or under one origin and sequence.
-/
theorem messages_agree (lawful : library.Lawful) (mesh : Mesh ι) {actions : List (NetworkAction ι)}
    (unwrapped : Guarded (networkStep library mesh) NetworkAction.Unwrapped (Network.initial mesh)
      actions) :
    let network := fun count =>
      run (networkStep library mesh) (Network.initial mesh) (actions.take count)
    (∀ count message, (network count).Holds library message →
      (network count).Authentic mesh message) ∧
    (∀ count, ∀ post ∈ (network count).posts, ∃ messages, post.Carries library messages ∧
      ∀ message ∈ messages, (network count).Authentic mesh message) ∧
    ∀ first second left right, (network first).Holds library left →
      (network second).Holds library right → left.messageId = right.messageId ∨
        (left.origin, left.sequence) = (right.origin, right.sequence) → left = right := by
  intro network
  have agreeing : ∀ count, (network count).Agreeing library mesh := fun count =>
    run_agreeing lawful (unwrapped.take count)
  refine ⟨?_, ?_, ?_⟩
  · intro count message holds
    exact (agreeing count).authentic (holds.created lawful (agreeing count).genuine)
  · intro count post listed
    obtain ⟨messages, carries, created⟩ := (agreeing count).genuine.posted post listed
    exact ⟨messages, carries, fun message member =>
      (agreeing count).authentic (created message member)⟩
  · -- Both messages are created by the end of the run, where they are compared.
    intro first second left right leftHolds rightHolds same
    exact (run_agreeing lawful unwrapped).eq_of_same
      (run_created actions first (leftHolds.created lawful (agreeing first).genuine))
      (run_created actions second (rightHolds.created lawful (agreeing second).genuine)) same

end Steps

/-- Two nodes exchange a message, and one of them restarts and creates another. -/
theorem messages_agree_pair :
    let actions : List (NetworkAction Bool) := [
      .create false 1 {} (createRequest (ascii "one")),
      .deliver 0 true .ok fun _ => {},
      .restart false none .ok,
      .create false 2 {} (createRequest (ascii "two"))]
    let network := run (networkStep plainJsonC pairMesh) (Network.initial pairMesh) actions
    (∀ message, network.Holds plainJsonC message → network.Authentic pairMesh message) ∧
      (network.nodes true).process.database.rows.map ChatMessage.messageId = [ascii "a:1"] ∧
      (network.nodes false).process.database.rows.map ChatMessage.messageId =
        [ascii "a:1", ascii "a:2"] := by
  -- The restart reads the mark, so the second message gets a number of its own.
  intro actions network
  refine ⟨?_, by decide +kernel, by decide +kernel⟩
  have authentic := (messages_agree plainJsonC_lawful pairMesh
    (show Guarded (networkStep plainJsonC pairMesh) NetworkAction.Unwrapped
      (Network.initial pairMesh) actions by decide +kernel)).1 4
  exact authentic

section Wrapping

variable {ι : Type*} [DecidableEq ι] (library : JsonC) (mesh : Mesh ι)

/-- The outcomes of an `add` whose transaction cannot begin. -/
def cannotBegin : AddResults := { first := { beginImmediate := .error } }

/-- A local call whose transaction cannot begin only moves the counter. -/
theorem createLocal_cannotBegin (now : Int64) (body : Bytes) (service : MessageService) :
    ∃ error, createLocal library now cannotBegin body service =
      (.error error, { service with nextSequence := (service.nextSequence + 1) % 2 ^ 64 }) :=
  -- The number is taken before the store is called.
  ⟨_, rfl⟩

/-- A step that makes such a call changes nothing else in the network. -/
theorem networkStep_cannotBegin {network : Network ι} {node : ι} {service : MessageService}
    (running : (network.nodes node).process = .running service) (now : Int64) {body : Bytes}
    (accepted : messageBody (createRequest body) = .ok body) :
    networkStep library mesh network (.create node now cannotBegin (createRequest body)) =
      ⟨Function.update network.nodes node
        ⟨.running { service with nextSequence := (service.nextSequence + 1) % 2 ^ 64 },
          (network.nodes node).acknowledged⟩, network.posts⟩ := by
  obtain ⟨error, call⟩ := createLocal_cannotBegin library now body service
  have after : daemonStep library (mesh.identity node) (network.nodes node)
      (.create now cannotBegin (createRequest body)) =
      ⟨.running { service with nextSequence := (service.nextSequence + 1) % 2 ^ 64 },
        (network.nodes node).acknowledged⟩ := by
    simp only [daemonStep, running, accepted, call, Node.afterCreate]
  -- Nothing was broadcast, so nothing is posted.
  simp [networkStep, Network.act, after, running, newBroadcasts]

/-- A series of such calls moves the counter on by their number. -/
theorem run_cannotBegin {network : Network ι} {node : ι} {service : MessageService}
    (running : (network.nodes node).process = .running service)
    (bounded : service.nextSequence < 2 ^ 64) (now : Int64) {body : Bytes}
    (accepted : messageBody (createRequest body) = .ok body) (count : Nat) :
    run (networkStep library mesh) network
        (List.replicate count (.create node now cannotBegin (createRequest body))) =
      ⟨Function.update network.nodes node
        ⟨.running { service with nextSequence := (service.nextSequence + count) % 2 ^ 64 },
          (network.nodes node).acknowledged⟩, network.posts⟩ := by
  -- The induction is on the number of calls, each of which adds one to the counter.
  induction count generalizing network service with
  | zero =>
    have same : network.nodes node = ⟨.running service, (network.nodes node).acknowledged⟩ := by
      rw [← running]
    rw [Nat.add_zero, Nat.mod_eq_of_lt bounded, ← same, Function.update_eq_self]
    rfl
  | succ count ih =>
    have moved : ((Function.update network.nodes node
        ⟨.running { service with nextSequence := (service.nextSequence + 1) % 2 ^ 64 },
          (network.nodes node).acknowledged⟩) node).process =
        .running { service with nextSequence := (service.nextSequence + 1) % 2 ^ 64 } := by
      rw [Function.update_self]
    have limit : (service.nextSequence + 1) % 2 ^ 64 < 2 ^ 64 := Nat.mod_lt _ (by decide)
    -- The remaining calls start from the counter after the first.
    have rest := @ih ⟨_, network.posts⟩ _ moved limit
    rw [List.replicate_succ, run_cons, networkStep_cannotBegin library mesh running now accepted,
      rest]
    have total : ((service.nextSequence + 1) % 2 ^ 64 + count) % 2 ^ 64 =
        (service.nextSequence + (count + 1)) % 2 ^ 64 := by omega
    simp only [Function.update_self, Function.update_idem, total]

end Wrapping

/-- The steps of a network whose node a fails a number of times between two messages. -/
def wrappingActions (count : Nat) : List (NetworkAction Bool) :=
  .create false 1 {} (createRequest (ascii "one")) ::
    (List.replicate count (.create false 2 cannotBegin (createRequest (ascii "none"))) ++
      [.create false 3 {} (createRequest (ascii "two")), .deliver 1 true .ok fun _ => {}])

/-- The failing calls leave everything but the counter as the first call left it. -/
theorem run_wrappingActions (count : Nat) :
    let first := networkStep plainJsonC pairMesh (Network.initial pairMesh)
      (.create false 1 {} (createRequest (ascii "one")))
    let service := (createLocal plainJsonC 1 {} (ascii "one")
      (MessageService.initial (pairMesh.identity false))).2
    run (networkStep plainJsonC pairMesh) (Network.initial pairMesh) (wrappingActions count) =
      run (networkStep plainJsonC pairMesh)
        ⟨Function.update first.nodes false
          ⟨.running { service with nextSequence := (service.nextSequence + count) % 2 ^ 64 },
            (first.nodes false).acknowledged⟩, first.posts⟩
        [.create false 3 {} (createRequest (ascii "two")), .deliver 1 true .ok fun _ => {}] := by
  intro first service
  have running : (first.nodes false).process = .running service := rfl
  have bounded : service.nextSequence < 2 ^ 64 := by decide +kernel
  have accepted : messageBody (createRequest (ascii "none")) = .ok (ascii "none") := by
    decide +kernel
  -- The run is split into the first call, the failing calls and the last two steps.
  rw [wrappingActions, run_cons, run_append,
    run_cannotBegin plainJsonC pairMesh running bounded 2 accepted]

/--
A counter that wraps around issues an identity again.

After a first message, 2^64 - 1 failing calls bring the counter back to one, and the next call
returns and posts another message under the identity of the first, which is still stored.
-/
theorem messages_disagree_wrapped :
    let network := run (networkStep plainJsonC pairMesh) (Network.initial pairMesh)
      (wrappingActions (2 ^ 64 - 1))
    ∃ left right, network.Holds plainJsonC left ∧ network.Holds plainJsonC right ∧
      left.messageId = right.messageId ∧ left.body = ascii "one" ∧ right.body = ascii "two" := by
  -- The number one is used twice, and each node keeps the message it has.
  intro network
  have final : network = _ := run_wrappingActions (2 ^ 64 - 1)
  refine ⟨localMessage (pairMesh.identity false) 1 1 (ascii "one"),
    localMessage (pairMesh.identity false) 1 3 (ascii "two"), ?_, ?_,
    by decide +kernel, by decide +kernel, by decide +kernel⟩
  · rw [final]
    exact .stored false (by decide +kernel)
  · rw [final]
    exact .stored true (by decide +kernel)

end LesChat
