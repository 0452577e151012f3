import LesChat.Http.Daemon
import LesChat.Sync.SyncService
import Mathlib.Logic.Function.Basic

/-! A network of daemons, the requests under way between them, and every step it can take. -/

namespace LesChat

open Foundation

/-- The identities of a network: each accepted by its daemon, and all of them different. -/
structure Mesh (ι : Type*) where
  /-- The identity each node runs under. -/
  identity : ι → NodeIdentity
  /-- Every identity passed the checks of `main`. -/
  accepted : ∀ node, (identity node).Accepted
  /-- No two nodes have the same identifier. -/
  distinct : Function.Injective fun node => (identity node).nodeId

/-- A network of two nodes, named a and b. -/
def pairMesh : Mesh Bool where
  identity
    | false => ⟨ascii "a", ascii "Alice"⟩
    | true => ⟨ascii "b", ascii "Bob"⟩
  accepted
    | false => ⟨by decide +kernel, by decide +kernel⟩
    | true => ⟨by decide +kernel, by decide +kernel⟩
  distinct := by
    have different : ascii "a" ≠ ascii "b" := by decide +kernel
    rintro (_ | _) (_ | _) same
    · rfl
    · exact absurd same different
    · exact absurd same.symm different
    · rfl

/-- A request one daemon makes to another. -/
inductive Post where
  /-- A message, posted to `/api/v1/replicate`. -/
  | replicate (payload : Bytes)
  /-- A batch, posted to `/api/v1/sync/messages`. -/
  | syncMessages (batch : Bytes)
deriving DecidableEq

/--
The nodes of a network, and every request ever made.

A request stays listed, so that it can be delivered late, twice, out of order, or never.
-/
structure Network (ι : Type*) where
  /-- The nodes, each with its process. -/
  nodes : ι → Node
  /-- The requests made so far, in order. -/
  posts : List Post

/-- The parsed request to create a message with a body. -/
def createRequest (body : Bytes) : Json := .object [(ascii "body", .string body)]

/-- One step of a network. -/
inductive NetworkAction (ι : Type*) where
  /-- A node handles a parsed `create_message` request. -/
  | create (node : ι) (now : Int64) (results : AddResults) (parsed : Json)
  /-- A node handles one of the requests made so far. -/
  | deliver (index : Nat) (receiver : ι) (lookup : SqliteResult) (results : Nat → AddResults)
  /-- A node runs `send_missing` on some summary, however old. -/
  | sendMissing (node : ι) (summary : Bytes)
  /-- A node stops and is started on the same file. -/
  | restart (node : ι) (reload : Option Nat) (lookup : SqliteResult)

/-- What the service of a process has broadcast since an earlier moment. -/
def newBroadcasts : (before after : Process) → List Bytes
  -- A record of broadcasts only grows while its process runs, so what is new is at its end.
  | .running before, .running after => after.broadcasts.drop before.broadcasts.length
  | _, _ => []

/-- How a daemon receives a request. -/
def Post.action (lookup : SqliteResult) (results : Nat → AddResults) : Post → DaemonAction
  -- A replicated message makes at most one call of `add`, a batch one for each item.
  | .replicate payload => .replicate lookup (results 0) (jsonRequest payload)
  | .syncMessages batch => .synchronize results (jsonRequest batch)

section Steps

variable {ι : Type*} (library : JsonC) (mesh : Mesh ι)

/-- The network after a node ran `send_missing`: a batch that is sent is posted. -/
def Network.afterSendMissing (network : Network ι) (node : ι) (summary : Bytes) : Network ι :=
  match (network.nodes node).process with
  | .stopped _ => network
  | .running service =>
    match sendMissing library service.store.messages summary with
    | .ok (some batch) => { network with posts := network.posts ++ [.syncMessages batch] }
    -- An answer that was refused, or a summary that leaves nothing out, sends nothing.
    | _ => network

/-- A network whose nodes were all just started on new files. -/
def Network.initial : Network ι where
  nodes := fun node => Node.initial (mesh.identity node)
  posts := []

variable [DecidableEq ι]

/-- The network after an action of one node: whatever it broadcasts is posted. -/
def Network.act (network : Network ι) (node : ι) (action : DaemonAction) : Network ι :=
  -- `broadcast` makes its requests once: `handle_response` never repeats a failed one.
  let after := daemonStep library (mesh.identity node) (network.nodes node) action
  { nodes := Function.update network.nodes node after
    posts := network.posts ++
      (newBroadcasts (network.nodes node).process after.process).map Post.replicate }

/-- The network after one step. -/
def networkStep (network : Network ι) : NetworkAction ι → Network ι
  | .create node now results parsed =>
    network.act library mesh node (.create now results parsed)
  | .deliver index receiver lookup results =>
    match network.posts[index]? with
    | some post => network.act library mesh receiver (post.action lookup results)
    -- A request that nobody made cannot arrive.
    | none => network
  | .sendMissing node summary => network.afterSendMissing library node summary
  -- The requests of the process that stopped stay under way.
  | .restart node reload lookup => network.act library mesh node (.restart reload lookup)

end Steps

section Effects

variable (library : JsonC) (identity : NodeIdentity) (node : Node)

/-- The messages a daemon ingests from a request. -/
def Post.received : Post → List ChatMessage
  | .replicate payload => replicatedMessages library (jsonRequest payload)
  | .syncMessages batch => synchronizedMessages library (jsonRequest batch)

/-- A `create_message` request is refused, or it makes one local call. -/
theorem daemonStep_create (now : Int64) (results : AddResults) (parsed : Json) :
    daemonStep library identity node (.create now results parsed) = node ∨
      ∃ service body, node.process = .running service ∧ AcceptedBody body ∧
        daemonStep library identity node (.create now results parsed) =
          node.afterCreate (createLocal library now results body service) := by
  unfold daemonStep
  dsimp only
  split
  · rename_i service body running accepted
    -- The daemon runs and the body passed the checks of the handler.
    exact .inr ⟨service, body, running, (messageBody_eq_ok.mp accepted).2, rfl⟩
  · exact .inl rfl

/-- What a request leaves alone: what was acknowledged, the counter, and what was broadcast. -/
structure Unaffected (before after : Node) : Prop where
  /-- Nothing more is acknowledged. -/
  acknowledged : after.acknowledged = before.acknowledged
  /-- A running daemon keeps running, with its counter and its broadcasts. -/
  service : ∀ old, before.process = .running old → ∃ new, after.process = .running new ∧
    new.nextSequence = old.nextSequence ∧ new.broadcasts = old.broadcasts
  /-- A stopped daemon stays stopped. -/
  stopped : ∀ database, before.process = .stopped database → after.process = .stopped database

/-- A node is unaffected by what did not happen. -/
theorem Unaffected.refl (node : Node) : Unaffected node node :=
  -- The node is its own successor.
  ⟨rfl, fun old running => ⟨old, running, rfl, rfl⟩, fun _ stopped => stopped⟩

/-- A further ingest of the running service leaves the node unaffected. -/
private theorem Unaffected.ingested {node : Node} {acknowledged : List ChatMessage}
    {service after : MessageService}
    (unaffected : Unaffected node ⟨.running service, acknowledged⟩)
    (counter : after.nextSequence = service.nextSequence)
    (broadcasts : after.broadcasts = service.broadcasts) :
    Unaffected node ⟨.running after, acknowledged⟩ where
  acknowledged := unaffected.acknowledged
  service := by
    intro old running
    -- The service is another one now, with the same counter and the same broadcasts.
    obtain ⟨new, same, oldCounter, oldBroadcasts⟩ := unaffected.service old running
    cases same
    exact ⟨after, rfl, counter.trans oldCounter, broadcasts.trans oldBroadcasts⟩
  stopped := by
    intro database stopped
    simpa using unaffected.stopped database stopped

/-- Receiving a request leaves everything but the store alone. -/
theorem daemonStep_unaffected (lookup : SqliteResult) (results : Nat → AddResults) (post : Post) :
    Unaffected node (daemonStep library identity node (post.action lookup results)) := by
  -- One goal for each kind of action; a request is neither the first nor the last.
  refine daemonStep_keeps (fun after => Unaffected node after) (Unaffected.refl node) ?_ ?_ ?_ ?_
  · intro now results parsed same
    cases post <;> simp [Post.action] at same
  · intro lookup results request _ service running message _
    have before : Unaffected node ⟨.running service, node.acknowledged⟩ := by
      rw [← running]
      exact Unaffected.refl node
    exact before.ingested (ingestReplica_nextSequence _ _ _ _ _) (ingestReplica_broadcasts _ _ _ _ _)
  · intro results request _ message _ index service before
    exact before.ingested (ingestSync_nextSequence _ _ _ _) (ingestSync_broadcasts _ _ _ _)
  · intro reload lookup same
    cases post <;> simp [Post.action] at same

/-- A request makes no daemon broadcast. -/
theorem newBroadcasts_received {before after : Node} (unaffected : Unaffected before after) :
    newBroadcasts before.process after.process = [] := by
  -- A node that is unaffected has broadcast what it had before.
  cases process : before.process with
  | stopped database => rfl
  | running old =>
    obtain ⟨new, running, _, broadcasts⟩ := unaffected.service old process
    simp [running, newBroadcasts, broadcasts]

/-- A restarted daemon has not broadcast yet. -/
theorem newBroadcasts_restart (reload : Option Nat) (lookup : SqliteResult) :
    newBroadcasts node.process
      (daemonStep library identity node (.restart reload lookup)).process = [] := by
  simp only [daemonStep, startProcess]
  split
  · rename_i service opened
    -- A service is built with an empty record of broadcasts.
    have fresh : service.broadcasts = [] := (openService_silent opened).2
    cases node.process <;> simp [newBroadcasts, fresh]
  · cases node.process <;> rfl

/-- Everything committed while a request is handled was in it. -/
theorem daemonStep_committed (lookup : SqliteResult) (results : Nat → AddResults) (post : Post) :
    ∀ message ∈ (daemonStep library identity node
        (post.action lookup results)).process.database.committed,
      message ∈ node.process.database.committed ∨ message ∈ post.received library := by
  -- The record of commits grows by what one `add` of the request reports as committed.
  refine daemonStep_keeps (fun after => ∀ message ∈ after.process.database.committed,
    message ∈ node.process.database.committed ∨ message ∈ post.received library)
    (fun message member => .inl member) ?_ ?_ ?_ ?_
  · intro now results parsed same
    cases post <;> simp [Post.action] at same
  · intro lookup results request same service running message carried row member
    cases post with
    | syncMessages batch => simp [Post.action] at same
    | replicate payload =>
      simp only [Post.action, DaemonAction.replicate.injEq] at same
      obtain ⟨rfl, rfl, rfl⟩ := same
      rw [running]
      simp only [Process.database, ingestReplica_store] at member ⊢
      split at member
      · exact .inl member
      · rw [(add_added _ _ _).committed_eq] at member
        rcases List.mem_append.mp member with old | new
        · exact .inl old
        · split at new
          · rw [List.mem_singleton.mp new]
            exact .inr carried
          · simp at new
  · intro results request same message carried index service before row member
    cases post with
    | replicate payload => simp [Post.action] at same
    | syncMessages batch =>
      simp only [Post.action, DaemonAction.synchronize.injEq] at same
      obtain ⟨rfl, rfl⟩ := same
      simp only [Process.database, ingestSync_store] at member before
      rw [(add_added _ _ _).committed_eq] at member
      rcases List.mem_append.mp member with old | new
      · exact before row old
      · split at new
        · rw [List.mem_singleton.mp new]
          exact .inr carried
        · simp at new
  · intro reload lookup same
    cases post <;> simp [Post.action] at same

end Effects

section Inversion

variable {ι : Type*} [DecidableEq ι] (library : JsonC) (mesh : Mesh ι)

/-- What a local call posts to the peers: its message, when it returned one. -/
def createdPosts : Except StoreError ChatMessage → List Post
  | .ok message => [.replicate (serializeJson library (messageToJson message))]
  | .error _ => []

/-- Everything one step of a network can do. -/
inductive Stepped (network : Network ι) : NetworkAction ι → Network ι → Prop where
  /-- Nothing changes. -/
  | idle (action : NetworkAction ι) : Stepped network action network
  /-- A node makes a local call, and posts the message when it is returned. -/
  | created (node : ι) (now : Int64) (results : AddResults) (parsed : Json)
    (service : MessageService) (body : Bytes)
    (running : (network.nodes node).process = .running service) (accepted : AcceptedBody body) :
    Stepped network (.create node now results parsed)
      ⟨Function.update network.nodes node
        ((network.nodes node).afterCreate (createLocal library now results body service)),
        network.posts ++ createdPosts library (createLocal library now results body service).1⟩
  /-- A node receives a request that was made, and posts nothing. -/
  | delivered (index : Nat) (receiver : ι) (lookup : SqliteResult) (results : Nat → AddResults)
    (post : Post) (listed : network.posts[index]? = some post) :
    Stepped network (.deliver index receiver lookup results)
      ⟨Function.update network.nodes receiver (daemonStep library (mesh.identity receiver)
        (network.nodes receiver) (post.action lookup results)), network.posts⟩
  /-- A node posts the messages a summary leaves out. -/
  | sent (node : ι) (summary : Bytes) (service : MessageService)
    (running : (network.nodes node).process = .running service) :
    Stepped network (.sendMissing node summary)
      ⟨network.nodes, network.posts ++ [.syncMessages (serializeJson library (batchJson
        ((missingMessages library service.store.messages summary).map messageToJson)))]⟩
  /-- A node is started again on its file. -/
  | restarted (node : ι) (reload : Option Nat) (lookup : SqliteResult) :
    Stepped network (.restart node reload lookup)
      ⟨Function.update network.nodes node
        ⟨startProcess (mesh.identity node) reload lookup (network.nodes node).process.database,
          (network.nodes node).acknowledged⟩, network.posts⟩

/-- A local call of a running daemon broadcasts the message it returns. -/
theorem newBroadcasts_created (node : Node) (now : Int64) (results : AddResults) (body : Bytes)
    (service : MessageService) :
    (newBroadcasts (.running service)
        (node.afterCreate (createLocal library now results body service)).process).map
      Post.replicate = createdPosts library (createLocal library now results body service).1 := by
  -- `create_local` records one broadcast when it returns, and none when it throws.
  have broadcasts := createLocal_broadcasts library now results body service
  cases call : createLocal library now results body service with
  | mk outcome after =>
    rw [call] at broadcasts
    cases outcome with
    | ok message =>
      simp only at broadcasts
      simp [Node.afterCreate, newBroadcasts, broadcasts, createdPosts]
    | error error =>
      simp only at broadcasts
      simp [Node.afterCreate, newBroadcasts, broadcasts, createdPosts]

/-- A process has broadcast nothing since now. -/
@[simp] theorem newBroadcasts_self (process : Process) : newBroadcasts process process = [] := by
  -- Nothing was broadcast since.
  cases process <;> simp [newBroadcasts]

/-- Every step of a network does one of the listed things. -/
theorem networkStep_stepped (network : Network ι) (action : NetworkAction ι) :
    Stepped library mesh network action (networkStep library mesh network action) := by
  cases action with
  | create node now results parsed =>
    simp only [networkStep, Network.act]
    rcases daemonStep_create library (mesh.identity node) (network.nodes node) now results parsed
      with same | ⟨service, body, running, accepted, after⟩
    · -- A refused request leaves the node as it is.
      rw [same, Function.update_eq_self, newBroadcasts_self, List.map_nil, List.append_nil]
      exact .idle _
    · rw [after, running, newBroadcasts_created]
      exact .created node now results parsed service body running accepted
  | deliver index receiver lookup results =>
    simp only [networkStep]
    split
    -- A request makes its receiver post nothing, so only the receiver's node changes.
    · rename_i post listed
      have quiet := newBroadcasts_received
        (daemonStep_unaffected library (mesh.identity receiver) (network.nodes receiver) lookup
          results post)
      rw [Network.act, quiet, List.map_nil, List.append_nil]
      exact .delivered index receiver lookup results post listed
    · exact .idle _
  | sendMissing node summary =>
    simp only [networkStep, Network.afterSendMissing]
    split
    · exact .idle _
    · rename_i service running
      split
      · rename_i batch sending
        -- The batch that was sent is the text of the messages the summary leaves out.
        rw [(sendMissing_eq_some sending).2]
        exact .sent node summary service running
      · exact .idle _
  | restart node reload lookup =>
    simp only [networkStep, Network.act]
    rw [newBroadcasts_restart, List.map_nil, List.append_nil]
    exact .restarted node reload lookup

end Inversion

end LesChat
