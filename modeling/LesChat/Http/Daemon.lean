import LesChat.Foundation.Run
import LesChat.Http.HttpApiLaws
import LesChat.Service.NodeRuns

/-! A daemon behind its HTTP interface, and the rule for what its requests keep. -/

namespace LesChat

open Foundation

/-- One thing that happens to a daemon from outside. -/
inductive DaemonAction where
  /-- `create_message` on a parsed request. -/
  | create (now : Int64) (results : AddResults) (parsed : Json)
  /-- A request to `replicate_message`. -/
  | replicate (lookup : SqliteResult) (results : AddResults) (request : HttpRequest)
  /-- A request to `sync_messages`, with the outcomes of each item's `add`. -/
  | synchronize (results : Nat → AddResults) (request : HttpRequest)
  /-- The daemon stops and is started on the same file. -/
  | restart (reload : Option Nat) (lookup : SqliteResult)

/-- The node after one action. -/
def daemonStep (library : JsonC) (identity : NodeIdentity) (node : Node) : DaemonAction → Node
  | .create now results parsed =>
    -- The response plays no role here: success is acknowledged by `afterCreate`.
    match node.process, messageBody parsed with
    | .running service, .ok body =>
      node.afterCreate (createLocal library now results body service)
    | _, _ => node
  | .replicate lookup results request =>
    match node.process with
    | .running service =>
      { node with process := .running (replicateMessage library lookup results request service).2 }
    -- A stopped daemon accepts no connection.
    | .stopped _ => node
  | .synchronize results request =>
    match node.process with
    | .running service =>
      { node with process := .running (syncMessages library results request service).2 }
    | .stopped _ => node
  | .restart reload lookup =>
    -- Only the file survives; the author keeps what was acknowledged.
    { node with process := startProcess identity reload lookup node.process.database }

/-- What holds before an action holds afterwards, when each message the action brings keeps it. -/
theorem daemonStep_keeps {library : JsonC} {identity : NodeIdentity} {node : Node}
    {action : DaemonAction} (invariant : Node → Prop) (holds : invariant node)
    (created : ∀ now results parsed, action = .create now results parsed →
      ∀ service, node.process = .running service → ∀ body, AcceptedBody body →
      invariant (node.afterCreate (createLocal library now results body service)))
    (replicated : ∀ lookup results request, action = .replicate lookup results request →
      ∀ service, node.process = .running service →
      ∀ message ∈ replicatedMessages library request,
      invariant ⟨.running (ingestReplica library lookup results message service).2,
        node.acknowledged⟩)
    (synchronized : ∀ results request, action = .synchronize results request →
      ∀ message ∈ synchronizedMessages library request, ∀ index service,
      invariant ⟨.running service, node.acknowledged⟩ →
      invariant ⟨.running (ingestSync library (results index) message service).2,
        node.acknowledged⟩)
    (restarted : ∀ reload lookup, action = .restart reload lookup →
      invariant ⟨startProcess identity reload lookup node.process.database, node.acknowledged⟩) :
    invariant (daemonStep library identity node action) := by
  -- A stopped daemon handles nothing, so each kind of request is about a running service.
  obtain ⟨process, acknowledged⟩ := node
  cases action with
  | create now results parsed =>
    cases process with
    | stopped database => exact holds
    | running service =>
      simp only [daemonStep]
      split
      · rename_i same accepted
        cases same
        exact created now results parsed rfl _ rfl _ (messageBody_eq_ok.mp accepted).2
      · exact holds
  | replicate lookup results request =>
    cases process with
    | stopped database => exact holds
    | running service =>
      exact replicateMessage_keeps library
        (fun service => invariant ⟨.running service, acknowledged⟩)
        (replicated lookup results request rfl service rfl) holds
  | synchronize results request =>
    cases process with
    | stopped database => exact holds
    | running service =>
      exact syncMessages_keeps library
        (fun service => invariant ⟨.running service, acknowledged⟩)
        (synchronized results request rfl) holds
  | restart reload lookup => exact restarted reload lookup rfl

/-- A node whose process is sound stays so when a local call was made. -/
theorem Node.afterCreate_sound {identity : NodeIdentity} {node : Node}
    {call : Except StoreError ChatMessage × MessageService} (sound : call.2.Sound identity) :
    (node.afterCreate call).process.Sound identity := by
  -- Acknowledging a message does not change the service.
  obtain ⟨outcome, service⟩ := call
  cases outcome <;> exact sound

/-- Every action keeps the process of a daemon sound. -/
theorem daemonStep_sound (library : JsonC) (identity : NodeIdentity) (node : Node)
    (action : DaemonAction) (sound : node.process.Sound identity) :
    (daemonStep library identity node action).process.Sound identity := by
  -- Each call of the service keeps it sound, and a start builds a sound one from the file.
  refine daemonStep_keeps (fun node => node.process.Sound identity) sound ?_ ?_ ?_ ?_
  · intro now results parsed _ service running body _
    rw [running] at sound
    exact Node.afterCreate_sound (MessageService.Sound.createLocal library sound now results body)
  · intro lookup results request _ service running message _
    rw [running] at sound
    exact MessageService.Sound.ingestReplica library sound lookup results message
  · intro results request _ message _ index service before
    exact MessageService.Sound.ingestSync library before (results index) message
  · intro reload lookup _
    exact startProcess_sound identity reload lookup sound.consistent

end LesChat
