import LesChat.Application.Outgoing
import LesChat.Foundation.Simulation
import LesChat.Network.Agreement
import LesChat.Network.Published

/-! Whole daemons on a mesh: their runs are answered by runs of the network of message services. -/

namespace LesChat

open Foundation

/-- The machines of a mesh, each with the settings of its daemon. -/
structure Installation (ι : Type*) where
  /-- The settings each daemon is started with. -/
  settings : ι → Settings
  /-- Every identity passed the checks of `main`. -/
  accepted : ∀ node, (settings node).identity.Accepted
  /-- No two machines have the same identifier. -/
  distinct : Function.Injective fun node => (settings node).identity.nodeId

/-- The identities of an installation. -/
def Installation.mesh {ι : Type*} (installation : Installation ι) : Mesh ι :=
  ⟨fun node => (installation.settings node).identity, installation.accepted, installation.distinct⟩

/-- A machine: its daemon is running, or only the file is left. -/
inductive Machine where
  /-- The daemon is not running. -/
  | stopped (database : Database)
  /-- The daemon is running. -/
  | running (app : Application)

/-- The message service of a machine. -/
def Machine.process : Machine → Process
  | .stopped database => .stopped database
  | .running app => .running app.service

/-- The machines, and every request any daemon ever made. -/
structure Deployment (ι : Type*) where
  /-- The machines. -/
  machines : ι → Machine
  /-- The requests, which can arrive late, twice, out of order, or never. -/
  requests : List OutgoingRequest

/-- One thing that happens to a deployment. -/
inductive DeploymentAction (ι : Type*) where
  /-- An event of one daemon's loop. -/
  | event (node : ι) (occurrence : Occurrence)
  /-- A request that was made arrives at a machine, whatever address it was sent to. -/
  | deliver (index : Nat) (receiver : ι) (connection : Nat) (surroundings : Surroundings)
  /-- A daemon ends. -/
  | stop (node : ι)
  /-- A daemon is started on the file that is left. -/
  | start (node : ι) (surroundings : Surroundings) (listening : Bool) (reload : Option Nat)
    (clock : Clock)

/-- How the server of a peer sees a request. -/
def OutgoingRequest.arrival (connection : Nat) (request : OutgoingRequest) : ServerRequest :=
  ⟨connection, .post, some request.endpoint.path, jsonRequest request.payload⟩

section Steps

variable {ι : Type*} [DecidableEq ι] (library : JsonC) (uriPath : UriPath)
  (installation : Installation ι)

/-- The deployment after an event of one machine. -/
def Deployment.act (deployment : Deployment ι) (node : ι) (occurrence : Occurrence) :
    Deployment ι :=
  match deployment.machines node with
  -- Nothing reaches a daemon that is not running.
  | .stopped _ => deployment
  | .running app =>
    let result := app.react library uriPath occurrence.surroundings occurrence.event
    ⟨Function.update deployment.machines node (.running result.1),
      deployment.requests ++ result.2.requests⟩

/-- The deployment after one action. -/
def deploymentStep (deployment : Deployment ι) : DeploymentAction ι → Deployment ι
  | .event node occurrence => deployment.act library uriPath node occurrence
  | .deliver index receiver connection surroundings =>
    match deployment.requests[index]? with
    | some request => deployment.act library uriPath receiver
        ⟨.request (request.arrival connection), surroundings⟩
    | none => deployment
  | .stop node =>
    ⟨Function.update deployment.machines node
      (.stopped (deployment.machines node).process.database), deployment.requests⟩
  | .start node surroundings listening reload clock =>
    match deployment.machines node with
    | .running _ => deployment
    | .stopped database =>
      match startApplication library (installation.settings node) surroundings listening reload
        clock database with
      | (some app, _) =>
        ⟨Function.update deployment.machines node (.running app), deployment.requests⟩
      | (none, _) => deployment

/-- Every daemon was just started on a new file. -/
def Deployment.initial (clock : ι → Clock) : Deployment ι where
  machines := fun node => .running ((installation.settings node).application (clock node)
    (MessageService.initial (installation.settings node).identity))
  requests := []

/-- The handler an event leads to, if it is a request that has one. -/
def Occurrence.handler? (occurrence : Occurrence) : Option Handler :=
  match occurrence.event with
  | .request request => (routeRequest uriPath request).toOption
  | _ => none

/--
No messages come from outside the mesh, no counter wraps around, and every start reads its mark.

A client may make any other request, and an answer to a summary request may be anything.
-/
def DeploymentAction.Closed (deployment : Deployment ι) : DeploymentAction ι → Prop
  | .event node occurrence =>
    ∀ handler ∈ occurrence.handler? uriPath,
      handler ≠ .replicateMessage ∧ handler ≠ .syncMessages ∧
        (handler = .createMessage → ∀ service ∈ (deployment.machines node).process.service?,
          service.nextSequence ≠ 2 ^ 64 - 1)
  | .start _ surroundings _ _ _ => surroundings.lookup = .ok
  | _ => True

/-- Whether a deployment keeps to itself can be checked. -/
instance (deployment : Deployment ι) : DecidablePred (DeploymentAction.Closed uriPath deployment)
  | .event node occurrence => inferInstanceAs (Decidable
      (∀ handler ∈ occurrence.handler? uriPath,
        handler ≠ .replicateMessage ∧ handler ≠ .syncMessages ∧
          (handler = .createMessage → ∀ service ∈ (deployment.machines node).process.service?,
            service.nextSequence ≠ 2 ^ 64 - 1)))
  | .start _ surroundings _ _ _ => inferInstanceAs (Decidable (surroundings.lookup = .ok))
  | .deliver _ _ _ _ => isTrue trivial
  | .stop _ => isTrue trivial

/-- The server library takes the paths of a daemon's own requests for what they are. -/
def UriPath.Plain : Prop := ∀ endpoint : Endpoint, uriPath endpoint.path = some (some endpoint.path)

end Steps

section Routing

/-- The handler a peer answers a request with. -/
def Endpoint.handler : Endpoint → Handler
  | .replicate => .replicateMessage
  | .syncSummary => .syncSummary
  | .syncMessages => .syncMessages

/-- A request reaches the handler it was made for. -/
theorem routeRequest_arrival {uriPath : UriPath} (plain : uriPath.Plain) (connection : Nat)
    (request : OutgoingRequest) :
    routeRequest uriPath (request.arrival connection) = .ok request.endpoint.handler := by
  have path : requestPath uriPath (request.arrival connection) = request.endpoint.path := by
    simp only [requestPath, OutgoingRequest.arrival, Option.bind_some, plain request.endpoint,
      Option.getD_some]
  have nonempty : request.endpoint.path ≠ [] := by
    cases request.endpoint <;> decide +kernel
  rw [routeRequest, path, if_neg nonempty]
  -- Each of the three paths is in the table under POST.
  apply ((findRoute_routes _ _).1 _).mpr
  simp only [OutgoingRequest.arrival]
  cases request.endpoint <;> decide +kernel

end Routing

section Simulation

/-- The request of the network a request of a daemon is. -/
def OutgoingRequest.post? (request : OutgoingRequest) : Option Post :=
  match request.endpoint with
  | .replicate => some (.replicate request.payload)
  | .syncMessages => some (.syncMessages request.payload)
  -- A summary carries no messages.
  | .syncSummary => none

/-- A machine is what a process of the network is; one that is stopped has the same file. -/
def Machine.Is : Machine → Process → Prop
  | .stopped database, process => process.database = database
  | .running app, process => process = .running app.service

variable {ι : Type*}

/-- A deployment and a network: the same machines, and no request that was not posted. -/
structure Deployment.Runs (deployment : Deployment ι) (network : Network ι) : Prop where
  /-- Each machine is its node. -/
  machines : ∀ node, (deployment.machines node).Is (network.nodes node).process
  /-- Every request with messages was posted. -/
  posted : ∀ request ∈ deployment.requests, ∀ post ∈ request.post?, post ∈ network.posts

variable {deployment : Deployment ι} {network : Network ι}

/-- The running machine of a deployment is a running process of the network. -/
theorem Deployment.Runs.process (runs : deployment.Runs network) {node : ι} {app : Application}
    (running : deployment.machines node = .running app) :
    (network.nodes node).process = .running app.service := by
  -- A running machine is the process of its node.
  have same := runs.machines node
  rwa [running] at same

/-- New machines are new nodes. -/
theorem Deployment.initial_runs (installation : Installation ι) (clock : ι → Clock) :
    (Deployment.initial installation clock).Runs (Network.initial installation.mesh) where
  -- Every machine starts where its node starts, and nothing is under way.
  machines := fun _ => rfl
  posted := by simp [Deployment.initial]

/-- The one step of a network that can answer an action of a deployment. -/
inductive DeploymentAction.Answer (uriPath : UriPath) (deployment : Deployment ι)
    (network : Network ι) : DeploymentAction ι → NetworkAction ι → Prop where
  /-- A local call answers a request to create a message. -/
  | created (node : ι) (occurrence : Occurrence) (app : Application) (now : Int64) (parsed : Json)
    (running : deployment.machines node = .running app)
    (handler : .createMessage ∈ occurrence.handler? uriPath) :
    Answer uriPath deployment network (.event node occurrence)
      (.create node now (occurrence.surroundings.results 0) parsed)
  /-- A batch answers the answer to a summary request. -/
  | sent (node : ι) (occurrence : Occurrence) (summary : Bytes) :
    Answer uriPath deployment network (.event node occurrence) (.sendMissing node summary)
  /-- A delivery answers a request with messages that arrives at a running daemon. -/
  | delivered (index : Nat) (receiver : ι) (connection : Nat) (surroundings : Surroundings)
    (request : OutgoingRequest) (post : Post) (app : Application) (place : Nat)
    (listed : deployment.requests[index]? = some request) (made : request.post? = some post)
    (running : deployment.machines receiver = .running app)
    (found : network.posts[place]? = some post) :
    Answer uriPath deployment network (.deliver index receiver connection surroundings)
      (.deliver place receiver surroundings.lookup surroundings.results)
  /-- A restart answers a start. -/
  | started (node : ι) (surroundings : Surroundings) (listening : Bool) (reload : Option Nat)
    (clock : Clock) :
    Answer uriPath deployment network (.start node surroundings listening reload clock)
      (.restart node reload surroundings.lookup)

/-- The steps that answer an action that keeps to itself let no counter wrap around. -/
theorem DeploymentAction.Answer.unwrapped {uriPath : UriPath} (runs : deployment.Runs network)
    {action : DeploymentAction ι} (closed : action.Closed uriPath deployment)
    {step : NetworkAction ι} (answer : action.Answer uriPath deployment network step) :
    step.Unwrapped network := by
  cases answer with
  | created node occurrence app now parsed running handler =>
    -- The process of the node is that of the machine.
    have limited := (closed .createMessage handler).2.2 rfl
    rw [running] at limited
    rw [NetworkAction.Unwrapped, runs.process running]
    exact limited
  | sent node occurrence summary => trivial
  | delivered => trivial
  | started node surroundings listening reload clock => exact closed

variable [DecidableEq ι] {library : JsonC} {uriPath : UriPath} {installation : Installation ι}

/-- An event that leaves the message service alone and sends no messages needs no answer. -/
theorem Deployment.Runs.quiet (runs : deployment.Runs network) {node : ι} {app : Application}
    (running : deployment.machines node = .running app) (result : Application × Effects)
    (service : result.1.service = app.service)
    (silent : ∀ request ∈ result.2.requests, request.post? = none) :
    Deployment.Runs ⟨Function.update deployment.machines node (.running result.1),
      deployment.requests ++ result.2.requests⟩ network where
  machines := by
    intro other
    by_cases acts : other = node
    · -- The service is the same, so the node is.
      subst acts
      have before := runs.machines other
      rw [running] at before
      simp only [Function.update_self, Machine.Is, service]
      exact before
    · simp only [Function.update_of_ne acts]
      exact runs.machines other
  posted := by
    intro request listed post sent
    rcases List.mem_append.mp listed with old | new
    · exact runs.posted request old post sent
    · -- A new request posts nothing.
      simp [silent request new] at sent

/-- An event that does what an action of the network does is answered by it. -/
theorem Deployment.Runs.acted (runs : deployment.Runs network) (node : ι)
    (result : Application × Effects) {action : DaemonAction}
    (process : (daemonStep library (installation.mesh.identity node) (network.nodes node)
      action).process = .running result.1.service)
    (sent : ∀ request ∈ result.2.requests, ∀ post ∈ request.post?,
      post ∈ (newBroadcasts (network.nodes node).process
        (.running result.1.service)).map Post.replicate) :
    Deployment.Runs ⟨Function.update deployment.machines node (.running result.1),
      deployment.requests ++ result.2.requests⟩
      (network.act library installation.mesh node action) where
  machines := by
    intro other
    by_cases acts : other = node
    · -- The machine that acted runs the process its node has now.
      subst acts
      simp only [Network.act, Function.update_self]
      exact process
    · simp only [Network.act, Function.update_of_ne acts]
      exact runs.machines other
  posted := by
    intro request listed post made
    simp only [Network.act, process, List.mem_append]
    rcases List.mem_append.mp listed with old | new
    · exact .inl (runs.posted request old post made)
    · -- What is posted now was broadcast now, and the network posts that as well.
      exact .inr (sent request new post made)

/-- What a call makes a daemon send is what the service broadcast. -/
theorem Application.afterCall_post {app : Application} {surroundings : Surroundings}
    {answer : HttpResponse × MessageService} {request : OutgoingRequest}
    (member : request ∈ (app.afterCall surroundings answer).2.requests) {post : Post}
    (made : post ∈ request.post?) :
    post ∈ (newBroadcasts (.running app.service) (.running answer.2)).map Post.replicate := by
  -- After a call only broadcasts are requested, one for each peer.
  obtain ⟨payload, broadcasted, sent⟩ := List.mem_flatMap.mp member
  obtain ⟨peer, _, rfl⟩ := List.mem_map.mp sent
  simp only [OutgoingRequest.post?, Option.mem_def, Option.some.injEq] at made
  rw [← made]
  exact List.mem_map_of_mem broadcasted

/-- What an action leads to is answered by one step of a network, or by none. -/
def DeploymentAction.Answered (library : JsonC) (uriPath : UriPath) (installation : Installation ι)
    (deployment : Deployment ι) (network : Network ι) (action : DeploymentAction ι)
    (after : Deployment ι) : Prop :=
  ∃ answer : Option (NetworkAction ι),
    (∀ step ∈ answer, action.Answer uriPath deployment network step) ∧
      after.Runs (run (networkStep library installation.mesh) network answer.toList)

/-- What leaves the network as it is needs no step. -/
theorem Deployment.Runs.unanswered {action : DeploymentAction ι} {after : Deployment ι}
    (runs : after.Runs network) :
    action.Answered library uriPath installation deployment network after :=
  -- The network does not take a step.
  ⟨none, by simp, runs⟩

/-- A request to create a message is answered by a local call of the network, or by nothing. -/
theorem Deployment.Runs.created (runs : deployment.Runs network) {node : ι} {app : Application}
    (running : deployment.machines node = .running app) {occurrence : Occurrence}
    (handler : .createMessage ∈ occurrence.handler? uriPath) (request : HttpRequest) :
    let result := app.afterCall occurrence.surroundings
      (createMessage library app.now (occurrence.surroundings.results 0) request app.service)
    DeploymentAction.Answered library uriPath installation deployment network
      (.event node occurrence) ⟨Function.update deployment.machines node (.running result.1),
        deployment.requests ++ result.2.requests⟩ := by
  intro result
  have process := runs.process running
  rcases createMessage_cases library app.now (occurrence.surroundings.results 0) request
    app.service with same | ⟨parsed, body, _, decoded, called⟩
  · -- A refused request changes nothing, and nothing is sent.
    apply Deployment.Runs.unanswered
    refine runs.quiet running _ same ?_
    intro request member
    have none := Application.afterCall_silent (congrArg MessageService.broadcasts same)
      occurrence.surroundings
    rw [none] at member
    simp at member
  · -- An accepted one is the step that creates a message at this node.
    refine ⟨some (.create node app.now (occurrence.surroundings.results 0) parsed), ?_, ?_⟩
    · intro step same
      cases same
      exact .created node occurrence app app.now parsed running handler
    · refine runs.acted node _ ?_ ?_
      · simp only [daemonStep, process, decoded, Node.process_afterCreate]
        rw [← called]
        rfl
      · intro outgoing member post made
        rw [process]
        exact Application.afterCall_post member made

/-- An answer to a summary request is answered by a batch of the network, or by nothing. -/
theorem Deployment.Runs.summaryAnswered (runs : deployment.Runs network) {node : ι}
    {app : Application} (running : deployment.machines node = .running app)
    (occurrence : Occurrence) (context : RequestContext) (response : Option HttpResponse)
    (contexts : List RequestContext) :
    DeploymentAction.Answered library uriPath installation deployment network
      (.event node occurrence)
      ⟨Function.update deployment.machines node (.running { app with contexts }),
        deployment.requests ++
          app.summaryAnswered library occurrence.surroundings context response⟩ := by
  -- The context of the request is gone, which no node knows of.
  have quiet := runs.quiet running ({ app with contexts }, {}) rfl (by simp)
  rcases app.summaryAnswered_cases library occurrence.surroundings context response with
    none | ⟨answer, batch, _, _, sent, only⟩
  · rw [none]
    exact Deployment.Runs.unanswered quiet
  · -- A batch is sent exactly when the node sends what is missing.
    refine ⟨some (.sendMissing node answer.body), ?_, ?_⟩
    · intro step same
      cases same
      exact .sent node occurrence answer.body
    · have process := runs.process running
      rw [Option.toList_some, run_cons, run_nil, networkStep, Network.afterSendMissing, process]
      simp only [sent, only]
      refine ⟨quiet.machines, ?_⟩
      intro request listed post made
      rcases List.mem_append.mp listed with old | new
      · exact List.mem_append_left _ (runs.posted request old post made)
      · rw [List.mem_singleton.mp new] at made
        simp only [OutgoingRequest.post?, Option.mem_def, Option.some.injEq] at made
        rw [← made]
        exact List.mem_append_right _ (List.mem_singleton_self _)

/-- An event of a daemon is answered by the network, unless it brings messages from outside. -/
theorem Deployment.Runs.event (runs : deployment.Runs network) (node : ι) (occurrence : Occurrence)
    (closed : DeploymentAction.Closed uriPath deployment (.event node occurrence)) :
    DeploymentAction.Answered library uriPath installation deployment network
      (.event node occurrence) (deployment.act library uriPath node occurrence) := by
  -- Only a created message and a batch are steps of the network.
  obtain ⟨event, surroundings⟩ := occurrence
  unfold Deployment.act
  cases machine : deployment.machines node with
  | stopped database => exact runs.unanswered
  | running app =>
    have stepped := app.react_stepped library uriPath surroundings event
    simp only []
    generalize app.react library uriPath surroundings event = result at stepped
    cases stepped with
    | created request routed =>
      have handler : .createMessage ∈ Occurrence.handler? uriPath
          ⟨.request request, surroundings⟩ := by
        simp only [Occurrence.handler?, routed]
        rfl
      exact runs.created machine handler request.request
    | replicated request routed =>
      -- No message comes from outside.
      simp [DeploymentAction.Closed, Occurrence.handler?, routed, Except.toOption] at closed
    | synchronized request routed =>
      simp [DeploymentAction.Closed, Occurrence.handler?, routed, Except.toOption] at closed
    | answered index response context listed =>
      exact runs.summaryAnswered machine ⟨.answer index response, surroundings⟩ context response _
    | summarized read =>
      apply Deployment.Runs.unanswered
      -- A request for a summary carries no message.
      refine runs.quiet machine _ ?_ ?_
      · simp only [Application.synchronize, read, Bool.true_eq_false, if_false]
      · intro request member
        simp only [Application.synchronize, read, Bool.true_eq_false, if_false] at member
        obtain ⟨peer, _, rfl⟩ := List.mem_map.mp member
        rfl
    | _ => exact (runs.quiet machine _ rfl (by simp)).unanswered

/-- A request with messages does at a running daemon what its delivery does in the network. -/
theorem Deployment.Runs.delivered (runs : deployment.Runs network) {receiver : ι}
    {app : Application} (running : deployment.machines receiver = .running app)
    (surroundings : Surroundings) {post : Post} {place : Nat}
    (found : network.posts[place]? = some post) {answer : HttpResponse × MessageService}
    (called : (daemonStep library (installation.mesh.identity receiver) (network.nodes receiver)
      (post.action surroundings.lookup surroundings.results)).process = .running answer.2) :
    Deployment.Runs ⟨Function.update deployment.machines receiver
        (.running (app.afterCall surroundings answer).1),
      deployment.requests ++ (app.afterCall surroundings answer).2.requests⟩
      (networkStep library installation.mesh network
        (.deliver place receiver surroundings.lookup surroundings.results)) := by
  -- The machine handles the post its node finds at this place.
  rw [networkStep, found]
  refine runs.acted receiver _ called ?_
  intro request member post made
  rw [runs.process running]
  exact Application.afterCall_post member made

/-- A request that arrives at a machine is answered by the network. -/
theorem Deployment.Runs.arrival (runs : deployment.Runs network) (plain : uriPath.Plain)
    {index : Nat} {request : OutgoingRequest}
    (listed : deployment.requests[index]? = some request) (receiver : ι) (connection : Nat)
    (surroundings : Surroundings) :
    DeploymentAction.Answered library uriPath installation deployment network
      (.deliver index receiver connection surroundings)
      (deployment.act library uriPath receiver
        ⟨.request (request.arrival connection), surroundings⟩) := by
  have routed := routeRequest_arrival plain connection request
  have posted := runs.posted request (List.mem_of_getElem? listed)
  unfold Deployment.act
  cases machine : deployment.machines receiver with
  | stopped database => exact runs.unanswered
  | running app =>
    have process := runs.process machine
    simp only [Application.react, Application.processRequest, routed]
    -- A request with messages is in the network, and is delivered there too.
    have answered : ∀ (post : Post) (answer : HttpResponse × MessageService),
        request.post? = some post → (daemonStep library (installation.mesh.identity receiver)
          (network.nodes receiver) (post.action surroundings.lookup surroundings.results)).process =
            .running answer.2 →
        DeploymentAction.Answered library uriPath installation deployment network
          (.deliver index receiver connection surroundings)
          ⟨Function.update deployment.machines receiver
              (.running (app.afterCall surroundings answer).1),
            deployment.requests ++ (app.afterCall surroundings answer).2.requests⟩ := by
      intro post answer made called
      obtain ⟨place, found⟩ := List.mem_iff_getElem?.mp (posted post made)
      refine ⟨some (.deliver place receiver surroundings.lookup surroundings.results), ?_,
        runs.delivered machine surroundings found called⟩
      intro step same
      cases same
      exact .delivered index receiver connection surroundings request post app place listed made
        machine found
    -- The path of the request decides its handler.
    obtain ⟨address, port, endpoint, payload⟩ := request
    cases endpoint with
    | syncSummary =>
      apply Deployment.Runs.unanswered
      exact runs.quiet machine _ rfl (by simp [Endpoint.handler, Application.handle,
        Application.reply])
    | replicate =>
      apply answered (.replicate payload) _ rfl
      simp only [Post.action, daemonStep, process]
      rfl
    | syncMessages =>
      apply answered (.syncMessages payload) _ rfl
      simp only [Post.action, daemonStep, process]
      rfl

/-- A daemon that starts runs the service a restart opens. -/
theorem startApplication_some {settings : Settings} {surroundings : Surroundings}
    {listening : Bool} {reload : Option Nat} {clock : Clock} {database : Database}
    {app : Application} {datagrams : List Bytes}
    (started : startApplication library settings surroundings listening reload clock database =
      (some app, datagrams)) :
    ∃ service, openService settings.identity reload surroundings.lookup database = .ok service ∧
      app = settings.application clock service := by
  -- Of the ways to end, only one has opened the database and listens.
  unfold startApplication at started
  split at started
  · simp at started
  · dsimp only at started
    split at started
    · simp at started
    · rename_i service opened
      split at started
      · simp only [Prod.mk.injEq, Option.some.injEq] at started
        exact ⟨service, opened, started.1.symm⟩
      · simp at started

/-- A daemon that is started does what a restart of its node does. -/
theorem Deployment.Runs.started (runs : deployment.Runs network) {node : ι} {database : Database}
    (machine : deployment.machines node = .stopped database) {reload : Option Nat}
    {lookup : SqliteResult} {app : Application}
    (opened : openService (installation.settings node).identity reload lookup database =
      .ok app.service) :
    Deployment.Runs ⟨Function.update deployment.machines node (.running app),
      deployment.requests⟩
      (networkStep library installation.mesh network (.restart node reload lookup)) := by
  -- A start is the restart of the node on the file of the machine.
  have file := runs.machines node
  rw [machine] at file
  have process : (daemonStep library (installation.mesh.identity node) (network.nodes node)
      (.restart reload lookup)).process = .running app.service := by
    simp only [daemonStep]
    rw [show (network.nodes node).process.database = database from file, startProcess]
    simp only [Installation.mesh, opened]
  have acted := runs.acted node (app, {}) process (by simp)
  rwa [List.append_nil] at acted

/-- The network answers every action of a deployment that keeps to itself, in one step or none. -/
theorem Deployment.Runs.step (runs : deployment.Runs network) (plain : uriPath.Plain)
    {action : DeploymentAction ι} (closed : action.Closed uriPath deployment) :
    action.Answered library uriPath installation deployment network
      (deploymentStep library uriPath installation deployment action) := by
  cases action with
  | event node occurrence => exact runs.event node occurrence closed
  | deliver index receiver connection surroundings =>
    simp only [deploymentStep]
    split
    · rename_i request listed
      exact runs.arrival plain listed receiver connection surroundings
    · exact runs.unanswered
  | stop node =>
    -- The node of the network may go on, as long as its file is the same.
    refine ⟨none, by simp, ?_, runs.posted⟩
    intro other
    by_cases acts : other = node
    · subst acts
      have before := runs.machines other
      simp only [deploymentStep, Function.update_self, Machine.Is, Option.toList_none, run_nil]
      cases machine : deployment.machines other with
      | stopped database =>
        rw [machine] at before
        exact before
      | running app =>
        rw [runs.process machine]
        rfl
    · simp only [deploymentStep, Function.update_of_ne acts]
      exact runs.machines other
  | start node surroundings listening reload clock =>
    simp only [deploymentStep]
    split
    · exact runs.unanswered
    · rename_i database machine
      split
      · rename_i app datagrams started
        obtain ⟨service, opened, rfl⟩ := startApplication_some started
        refine ⟨some (.restart node reload surroundings.lookup), ?_,
          runs.started machine opened⟩
        intro step same
        cases same
        exact .started node surroundings listening reload clock
      · exact runs.unanswered

/-- The network answers every action of a deployment that keeps to itself. -/
theorem deployment_simulates (plain : uriPath.Plain) :
    Simulates (deploymentStep library uriPath installation) (DeploymentAction.Closed uriPath)
      (networkStep library installation.mesh) NetworkAction.Unwrapped Deployment.Runs where
  answered := by
    -- An action is answered by one step or by none.
    intro deployment network runs action closed
    obtain ⟨answer, answers, after⟩ := @Deployment.Runs.step ι deployment network _ library uriPath
      installation runs plain action closed
    refine ⟨answer.toList, ?_, after⟩
    cases answer with
    | none => trivial
    | some step => exact ⟨(answers step rfl).unwrapped runs closed, trivial⟩

end Simulation

section Agreement

variable {ι : Type*}

/-- A message is held when a machine stores or caches it, or when it is in a request. -/
inductive Deployment.Holds (library : JsonC) (deployment : Deployment ι)
    (message : ChatMessage) : Prop where
  /-- A row of a file. -/
  | stored (node : ι) (member : message ∈ (deployment.machines node).process.database.rows)
  /-- A message `messages()` of a running daemon returns. -/
  | cached (node : ι) (member : message ∈ (deployment.machines node).process.messages)
  /-- A message in flight. -/
  | inFlight (request : OutgoingRequest) (listed : request ∈ deployment.requests) (post : Post)
    (made : post ∈ request.post?) (member : message ∈ post.received library)

/-- The machine named in the origin built the message and stored it. -/
def Deployment.Authentic (installation : Installation ι) (deployment : Deployment ι)
    (message : ChatMessage) : Prop :=
  ∃ author, message.origin = (installation.settings author).identity.nodeId ∧
    BuiltBy (installation.settings author).identity message ∧
    message ∈ (deployment.machines author).process.database.committed

variable {library : JsonC} {installation : Installation ι} {deployment : Deployment ι}
  {network : Network ι}

/-- A machine has the file of its node. -/
theorem Deployment.Runs.database (runs : deployment.Runs network) (node : ι) :
    (deployment.machines node).process.database = (network.nodes node).process.database := by
  -- A stopped machine has only its file.
  have same := runs.machines node
  cases machine : deployment.machines node with
  | stopped database =>
    rw [machine] at same
    exact Eq.symm same
  | running app => rw [runs.process machine, Machine.process]

/-- What a deployment holds, its network holds. -/
theorem Deployment.Runs.holds (runs : deployment.Runs network) {message : ChatMessage}
    (holds : deployment.Holds library message) : network.Holds library message := by
  -- One case for each place a message can be held in.
  cases holds with
  | stored node member => exact .stored node (runs.database node ▸ member)
  | cached node member =>
    cases machine : deployment.machines node with
    | stopped database => simp [machine, Machine.process, Process.messages] at member
    | running app =>
      refine .cached node ?_
      rw [runs.process machine]
      rwa [machine] at member
  | inFlight request listed post made member =>
    exact .inFlight post (runs.posted request listed post made) member

/-- What is authentic in a network is so in its deployment. -/
theorem Deployment.Runs.authentic (runs : deployment.Runs network) {message : ChatMessage}
    (authentic : network.Authentic installation.mesh message) :
    deployment.Authentic installation message := by
  -- What the network's nodes stored, their machines stored.
  obtain ⟨author, origin, built, _, committed⟩ := authentic
  exact ⟨author, origin, built, runs.database author ▸ committed⟩

/-- What a daemon published, its node published. -/
theorem Deployment.Runs.published (runs : deployment.Runs network) {node : ι} {text : Bytes}
    (member : text ∈ (deployment.machines node).process.published) :
    text ∈ (network.nodes node).process.published := by
  -- A stopped machine published nothing.
  cases machine : deployment.machines node with
  | stopped database => simp [machine, Machine.process, Process.published] at member
  | running app =>
    rw [runs.process machine]
    rwa [machine] at member

variable [DecidableEq ι] {uriPath : UriPath}

/--
Agreement across the whole daemons of a mesh.

Whatever clients ask for, datagrams and answers arrive, requests are lost, repeated or delivered to
the wrong machine, and daemons end and start again: while no message comes from outside, no counter
wraps around and every start reads its mark, everything a machine stores, caches or sends is a
message the machine named in its origin built and stored, every event a daemon published is the text
of such a message, and no two different messages are ever held under one identifier or under one
origin and sequence.
-/
theorem deployment_agrees (lawful : library.Lawful) (plain : uriPath.Plain)
    (installation : Installation ι) (clock : ι → Clock) {actions : List (DeploymentAction ι)}
    (closed : Guarded (deploymentStep library uriPath installation)
      (DeploymentAction.Closed uriPath) (Deployment.initial installation clock) actions) :
    let deployment := fun count => run (deploymentStep library uriPath installation)
      (Deployment.initial installation clock) (actions.take count)
    (∀ count message, (deployment count).Holds library message →
      (deployment count).Authentic installation message) ∧
    (∀ count node, ∀ text ∈ ((deployment count).machines node).process.published,
      TextOf library ((deployment count).Authentic installation) text) ∧
    ∀ first second left right, (deployment first).Holds library left →
      (deployment second).Holds library right → left.messageId = right.messageId ∨
        (left.origin, left.sequence) = (right.origin, right.sequence) → left = right := by
  intro deployment
  have simulates := @deployment_simulates ι _ library uriPath installation plain
  have initial := Deployment.initial_runs installation clock
  -- At each point there is a network that agrees.
  have point : ∀ count, ∃ network, (deployment count).Runs network ∧
      network.Agreeing library installation.mesh ∧ network.Tells library := by
    intro count
    obtain ⟨answers, unwrapped, runs⟩ := simulates.run_answered initial (closed.take count)
    exact ⟨_, runs, run_agreeing lawful unwrapped, run_tells lawful answers⟩
  refine ⟨?_, ?_, ?_⟩
  · intro count message holds
    obtain ⟨network, runs, agreeing, _⟩ := point count
    exact runs.authentic (agreeing.authentic ((runs.holds holds).created lawful agreeing.genuine))
  · intro count node text member
    obtain ⟨network, runs, agreeing, tells⟩ := point count
    exact (tells node text (runs.published member)).mono fun message created =>
      runs.authentic (agreeing.authentic created)
  · -- Of the two points, the later one has both messages created.
    have ordered : ∀ first second left right, first ≤ second →
        (deployment first).Holds library left → (deployment second).Holds library right →
        left.messageId = right.messageId ∨
          (left.origin, left.sequence) = (right.origin, right.sequence) → left = right := by
      intro first second left right before leftHolds rightHolds same
      have earlier : (actions.take second).take first = actions.take first := by
        rw [List.take_take, Nat.min_eq_left before]
      have whole : actions.take first ++ (actions.take second).drop first = actions.take second := by
        rw [← earlier, List.take_append_drop]
      obtain ⟨answers, more, unwrapped, firstRuns, secondRuns⟩ :=
        simulates.run_answered_append initial (whole ▸ closed.take second)
      rw [whole] at secondRuns
      have beginning := ((guarded_append _ answers more).mp unwrapped).1
      have agreeing := run_agreeing lawful unwrapped
      have leftCreated := (firstRuns.holds leftHolds).created lawful
        (run_agreeing lawful beginning).genuine
      have rightCreated := (secondRuns.holds rightHolds).created lawful agreeing.genuine
      -- What was created at the first point is created at the second.
      refine agreeing.eq_of_same (run_created (answers ++ more) answers.length ?_) rightCreated same
      rwa [List.take_left]
    intro first second left right leftHolds rightHolds same
    rcases Nat.le_total first second with before | after
    · exact ordered first second left right before leftHolds rightHolds same
    · exact (ordered second first right left after rightHolds leftHolds
        (same.imp Eq.symm Eq.symm)).symm

end Agreement

/-- A pair of machines, named a and b. -/
def pairInstallation : Installation Bool where
  settings := fun node => ⟨pairMesh.identity node, ascii "127.0.0.1", 7777, .off, []⟩
  accepted := pairMesh.accepted
  distinct := pairMesh.distinct

/-- One machine hears the other and passes a message on, ends, and starts with the message. -/
theorem deployment_agrees_pair :
    let uriPath : UriPath := fun uri => some (some uri)
    let bob := serializeJson plainJsonC (announceJson ⟨ascii "b", ascii "Bob"⟩ 7777 .off 0)
    let actions : List (DeploymentAction Bool) := [
      .event false ⟨.receive ⟨bob, ⟨10, 0, 0, 2⟩⟩, {}⟩,
      .event false ⟨.request ⟨8, .post, some (ascii "/api/v1/messages"),
        jsonRequest (ascii "\x7b\"body\":\"hello\"\x7d")⟩, {}⟩,
      .deliver 0 true 9 {},
      .stop false,
      .start false {} true none ⟨0, 2000, 0⟩]
    let deployment := run (deploymentStep plainJsonC uriPath pairInstallation)
      (Deployment.initial pairInstallation fun _ => ⟨0, 1000, 0⟩) actions
    (∀ node, (deployment.machines node).process.messages.map ChatMessage.messageId =
      [ascii "a:1"]) ∧
    ∀ message, deployment.Holds plainJsonC message →
      deployment.Authentic pairInstallation message := by
  intro uriPath bob actions deployment
  have plain : uriPath.Plain := fun _ => rfl
  have agrees := deployment_agrees plainJsonC_lawful plain pairInstallation (fun _ => ⟨0, 1000, 0⟩)
    (show Guarded (deploymentStep plainJsonC uriPath pairInstallation)
      (DeploymentAction.Closed uriPath)
      (Deployment.initial pairInstallation fun _ => ⟨0, 1000, 0⟩) actions by decide +kernel)
  -- After five actions both machines list the greeting.
  exact ⟨by decide +kernel, agrees.1 5⟩

end LesChat
