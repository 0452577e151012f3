import LesChat.Application.Meeting
import LesChat.Network.Convergence

/-! Messages spread over whole daemons that meet, until every machine has every message. -/

namespace LesChat

open Foundation

section Events

variable {ι : Type*}

/-- The machines as nodes of a network. -/
def Deployment.network (deployment : Deployment ι) : Network ι :=
  ⟨fun node => ⟨(deployment.machines node).process, []⟩, []⟩

/--
An action that keeps to itself, fills no database, and leaves no gap.

No counter wraps around, every start reads its mark, and what is delivered is taken without leaving
anything behind.
-/
def DeploymentAction.Orderly (library : JsonC) (uriPath : UriPath) (deployment : Deployment ι)
    (action : DeploymentAction ι) : Prop :=
  action.Closed uriPath deployment ∧
    match action with
    | .event _ occurrence =>
      .createMessage ∈ occurrence.handler? uriPath →
        (occurrence.surroundings.results 0).first.NeverFull
    | .deliver index receiver _ surroundings =>
      (∀ item, (surroundings.results item).first.NeverFull) ∧
        ∀ request ∈ deployment.requests[index]?, ∀ post ∈ request.post?,
          deployment.network.Gapless receiver ((deployment.network.nodes receiver).taken library
            surroundings.lookup surroundings.results post)
    | _ => True

/-- An action of a deployment, or meetings of two daemons with nothing else between them. -/
inductive DeploymentEvent (ι : Type*) where
  /-- One action. -/
  | act (action : DeploymentAction ι)
  /-- A number of meetings. -/
  | meet (sender receiver : ι) (meetings : Nat → Meeting) (count : Nat)

/-- Meetings pass on from the daemon that synchronizes to the one it hears. -/
inductive DeploymentEvent.Passes : DeploymentEvent ι → ι → ι → Prop where
  /-- Whatever the one has. -/
  | meet (sender receiver : ι) (meetings : Nat → Meeting) (count : Nat) :
    DeploymentEvent.Passes (.meet sender receiver meetings count) sender receiver

variable [DecidableEq ι] (library : JsonC) (uriPath : UriPath) (installation : Installation ι)

/-- The deployment after a meeting, if both daemons are running. -/
def Deployment.afterMeeting (deployment : Deployment ι) (sender receiver : ι) (meeting : Meeting) :
    Deployment ι :=
  match deployment.machines sender, deployment.machines receiver with
  | .running app, .running peer =>
    run (deploymentStep library uriPath installation) deployment
      (meeting.actions library uriPath app peer deployment sender receiver)
  | _, _ => deployment

/-- The deployment after a number of meetings. -/
def Deployment.afterMeetings (deployment : Deployment ι) (sender receiver : ι)
    (meetings : Nat → Meeting) : Nat → Deployment ι
  | 0 => deployment
  | count + 1 =>
    (deployment.afterMeetings sender receiver meetings count).afterMeeting library uriPath
      installation sender receiver (meetings count)

/-- The deployment after an event. -/
def deploymentEvent (deployment : Deployment ι) : DeploymentEvent ι → Deployment ι
  | .act action => deploymentStep library uriPath installation deployment action
  | .meet sender receiver meetings count =>
    deployment.afterMeetings library uriPath installation sender receiver meetings count

/-- A meeting of two running daemons that succeeds without filling a database. -/
structure Deployment.Meets (deployment : Deployment ι) (sender receiver : ι) (meeting : Meeting)
    (app peer : Application) : Prop where
  /-- The one daemon is running. -/
  sending : deployment.machines sender = .running app
  /-- The other one is running. -/
  receiving : deployment.machines receiver = .running peer
  /-- The meeting succeeds. -/
  succeeds : meeting.Succeeds library app peer
  /-- No insert hits the size limit of the database. -/
  neverFull : ∀ item, (meeting.taking.results item).first.NeverFull

/--
An action that is orderly, or enough meetings that all succeed.

There is at least one meeting, and together their batches have room for what is outstanding.
-/
def DeploymentEvent.Orderly (deployment : Deployment ι) : DeploymentEvent ι → Prop
  | .act action => action.Orderly library uriPath deployment
  | .meet sender receiver meetings count =>
    sender ≠ receiver ∧ 0 < count ∧
      (∀ index < count, ∃ app peer,
        (deployment.afterMeetings library uriPath installation sender receiver meetings
          index).Meets library sender receiver (meetings index) app peer) ∧
      (outstanding (deployment.machines sender).process.messages
        (deployment.machines receiver).process.database).length ≤ count * maxSyncBatchMessages

end Events

section Answers

variable {ι : Type*} {library : JsonC} {uriPath : UriPath} {installation : Installation ι}
  {deployment : Deployment ι} {network : Network ι}

/-- What leaves no gap among the machines leaves none in the network. -/
theorem Deployment.Runs.gapless (runs : deployment.Runs network) {receiver : ι}
    {taken : List ChatMessage} (gapless : deployment.network.Gapless receiver taken) :
    network.Gapless receiver taken := by
  -- The conditions are about the files, and these are the same.
  have file : ∀ node, (deployment.network.nodes node).process.database =
      (network.nodes node).process.database := runs.database
  obtain ⟨earlier, unpassed⟩ := gapless
  simp only [file] at earlier unpassed
  exact ⟨earlier, unpassed⟩

/-- The step that answers an orderly action is orderly. -/
theorem DeploymentAction.Answer.orderly (runs : deployment.Runs network)
    {action : DeploymentAction ι} (orderly : action.Orderly library uriPath deployment)
    {step : NetworkAction ι} (answer : action.Answer uriPath deployment network step) :
    step.Orderly library network := by
  obtain ⟨closed, rest⟩ := orderly
  have unwrapped := answer.unwrapped runs closed
  cases answer with
  | created node occurrence app now parsed running handler => exact ⟨unwrapped, rest handler⟩
  | sent node occurrence summary => exact ⟨unwrapped, trivial⟩
  | started node surroundings listening reload clock => exact ⟨unwrapped, trivial⟩
  | delivered index receiver connection surroundings request post app place listed made running
      found =>
    obtain ⟨neverFull, gapless⟩ := rest
    refine ⟨?_, neverFull⟩
    intro other same
    rw [found, Option.mem_some_iff] at same
    subst same
    -- A running machine takes what its node takes.
    have taken := gapless request listed post made
    have process : (network.nodes receiver).process =
        (deployment.network.nodes receiver).process := by
      rw [runs.process running]
      show Process.running app.service = (deployment.machines receiver).process
      rw [running]
      rfl
    simp only [Node.taken, ← process] at taken
    exact runs.gapless taken

variable [DecidableEq ι]

/-- An orderly action is answered by an orderly step, or by none. -/
theorem Deployment.Runs.orderly_step (runs : deployment.Runs network) (lawful : library.Lawful)
    (plain : uriPath.Plain) (inOrder : network.InOrder library installation.mesh)
    {action : DeploymentAction ι} (orderly : action.Orderly library uriPath deployment) :
    ∃ answers : List (NetworkEvent ι),
      Guarded (networkEvent library installation.mesh)
        (fun network event => event.Orderly library installation.mesh network) network answers ∧
      (deploymentStep library uriPath installation deployment action).Runs
        (run (networkEvent library installation.mesh) network answers) ∧
      (run (networkEvent library installation.mesh) network answers).InOrder library
        installation.mesh := by
  -- The action is answered by one step, which is orderly when the action is.
  obtain ⟨answer, answers, after⟩ := @Deployment.Runs.step ι deployment network _ library uriPath
    installation runs plain action orderly.1
  cases answer with
  | none => exact ⟨[], trivial, after, inOrder⟩
  | some step =>
    have orderlyStep : (NetworkEvent.step step).Orderly library installation.mesh network :=
      (answers step rfl).orderly runs orderly
    exact ⟨[.step step], ⟨orderlyStep, trivial⟩, after, inOrder.event lawful orderlyStep⟩

end Answers

section Meetings

variable {ι : Type*} [DecidableEq ι] {library : JsonC} {uriPath : UriPath}
  {installation : Installation ι} {deployment : Deployment ι} {network : Network ι}
  {sender receiver : ι} {meeting : Meeting} {app peer : Application}

/-- A meeting of two running daemons is the run of its actions. -/
theorem Deployment.Meets.afterMeeting
    (meets : deployment.Meets library sender receiver meeting app peer) :
    deployment.afterMeeting library uriPath installation sender receiver meeting =
      run (deploymentStep library uriPath installation) deployment
        (meeting.actions library uriPath app peer deployment sender receiver) := by
  -- Both machines run, so the actions of the meeting are what happens.
  simp only [Deployment.afterMeeting, meets.sending, meets.receiving]

/-- A meeting changes no identity. -/
theorem Deployment.Named.afterMeeting (named : deployment.Named installation) (sender receiver : ι)
    (meeting : Meeting) :
    (deployment.afterMeeting library uriPath installation sender receiver meeting).Named
      installation := by
  unfold Deployment.afterMeeting
  split
  · exact run_invariant (fun _ action before => before.step action) _ named
  · -- Machines that do not run do not meet.
    exact named

/-- Meetings change no identity. -/
theorem Deployment.Named.afterMeetings (named : deployment.Named installation) (sender receiver : ι)
    (meetings : Nat → Meeting) (count : Nat) :
    (deployment.afterMeetings library uriPath installation sender receiver meetings count).Named
      installation := by
  -- The induction is on the number of meetings.
  induction count with
  | zero => exact named
  | succ count ih => exact ih.afterMeeting sender receiver (meetings count)

/-- The round a meeting is, if both daemons are running. -/
def Deployment.round (library : JsonC) (deployment : Deployment ι) (sender receiver : ι)
    (meeting : Meeting) : SyncRound :=
  match deployment.machines sender, deployment.machines receiver with
  | .running app, .running peer => meeting.round library app peer
  | _, _ => ⟨jsonRequest [], .stored, meeting.taking.results⟩

/-- Meetings that succeed are rounds of the network that succeed. -/
theorem Deployment.Runs.afterMeetings (runs : deployment.Runs network) (lawful : library.Lawful)
    (plain : uriPath.Plain) (named : deployment.Named installation) (apart : sender ≠ receiver)
    {meetings : Nat → Meeting} {count : Nat}
    (meets : ∀ index < count, ∃ app peer,
      (deployment.afterMeetings library uriPath installation sender receiver meetings index).Meets
        library sender receiver (meetings index) app peer) :
    let rounds := fun index => (deployment.afterMeetings library uriPath installation sender receiver
      meetings index).round library sender receiver (meetings index)
    (deployment.afterMeetings library uriPath installation sender receiver meetings count).Runs
      (network.afterRounds library installation.mesh sender receiver rounds count) ∧
    network.RoundsSucceed library installation.mesh sender receiver rounds count := by
  intro rounds
  -- The induction is on the number of meetings, each of which is one more round.
  induction count with
  | zero => exact ⟨runs, fun index below => absurd below (Nat.not_lt_zero index)⟩
  | succ count ih =>
    obtain ⟨before, succeed⟩ := ih fun index below => meets index (by omega)
    obtain ⟨app, peer, last⟩ := meets count (Nat.lt_succ_self count)
    have round : rounds count = (meetings count).round library app peer := by
      simp only [rounds, Deployment.round, last.sending, last.receiving]
    obtain ⟨after, synchronizes⟩ := before.met_named lawful plain
      (named.afterMeetings sender receiver meetings count) apart last.sending last.receiving
      last.succeeds
    rw [← last.afterMeeting, ← round] at after
    rw [← round] at synchronizes
    refine ⟨after, ?_⟩
    intro index below
    rcases Nat.lt_succ_iff_lt_or_eq.mp below with earlier | now
    · exact succeed index earlier
    · subst now
      refine ⟨⟨app.service, peer.service, synchronizes⟩, ?_⟩
      rw [round]
      exact last.neverFull

end Meetings

section Spreading

variable {ι : Type*} {library : JsonC} {uriPath : UriPath} {installation : Installation ι}
  {deployment : Deployment ι} {network : Network ι}

/-- A deployment whose daemons are named, and a network in order that it runs like. -/
structure Deployment.RunsInOrder (library : JsonC) (installation : Installation ι)
    (deployment : Deployment ι) (network : Network ι) : Prop where
  /-- The machines are the nodes. -/
  runs : deployment.Runs network
  /-- Every daemon announces its own identity. -/
  named : deployment.Named installation
  /-- The network is in order. -/
  inOrder : network.InOrder library installation.mesh

/-- Daemons that were just started are in order. -/
theorem Deployment.initial_runsInOrder (library : JsonC) (installation : Installation ι)
    (clock : ι → Clock) :
    (Deployment.initial installation clock).RunsInOrder library installation
      (Network.initial installation.mesh) where
  -- The network of the beginning is in order.
  runs := Deployment.initial_runs installation clock
  named := Deployment.initial_named installation clock
  inOrder := Network.initial_inOrder library installation.mesh

/-- A message is a row of a machine when its node has stored it. -/
theorem Deployment.RunsInOrder.mem_rows
    (ordered : deployment.RunsInOrder library installation network) (node : ι)
    (message : ChatMessage) :
    message ∈ (deployment.machines node).process.database.rows ↔
      message ∈ (network.nodes node).process.database.committed := by
  -- Nothing was pruned, so the rows are what was ever stored.
  rw [ordered.runs.database node, (ordered.inOrder.nodes node).unpruned]

/-- The rows of the machines are messages that were created. -/
theorem Deployment.RunsInOrder.created_of_row
    (ordered : deployment.RunsInOrder library installation network) {node : ι}
    {message : ChatMessage}
    (stored : message ∈ (deployment.machines node).process.database.rows) :
    network.Created message :=
  -- What a machine stores, its node stored.
  ordered.inOrder.recovering.agreeing.genuine.stored node message
    ((ordered.mem_rows node message).mp stored)

variable [DecidableEq ι]

/-- An orderly event is answered by orderly events that pass on what it passes on. -/
theorem Deployment.RunsInOrder.answered
    (ordered : deployment.RunsInOrder library installation network) (lawful : library.Lawful)
    (plain : uriPath.Plain) {event : DeploymentEvent ι}
    (orderly : event.Orderly library uriPath installation deployment) :
    ∃ answers : List (NetworkEvent ι),
      Guarded (networkEvent library installation.mesh)
        (fun network event => event.Orderly library installation.mesh network) network answers ∧
      (deploymentEvent library uriPath installation deployment event).RunsInOrder library
        installation (run (networkEvent library installation.mesh) network answers) ∧
      ∀ first next, event.Passes first next → Relays NetworkEvent.Passes answers first next := by
  obtain ⟨runs, named, inOrder⟩ := ordered
  cases event with
  | act action =>
    obtain ⟨answers, guarded, after, later⟩ := runs.orderly_step lawful plain inOrder orderly
    refine ⟨answers, guarded, ⟨after, named.step action, later⟩, ?_⟩
    intro first next passes
    cases passes
  | meet sender receiver meetings count =>
    obtain ⟨apart, positive, meets, enough⟩ := orderly
    obtain ⟨after, succeed⟩ := runs.afterMeetings lawful plain named apart meets
    let rounds := fun index => (deployment.afterMeetings library uriPath installation sender
      receiver meetings index).round library sender receiver (meetings index)
    obtain ⟨app, peer, first⟩ := meets 0 positive
    -- What is outstanding between the machines is what is outstanding between the nodes.
    have room : (network.outstanding sender receiver).length ≤ count * maxSyncBatchMessages := by
      rw [Network.outstanding, runs.process first.sending, runs.process first.receiving]
      have sending : deployment.machines sender = .running app := first.sending
      have receiving : deployment.machines receiver = .running peer := first.receiving
      rw [sending, receiving] at enough
      exact enough
    have orderlyExchange : (NetworkEvent.exchange sender receiver rounds count).Orderly library
        installation.mesh network := ⟨succeed, positive, room⟩
    refine ⟨[.exchange sender receiver rounds count], ⟨orderlyExchange, trivial⟩,
      ⟨after, named.afterMeetings sender receiver meetings count,
        inOrder.event lawful orderlyExchange⟩, ?_⟩
    intro first next passes
    cases passes
    exact .pass (.exchange _ _ _ _) (.stay _)

/-- Orderly events keep a deployment in order. -/
theorem Deployment.RunsInOrder.run (ordered : deployment.RunsInOrder library installation network)
    (lawful : library.Lawful) (plain : uriPath.Plain) {events : List (DeploymentEvent ι)}
    (orderly : Guarded (deploymentEvent library uriPath installation)
      (fun deployment event => event.Orderly library uriPath installation deployment) deployment
      events) :
    ∃ later, (Foundation.run (deploymentEvent library uriPath installation) deployment
        events).RunsInOrder library installation later ∧
      ((∀ first last, Relays DeploymentEvent.Passes events first last) →
        ∀ node message, network.Created message →
          message ∈ (later.nodes node).process.database.committed) := by
  -- The events are answered by a run of the network, in which messages spread.
  obtain ⟨answers, guarded, ending, relayed⟩ := run_answered_relays
    (fun ordered _ here => ordered.answered lawful plain here) ordered orderly
  refine ⟨_, ending, ?_⟩
  intro connected node message created
  exact ordered.inOrder.spread lawful guarded
    (fun first last => relayed first last (connected first last)) created

/--
Messages spread to every machine.

From any deployment that orderly actions and meetings have led to, let any more of them happen, in
any order, such that a chain of meetings leads from every machine to every other. In the end every
machine stores every message that any machine stored at the start. When nothing else was stored
meanwhile, all machines store the same messages and have the same marks, and any two running daemons
answer a request for their messages alike.
-/
theorem deployment_converges (lawful : library.Lawful) (plain : uriPath.Plain)
    (installation : Installation ι) (clock : ι → Clock) {past events : List (DeploymentEvent ι)}
    (reached : Guarded (deploymentEvent library uriPath installation)
      (fun deployment event => event.Orderly library uriPath installation deployment)
      (Deployment.initial installation clock) past)
    (orderly : Guarded (deploymentEvent library uriPath installation)
      (fun deployment event => event.Orderly library uriPath installation deployment)
      (run (deploymentEvent library uriPath installation) (Deployment.initial installation clock)
        past) events)
    (connected : ∀ first last, Relays DeploymentEvent.Passes events first last) :
    let start := run (deploymentEvent library uriPath installation)
      (Deployment.initial installation clock) past
    let final := run (deploymentEvent library uriPath installation) start events
    (∀ holder, ∀ message ∈ (start.machines holder).process.database.rows, ∀ node,
      message ∈ (final.machines node).process.database.rows) ∧
    ((∀ node, ∀ message ∈ (final.machines node).process.database.rows,
        ∃ holder, message ∈ (start.machines holder).process.database.rows) →
      ∀ left right,
        (∀ message, message ∈ (final.machines left).process.database.rows ↔
          message ∈ (final.machines right).process.database.rows) ∧
        (sequenceSummary (final.machines left).process.database).Perm
          (sequenceSummary (final.machines right).process.database) ∧
        ∀ app peer, final.machines left = .running app → final.machines right = .running peer →
          getMessages library app.service.store.messages =
            getMessages library peer.service.store.messages) := by
  intro start final
  obtain ⟨earlier, starting, _⟩ :=
    (Deployment.initial_runsInOrder library installation clock).run lawful plain reached
  obtain ⟨later, ending, spread⟩ := starting.run lawful plain orderly
  have everywhere : ∀ node holder message,
      message ∈ (start.machines holder).process.database.rows →
      message ∈ (final.machines node).process.database.rows := by
    intro node holder message stored
    rw [ending.mem_rows]
    exact spread connected node message (starting.created_of_row stored)
  refine ⟨fun holder message stored node => everywhere node holder message stored, ?_⟩
  intro nothingNew
  have created : ∀ node message, later.Created message →
      message ∈ (later.nodes node).process.database.committed := by
    intro node message created
    -- Some machine has it as a row, and so had another one at the start.
    obtain ⟨author, row⟩ := ending.inOrder.exists_row created
    rw [← ending.runs.database author] at row
    obtain ⟨holder, stored⟩ := nothingNew author message row
    exact (ending.mem_rows node message).mp (everywhere node holder message stored)
  intro left right
  obtain ⟨marks, lists, _⟩ := ending.inOrder.converged lawful created left right
  refine ⟨?_, ?_, ?_⟩
  · intro message
    rw [ending.mem_rows, ending.mem_rows]
    exact ⟨fun stored => created right message
        (ending.created_of_row ((ending.mem_rows left message).mpr stored)),
      fun stored => created left message
        (ending.created_of_row ((ending.mem_rows right message).mpr stored))⟩
  · rwa [← ending.runs.database left, ← ending.runs.database right] at marks
  · intro app peer leftRuns rightRuns
    exact lists app.service peer.service (ending.runs.process leftRuns)
      (ending.runs.process rightRuns)

end Spreading

section Pair

/-- The daemon of a machine, if it is running. -/
def Machine.app? : Machine → Option Application
  | .stopped _ => none
  | .running app => some app

/-- A running daemon is found. -/
theorem Machine.app?_eq_some {machine : Machine} {app : Application} :
    machine.app? = some app ↔ machine = .running app := by
  -- A stopped machine has no application.
  cases machine <;> simp [Machine.app?]

/-- Two daemons between which a meeting is smooth. -/
def Deployment.Smooth {ι : Type*} (library : JsonC) (deployment : Deployment ι)
    (sender receiver : ι) (meeting : Meeting) : Prop :=
  ∃ app ∈ (deployment.machines sender).app?, ∃ peer ∈ (deployment.machines receiver).app?,
    meeting.Smooth library app peer

/-- Whether a meeting of a deployment is smooth can be computed. -/
instance {ι : Type*} (library : JsonC) (deployment : Deployment ι) (sender receiver : ι)
    (meeting : Meeting) : Decidable (deployment.Smooth library sender receiver meeting) :=
  inferInstanceAs (Decidable (∃ app ∈ (deployment.machines sender).app?,
    ∃ peer ∈ (deployment.machines receiver).app?, meeting.Smooth library app peer))

/-- A smooth meeting of a deployment is one that succeeds. -/
theorem Deployment.Smooth.meets {ι : Type*} {library : JsonC} {deployment : Deployment ι}
    {sender receiver : ι} {meeting : Meeting}
    (smooth : deployment.Smooth library sender receiver meeting)
    (clean : ∀ item, meeting.taking.results item = {}) :
    ∃ app peer, deployment.Meets library sender receiver meeting app peer := by
  -- What can be checked is checked, and no call of SQLite fails.
  obtain ⟨app, sending, peer, receiving, meets⟩ := smooth
  refine ⟨app, peer, Machine.app?_eq_some.mp sending, Machine.app?_eq_some.mp receiving,
    meets.succeeds fun item => by rw [clean item], ?_⟩
  intro item
  rw [clean item]
  exact InsertResults.neverFull_default

/-- Node a gets a message, and then the two nodes hear each other in turn. -/
theorem deployment_converges_pair :
    let uriPath : UriPath := fun uri => some (some uri)
    let meetings : Nat → Meeting := fun _ => { address := ⟨10, 0, 0, 2⟩, connection := 9 }
    let start := run (deploymentEvent plainJsonC uriPath pairInstallation)
      (Deployment.initial pairInstallation fun _ => ⟨0, 1000, 0⟩) [.act (.event false posting)]
    let final := run (deploymentEvent plainJsonC uriPath pairInstallation) start
      [.meet false true meetings 1, .meet true false meetings 1]
    (start.machines false).process.database.rows.map ChatMessage.messageId = [ascii "a:1"] ∧
      ∀ message ∈ (start.machines false).process.database.rows,
        message ∈ (final.machines true).process.database.rows := by
  intro uriPath meetings start final
  have plain : uriPath.Plain := fun _ => rfl
  have clean : ∀ item, (meetings 0).taking.results item = {} := fun _ => rfl
  have closed : DeploymentAction.Closed uriPath
      (Deployment.initial pairInstallation fun _ => ⟨0, 1000, 0⟩) (.event false posting) := by
    decide +kernel
  -- A meeting whose checks pass has room for what is outstanding.
  have once : ∀ {deployment : Deployment Bool} {sender receiver : Bool}, sender ≠ receiver →
      deployment.Smooth plainJsonC sender receiver (meetings 0) →
      (outstanding (deployment.machines sender).process.messages
        (deployment.machines receiver).process.database).length ≤ 1 * maxSyncBatchMessages →
      (DeploymentEvent.meet sender receiver meetings 1).Orderly plainJsonC uriPath pairInstallation
        deployment := by
    intro deployment sender receiver apart smooth enough
    refine ⟨apart, Nat.one_pos, ?_, enough⟩
    intro index below
    rw [Nat.lt_one_iff.mp below]
    exact smooth.meets clean
  have there : (DeploymentEvent.meet false true meetings 1).Orderly plainJsonC uriPath
      pairInstallation start := once Bool.false_ne_true (by decide +kernel) (by decide +kernel)
  have andBack : (DeploymentEvent.meet true false meetings 1).Orderly plainJsonC uriPath
      pairInstallation (deploymentEvent plainJsonC uriPath pairInstallation start
        (.meet false true meetings 1)) :=
    once Bool.false_ne_true.symm (by decide +kernel) (by decide +kernel)
  -- The first meeting leads one way, and the second the other way.
  have connected : ∀ first last, Relays DeploymentEvent.Passes
      [.meet false true meetings 1, .meet true false meetings 1] first last := by
    intro first last
    cases first <;> cases last
    · exact Relays.refl _ _
    · exact .pass (.meet _ _ _ _) (Relays.refl _ _)
    · exact .skip _ (.pass (.meet _ _ _ _) (Relays.refl _ _))
    · exact Relays.refl _ _
  have reached : Guarded (deploymentEvent plainJsonC uriPath pairInstallation)
      (fun deployment event => event.Orderly plainJsonC uriPath pairInstallation deployment)
      (Deployment.initial pairInstallation fun _ => ⟨0, 1000, 0⟩) [.act (.event false posting)] :=
    ⟨⟨closed, fun _ => InsertResults.neverFull_default⟩, trivial⟩
  have orderly : Guarded (deploymentEvent plainJsonC uriPath pairInstallation)
      (fun deployment event => event.Orderly plainJsonC uriPath pairInstallation deployment)
      start [.meet false true meetings 1, .meet true false meetings 1] :=
    ⟨there, andBack, trivial⟩
  have spread := (deployment_converges plainJsonC_lawful plain pairInstallation
    (fun _ => ⟨0, 1000, 0⟩) reached orderly connected).1 false
  refine ⟨by decide +kernel, ?_⟩
  simp only [final, start]
  exact fun message stored => spread message stored true

end Pair

end LesChat
