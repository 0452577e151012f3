import LesChat.Application.Deployment
import LesChat.Network.CatchUp

/-! One daemon hears another and synchronizes with it, over the requests the two really make. -/

namespace LesChat

open Foundation

/-- What a client sees of a reply. -/
def HttpReply.response (reply : HttpReply) : HttpResponse :=
  ⟨reply.status, reply.reason, reply.body⟩

/-- What the network and the platform decide while one daemon hears and synchronizes another. -/
structure Meeting where
  /-- The address the announcement comes from. -/
  address : Ipv4
  /-- The connection the requests come in on. -/
  connection : Nat
  /-- While the announcement is handled. -/
  hearing : Surroundings := {}
  /-- While the summary is sent. -/
  asking : Surroundings := {}
  /-- While the peer answers. -/
  answering : Surroundings := {}
  /-- While the batch is sent. -/
  sending : Surroundings := {}
  /-- While the peer handles the batch. -/
  taking : Surroundings := {}

namespace Meeting

variable (library : JsonC) (uriPath : UriPath) (meeting : Meeting) (app peer : Application)

/-- The datagram the peer announces itself with. -/
def datagram : Datagram := ⟨sendAnnounce library peer.port peer.discovery, meeting.address⟩

/-- The daemon once it looked at the datagram. -/
def heard : Application :=
  { app with discovery :=
      receiveDatagram library meeting.hearing.settable (meeting.datagram library peer) app.discovery }

/-- The peers its summary goes to. -/
def peers : List Peer := reachedPeers meeting.asking (meeting.heard library app peer).discovery

/-- The place of the peer among them. -/
def place : Nat :=
  (meeting.peers library app peer).findIdx fun other => other.nodeId = peer.discovery.identity.nodeId

/-- The request its summary reaches the peer with. -/
def request : OutgoingRequest where
  address := inetNtop meeting.address
  port := peer.port
  endpoint := .syncSummary
  payload := synchronize library meeting.asking.originOrder app.service.store.database

/-- What the peer replies to it. -/
def response : Option HttpResponse :=
  (peer.react library uriPath meeting.answering (.request
    ((meeting.request library app peer).arrival meeting.connection))).2.reply.map
      HttpReply.response

/-- The round this is for the two message services. -/
def round : SyncRound :=
  ⟨jsonRequest (meeting.request library app peer).payload, meeting.answering.originOrder,
    meeting.taking.results⟩

/--
The actions of a meeting.

The datagram of the peer arrives, the timer fires, the summary reaches the peer, its reply comes
back, and the batch reaches the peer.
-/
def actions {ι : Type*} (deployment : Deployment ι) (sender receiver : ι) :
    List (DeploymentAction ι) := [
  .event sender ⟨.receive (meeting.datagram library peer), meeting.hearing⟩,
  .event sender ⟨.synchronize, meeting.asking⟩,
  .deliver (deployment.requests.length + meeting.place library app peer) receiver
    meeting.connection meeting.answering,
  .event sender ⟨.answer (app.contexts.length + meeting.place library app peer)
    (meeting.response library uriPath app peer), meeting.sending⟩,
  .deliver (deployment.requests.length + (meeting.peers library app peer).length) receiver
    meeting.connection meeting.taking]

/-- A meeting in which the peer is heard, the requests get through, and the round succeeds. -/
structure Succeeds : Prop where
  /-- The peer serves requests on a port. -/
  port : 1 ≤ peer.port ∧ peer.port ≤ 65535
  /-- The peer's clock can be announced. -/
  reading : 0 < currentTimeMs peer.discovery.clock ∧ currentTimeMs peer.discovery.clock < 2 ^ 63
  /-- The marks of the daemon can be read. -/
  asked : meeting.asking.summaryRead = true
  /-- The marks of the peer can be read. -/
  answered : meeting.answering.summaryRead = true
  /-- The summary reaches the peer. -/
  connects : meeting.asking.reached (inetNtop meeting.address) peer.port = true
  /-- The batch reaches the peer. -/
  sends : meeting.sending.reached (inetNtop meeting.address) peer.port = true
  /-- The reply is within the limit of a summary. -/
  short : ((meeting.round library app peer).answer library peer.service).body.length ≤
    maxSyncRequestBytes
  /-- The summary is answered, the batch fits, and no `add` throws. -/
  succeeds : (meeting.round library app peer).Succeeds library app.service.store.messages
    peer.service

/-- What can be checked of a meeting on a machine whose SQLite calls all succeed. -/
def Smooth : Prop :=
  (1 ≤ peer.port ∧ peer.port ≤ 65535) ∧
  (0 < currentTimeMs peer.discovery.clock ∧ currentTimeMs peer.discovery.clock < 2 ^ 63) ∧
  (meeting.asking.summaryRead = true ∧ meeting.answering.summaryRead = true) ∧
  (meeting.asking.reached (inetNtop meeting.address) peer.port = true ∧
    meeting.sending.reached (inetNtop meeting.address) peer.port = true) ∧
  ((meeting.round library app peer).answer library peer.service).body.length ≤
    maxSyncRequestBytes ∧
  (∀ message ∈ app.service.store.messages, message.sequence ≤ maxInt64) ∧
  ((meeting.round library app peer).answer library peer.service).status = 200 ∧
  (((meeting.round library app peer).batch library app.service.store.messages
    peer.service).toOption.bind id).all (fun batch => batch.length ≤ maxSyncRequestBytes) = true

/-- Whether a meeting is smooth can be computed. -/
instance : Decidable (meeting.Smooth library app peer) :=
  inferInstanceAs (Decidable (_ ∧ _ ∧ _ ∧ _ ∧ _ ∧ _ ∧ _ ∧ _))

variable {library meeting app peer}

/-- A smooth meeting succeeds where every SQLite call does. -/
theorem Smooth.succeeds (smooth : meeting.Smooth library app peer)
    (clean : ∀ item, (meeting.taking.results item).first = {}) :
    meeting.Succeeds library app peer := by
  -- What is not checked is that no `add` throws, which follows when no call fails.
  obtain ⟨port, reading, ⟨asked, answered⟩, ⟨connects, sends⟩, short, inRange, success, small⟩ :=
    smooth
  exact ⟨port, reading, asked, answered, connects, sends, short,
    SyncRound.succeeds_clean clean inRange success small⟩

end Meeting

section Hearing

variable {library : JsonC} {meeting : Meeting} {app peer : Application}

/-- A peer that was just heard is where its announcement came from. -/
theorem Meeting.mem_peers (lawful : library.Lawful) (accepted : peer.discovery.identity.Accepted)
    (other : peer.discovery.identity.nodeId ≠ app.discovery.identity.nodeId)
    (succeeds : meeting.Succeeds library app peer) :
    ∃ found ∈ meeting.peers library app peer, found.nodeId = peer.discovery.identity.nodeId ∧
      found.address = inetNtop meeting.address ∧ found.httpPort = peer.port := by
  have reading := succeeds.reading
  have low : -2 ^ 63 ≤ currentTimeMs peer.discovery.clock := by omega
  have valid := validPayload_announce lawful accepted succeeds.port peer.discovery.timeSyncMode low
    reading.2 other
  have decoded := (decodeAnnouncement_eq_some _ _ _ _).mpr valid
  have received : (meeting.heard library app peer).discovery = _ :=
    @receiveDatagram_accepted library (meeting.datagram library peer) app.discovery _ decoded
      meeting.hearing.settable
  -- The entry is stamped by the clock that the peers are looked up by.
  let sent := announcement peer.discovery.identity peer.port peer.discovery.timeSyncMode
    (currentTimeMs peer.discovery.clock)
  let now := currentTimeMs (clockAfter meeting.hearing.settable sent app.discovery)
  refine ⟨sent.peer meeting.address now, ?_, rfl, rfl, rfl⟩
  rw [Meeting.peers, reachedPeers, List.mem_filter]
  refine ⟨?_, succeeds.connects⟩
  rw [PeerRegistry.mem_activePeers, received]
  refine ⟨PeerRegistry.get?_update_same _ _, ?_⟩
  show 0 ≤ now - now ∧ now - now ≤ peerTimeoutMs
  rw [sub_self]
  exact ⟨le_refl 0, by decide⟩

/-- The peer has its place among those the summary goes to. -/
theorem Meeting.getElem?_place (lawful : library.Lawful)
    (accepted : peer.discovery.identity.Accepted)
    (other : peer.discovery.identity.nodeId ≠ app.discovery.identity.nodeId)
    (succeeds : meeting.Succeeds library app peer) :
    ∃ found, (meeting.peers library app peer)[meeting.place library app peer]? = some found ∧
      found.address = inetNtop meeting.address ∧ found.httpPort = peer.port := by
  obtain ⟨known, listed, named, address, port⟩ := Meeting.mem_peers lawful accepted other succeeds
  have within : meeting.place library app peer < (meeting.peers library app peer).length :=
    List.findIdx_lt_length_of_exists ⟨known, listed, decide_eq_true named⟩
  have sameId : ((meeting.peers library app peer)[meeting.place library app peer]).nodeId =
      peer.discovery.identity.nodeId := of_decide_eq_true (@List.findIdx_getElem _
    (fun other : Peer => decide (other.nodeId = peer.discovery.identity.nodeId))
    (meeting.peers library app peer) within)
  -- The registry knows one peer by that identifier, which is the one that was heard.
  have stored : ∀ found ∈ meeting.peers library app peer,
      (meeting.heard library app peer).discovery.registry.get? found.nodeId = some found := by
    intro found member
    exact ((PeerRegistry.mem_activePeers _ _ _ _).mp (List.mem_of_mem_filter member)).1
  have here := stored _ (List.getElem_mem within)
  rw [sameId, ← named, stored known listed] at here
  rw [List.getElem?_eq_getElem within]
  exact ⟨known, here.symm, address, port⟩

end Hearing

section Replying

variable {library : JsonC} {uriPath : UriPath} {meeting : Meeting} {app peer : Application}

/-- What the peer replies is what its message service answers the round with. -/
theorem Meeting.response_eq (plain : uriPath.Plain) (succeeds : meeting.Succeeds library app peer) :
    peer.react library uriPath meeting.answering (.request
        ((meeting.request library app peer).arrival meeting.connection)) =
      peer.reply (sendJson ((meeting.round library app peer).answer library peer.service)) ∧
    meeting.response library uriPath app peer =
      some ((meeting.round library app peer).answer library peer.service) := by
  -- The request is routed to the handler of summaries, whose marks can be read.
  have routed := routeRequest_arrival plain meeting.connection (meeting.request library app peer)
  have handled : peer.react library uriPath meeting.answering (.request
      ((meeting.request library app peer).arrival meeting.connection)) =
      peer.reply (sendJson ((meeting.round library app peer).answer library peer.service)) := by
    simp only [Application.react, Application.processRequest, routed]
    show peer.reply (sendJson (peer.syncSummary library meeting.answering _)) = _
    simp only [Application.syncSummary, succeeds.answered, Bool.true_eq_false, and_false, if_false]
    rfl
  refine ⟨handled, ?_⟩
  rw [Meeting.response, handled]
  rfl

/-- What the daemon makes of the reply is the batch of the round. -/
theorem Meeting.summaryAnswered_eq (plain : uriPath.Plain)
    (succeeds : meeting.Succeeds library app peer) {later : Application}
    (service : later.service = app.service) :
    later.summaryAnswered library meeting.sending ⟨inetNtop meeting.address, peer.port⟩
        (meeting.response library uriPath app peer) =
      match (meeting.round library app peer).batch library app.service.store.messages
        peer.service with
      | .ok (some batch) => [⟨inetNtop meeting.address, peer.port, .syncMessages, batch⟩]
      | _ => [] := by
  have success := succeeds.succeeds.answered
  have short := succeeds.short
  rw [(Meeting.response_eq plain succeeds).2, Application.summaryAnswered, Option.map_some, service]
  -- The reply passes the checks of its status and of its length.
  rw [handleSummaryResponse, if_neg (not_not.mpr success), if_neg (Nat.not_lt.mpr short),
    SyncRound.batch]
  split
  · rename_i batch same
    simp only [Option.some.injEq] at same
    rw [same, if_pos succeeds.sends]
  · rename_i refused
    split
    · rename_i batch same
      exact absurd (congrArg some same) (refused batch)
    · rfl

end Replying

section Running

variable {ι : Type*} [DecidableEq ι] {library : JsonC} {uriPath : UriPath}
  {installation : Installation ι} {deployment : Deployment ι}

/-- What an event of a running daemon leads to. -/
theorem Deployment.act_running {node : ι} {app : Application}
    (running : deployment.machines node = .running app) (occurrence : Occurrence) :
    deployment.act library uriPath node occurrence =
      ⟨Function.update deployment.machines node
          (.running (app.react library uriPath occurrence.surroundings occurrence.event).1),
        deployment.requests ++
          (app.react library uriPath occurrence.surroundings occurrence.event).2.requests⟩ := by
  -- A running machine reacts, and what it requests is under way.
  simp only [Deployment.act, running]

/-- The daemon once its summary is on its way to the peers. -/
def Meeting.asked (library : JsonC) (meeting : Meeting) (app peer : Application) : Application :=
  { meeting.heard library app peer with
    contexts := app.contexts ++
      (meeting.peers library app peer).map fun other => ⟨other.address, other.httpPort⟩ }

/-- The requests its summary is sent in. -/
def Meeting.summaries (library : JsonC) (meeting : Meeting) (app peer : Application) :
    List OutgoingRequest :=
  (meeting.peers library app peer).map fun other =>
    ⟨other.address, other.httpPort, .syncSummary, (meeting.request library app peer).payload⟩

/-- The requests it answers the reply of the peer with. -/
def Meeting.batches (library : JsonC) (uriPath : UriPath) (meeting : Meeting)
    (app peer : Application) : List OutgoingRequest :=
  (meeting.asked library app peer).summaryAnswered library meeting.sending
    ⟨inetNtop meeting.address, peer.port⟩ (meeting.response library uriPath app peer)

/-- The deployment once the batch is on its way. -/
def Meeting.sent (library : JsonC) (uriPath : UriPath) (meeting : Meeting) (app peer : Application)
    (deployment : Deployment ι) (sender : ι) : Deployment ι :=
  ⟨Function.update deployment.machines sender (.running { meeting.asked library app peer with
      contexts := (meeting.asked library app peer).contexts.eraseIdx
        (app.contexts.length + meeting.place library app peer) }),
    deployment.requests ++ meeting.summaries library app peer ++
      meeting.batches library uriPath app peer⟩

variable {meeting : Meeting} {app peer : Application} {sender receiver : ι}

/-- All but the last action of a meeting only change the daemon that synchronizes. -/
theorem Meeting.run_sent (lawful : library.Lawful) (plain : uriPath.Plain)
    (accepted : peer.discovery.identity.Accepted)
    (other : peer.discovery.identity.nodeId ≠ app.discovery.identity.nodeId)
    (apart : sender ≠ receiver) (sending : deployment.machines sender = .running app)
    (receiving : deployment.machines receiver = .running peer)
    (succeeds : meeting.Succeeds library app peer) :
    run (deploymentStep library uriPath installation) deployment
        (meeting.actions library uriPath app peer deployment sender receiver) =
      deploymentStep library uriPath installation
        (meeting.sent library uriPath app peer deployment sender)
        (.deliver (deployment.requests.length + (meeting.peers library app peer).length) receiver
          meeting.connection meeting.taking) := by
  obtain ⟨found, placed, address, port⟩ :=
    Meeting.getElem?_place lawful accepted other succeeds
  -- The deployment after the first action, and after the second.
  let heard : Deployment ι :=
    ⟨Function.update deployment.machines sender (.running (meeting.heard library app peer)),
      deployment.requests⟩
  let asked : Deployment ι :=
    ⟨Function.update deployment.machines sender (.running (meeting.asked library app peer)),
      deployment.requests ++ meeting.summaries library app peer⟩
  have hearing : deploymentStep library uriPath installation deployment
      (.event sender ⟨.receive (meeting.datagram library peer), meeting.hearing⟩) = heard := by
    show deployment.act library uriPath sender _ = heard
    rw [Deployment.act_running sending]
    simp only [Application.react, List.append_nil]
    rfl
  have asking : deploymentStep library uriPath installation heard
      (.event sender ⟨.synchronize, meeting.asking⟩) = asked := by
    have running : heard.machines sender = .running (meeting.heard library app peer) :=
      Function.update_self _ _ _
    show heard.act library uriPath sender _ = asked
    rw [Deployment.act_running running]
    simp only [Application.react, Application.synchronize, succeeds.asked, Bool.true_eq_false,
      if_false, heard, Function.update_idem]
    rfl
  -- Only the hearing daemon has acted so far.
  have receivingStill : asked.machines receiver = .running peer := by
    simp only [asked, Function.update_of_ne apart.symm]
    exact receiving
  -- A summary changes nothing at the peer, so its answer is all that remains.
  have answering : deploymentStep library uriPath installation asked
      (.deliver (deployment.requests.length + meeting.place library app peer) receiver
        meeting.connection meeting.answering) = asked := by
    have listed : asked.requests[deployment.requests.length + meeting.place library app peer]? =
        some (meeting.request library app peer) := by
      simp only [asked, Meeting.summaries]
      rw [List.getElem?_append_right (Nat.le_add_right _ _), Nat.add_sub_cancel_left,
        List.getElem?_map, placed, Option.map_some, address, port]
      rfl
    simp only [deploymentStep, listed]
    rw [Deployment.act_running receivingStill, (Meeting.response_eq plain succeeds).1]
    simp only [Application.reply, List.append_nil]
    rw [← receivingStill, Function.update_eq_self]
  have replied : deploymentStep library uriPath installation asked
      (.event sender ⟨.answer (app.contexts.length + meeting.place library app peer)
        (meeting.response library uriPath app peer), meeting.sending⟩) =
      meeting.sent library uriPath app peer deployment sender := by
    have running : asked.machines sender = .running (meeting.asked library app peer) :=
      Function.update_self _ _ _
    -- The answer belongs to the request that was placed for this peer.
    have waiting : (meeting.asked library app peer).contexts[app.contexts.length +
        meeting.place library app peer]? = some ⟨inetNtop meeting.address, peer.port⟩ := by
      simp only [Meeting.asked]
      rw [List.getElem?_append_right (Nat.le_add_right _ _), Nat.add_sub_cancel_left,
        List.getElem?_map, placed, Option.map_some, address, port]
    show asked.act library uriPath sender _ = _
    rw [Deployment.act_running running]
    simp only [Application.react, waiting, asked, Function.update_idem]
    rfl
  simp only [Meeting.actions, run_cons, run_nil, hearing, asking, answering, replied]

variable {network : Network ι}

/-- The summary goes to the peers in one request each. -/
theorem Meeting.length_summaries (library : JsonC) (meeting : Meeting) (app peer : Application)
    (requests : List OutgoingRequest) :
    (requests ++ meeting.summaries library app peer).length =
      requests.length + (meeting.peers library app peer).length := by
  -- One summary is requested of each peer.
  rw [List.length_append, Meeting.summaries, List.length_map]

/-- The summary carries no messages, so it needs no answer. -/
theorem Deployment.Runs.summarized (runs : deployment.Runs network)
    (sending : deployment.machines sender = .running app) (library : JsonC) (meeting : Meeting)
    (peer : Application) (contexts : List RequestContext) :
    Deployment.Runs ⟨Function.update deployment.machines sender
        (.running { meeting.asked library app peer with contexts }),
      deployment.requests ++ meeting.summaries library app peer⟩ network := by
  -- A request for a summary carries no message.
  refine runs.quiet sending ({ meeting.asked library app peer with contexts },
    { requests := meeting.summaries library app peer }) rfl ?_
  intro request member
  obtain ⟨found, _, rfl⟩ := List.mem_map.mp member
  rfl

/-- When the reply leads to no batch, nothing arrives at the end of a meeting or of its round. -/
theorem Deployment.Runs.met_unsent (runs : deployment.Runs network)
    (sending : deployment.machines sender = .running app)
    (nothing : meeting.batches library uriPath app peer = [])
    (unsent : ∀ batch, (meeting.round library app peer).batch library app.service.store.messages
      peer.service ≠ .ok (some batch)) :
    (deploymentStep library uriPath installation
      (meeting.sent library uriPath app peer deployment sender)
      (.deliver (deployment.requests.length + (meeting.peers library app peer).length) receiver
        meeting.connection meeting.taking)).Runs
      (networkStep library installation.mesh (networkStep library installation.mesh network
        (.sendMissing sender ((meeting.round library app peer).answer library peer.service).body))
        (.deliver network.posts.length receiver .ok (meeting.round library app peer).results)) := by
  -- Where nothing is sent, the network stays as it is.
  have same : networkStep library installation.mesh network (.sendMissing sender
      ((meeting.round library app peer).answer library peer.service).body) = network := by
    simp only [networkStep, Network.afterSendMissing, runs.process sending]
    split
    · rename_i batch sent
      exact absurd sent (unsent batch)
    · rfl
  -- The last delivery finds no request, as the list ends with the summaries.
  have unlisted : (meeting.sent library uriPath app peer deployment sender).requests[
      deployment.requests.length + (meeting.peers library app peer).length]? = none := by
    simp only [Meeting.sent, nothing, List.append_nil]
    exact List.getElem?_eq_none (Nat.le_of_eq (meeting.length_summaries library app peer _))
  rw [same]
  simp only [deploymentStep, unlisted, networkStep, List.getElem?_eq_none (Nat.le_refl _)]
  simp only [Meeting.sent, nothing, List.append_nil]
  exact runs.summarized sending library meeting peer _

/-- When the reply leads to a batch, the same one arrives at the end of a meeting and of its round. -/
theorem Deployment.Runs.met_sent (runs : deployment.Runs network) (plain : uriPath.Plain)
    (apart : sender ≠ receiver) (sending : deployment.machines sender = .running app)
    (receiving : deployment.machines receiver = .running peer) {batch : Bytes}
    (only : meeting.batches library uriPath app peer =
      [⟨inetNtop meeting.address, peer.port, .syncMessages, batch⟩])
    (sent : (meeting.round library app peer).batch library app.service.store.messages
      peer.service = .ok (some batch)) :
    (deploymentStep library uriPath installation
      (meeting.sent library uriPath app peer deployment sender)
      (.deliver (deployment.requests.length + (meeting.peers library app peer).length) receiver
        meeting.connection meeting.taking)).Runs
      (networkStep library installation.mesh (networkStep library installation.mesh network
        (.sendMissing sender ((meeting.round library app peer).answer library peer.service).body))
        (.deliver network.posts.length receiver .ok (meeting.round library app peer).results)) := by
  have quiet := runs.summarized sending library meeting peer
    ((meeting.asked library app peer).contexts.eraseIdx
      (app.contexts.length + meeting.place library app peer))
  let posted : Network ι := { network with posts := network.posts ++ [.syncMessages batch] }
  have posting : networkStep library installation.mesh network (.sendMissing sender
      ((meeting.round library app peer).answer library peer.service).body) = posted := by
    rw [SyncRound.batch] at sent
    simp only [networkStep, Network.afterSendMissing, runs.process sending, sent]
    rfl
  have sentRuns : (meeting.sent library uriPath app peer deployment sender).Runs posted := by
    refine ⟨quiet.machines, ?_⟩
    intro request member post made
    rcases List.mem_append.mp member with old | new
    · exact List.mem_append_left _ (quiet.posted request old post made)
    · rw [only, List.mem_singleton] at new
      subst new
      cases made
      exact List.mem_append_right _ (List.mem_singleton_self _)
  have listed : (meeting.sent library uriPath app peer deployment sender).requests[
      deployment.requests.length + (meeting.peers library app peer).length]? =
      some ⟨inetNtop meeting.address, peer.port, .syncMessages, batch⟩ := by
    simp only [Meeting.sent, only]
    rw [← meeting.length_summaries library app peer, List.getElem?_concat_length]
  have running : (meeting.sent library uriPath app peer deployment sender).machines receiver =
      .running peer := by
    simp only [Meeting.sent, Function.update_of_ne apart.symm]
    exact receiving
  have found : posted.posts[network.posts.length]? = some (.syncMessages batch) :=
    List.getElem?_concat_length
  -- A batch is handled without a lookup, so how one would end is of no account.
  have delivery : networkStep library installation.mesh posted
      (.deliver network.posts.length receiver .ok (meeting.round library app peer).results) =
      networkStep library installation.mesh posted
        (.deliver network.posts.length receiver meeting.taking.lookup meeting.taking.results) := by
    simp only [networkStep, found]
    rfl
  have called : (daemonStep library (installation.mesh.identity receiver) (posted.nodes receiver)
      (Post.action meeting.taking.lookup meeting.taking.results (.syncMessages batch))).process =
      .running (syncMessages library meeting.taking.results (jsonRequest batch)
        peer.service).2 := by
    simp only [Post.action, daemonStep, posted, runs.process receiving]
  have routed := routeRequest_arrival plain meeting.connection
    ⟨inetNtop meeting.address, peer.port, .syncMessages, batch⟩
  rw [posting, delivery]
  simp only [deploymentStep, listed]
  rw [Deployment.act_running running]
  simp only [Application.react, Application.processRequest, routed]
  exact sentRuns.delivered running meeting.taking found called

/-- A meeting that succeeds is a round of the network. -/
theorem Deployment.Runs.met (runs : deployment.Runs network) (lawful : library.Lawful)
    (plain : uriPath.Plain) (accepted : peer.discovery.identity.Accepted)
    (other : peer.discovery.identity.nodeId ≠ app.discovery.identity.nodeId)
    (apart : sender ≠ receiver) (sending : deployment.machines sender = .running app)
    (receiving : deployment.machines receiver = .running peer)
    (succeeds : meeting.Succeeds library app peer) :
    (run (deploymentStep library uriPath installation) deployment
        (meeting.actions library uriPath app peer deployment sender receiver)).Runs
      (network.afterRound library installation.mesh sender receiver
        (meeting.round library app peer)) := by
  -- The first four actions lead to the batch, and the last one delivers it.
  have batches : meeting.batches library uriPath app peer = _ :=
    Meeting.summaryAnswered_eq plain succeeds (rfl : (meeting.asked library app peer).service = _)
  rw [Meeting.run_sent lawful plain accepted other apart sending receiving succeeds]
  simp only [Network.afterRound, runs.process receiving, SyncRound.actions, run_cons, run_nil]
  -- There is a batch, or nothing is missing, or making one throws.
  cases sent : (meeting.round library app peer).batch library app.service.store.messages
    peer.service with
  | error error =>
    rw [sent] at batches
    exact runs.met_unsent sending batches fun batch same => by simp [sent] at same
  | ok outcome =>
    rw [sent] at batches
    cases outcome with
    | none => exact runs.met_unsent sending batches fun batch same => by simp [sent] at same
    | some batch => exact runs.met_sent plain apart sending receiving batches sent

end Running

section Identities

variable {ι : Type*} {installation : Installation ι}

/-- A machine whose daemon is running. -/
def Deployment.Awake (deployment : Deployment ι) (node : ι) : Prop :=
  ∃ app, deployment.machines node = .running app

/-- Every running daemon announces the identity it was started with. -/
def Deployment.Named (installation : Installation ι) (deployment : Deployment ι) : Prop :=
  ∀ node app, deployment.machines node = .running app →
    app.discovery.identity = (installation.settings node).identity

/-- Daemons that were just started are named. -/
theorem Deployment.initial_named (installation : Installation ι) (clock : ι → Clock) :
    (Deployment.initial installation clock).Named installation := by
  -- Every machine starts with its own settings.
  intro node app running
  cases running
  rfl

variable [DecidableEq ι] {library : JsonC} {uriPath : UriPath} {deployment : Deployment ι}

/-- No event changes the identity a daemon announces. -/
theorem Deployment.Named.act (named : deployment.Named installation) (node : ι)
    (occurrence : Occurrence) :
    (deployment.act library uriPath node occurrence).Named installation := by
  cases machine : deployment.machines node with
  | stopped database =>
    simp only [Deployment.act, machine]
    exact named
  | running app =>
    rw [Deployment.act_running machine]
    intro other after running
    by_cases acts : other = node
    · subst acts
      simp only [Function.update_self, Machine.running.injEq] at running
      -- No event changes the settings of the discovery.
      have discovery := (app.react_stepped library uriPath occurrence.surroundings
        occurrence.event).discovery
      rw [← running, discovery, (run_settings library _ _).1]
      exact named other app machine
    · simp only [Function.update_of_ne acts] at running
      exact named other after running

/-- No action changes the identity a daemon announces. -/
theorem Deployment.Named.step (named : deployment.Named installation)
    (action : DeploymentAction ι) :
    (deploymentStep library uriPath installation deployment action).Named installation := by
  cases action with
  | event node occurrence => exact named.act node occurrence
  | deliver index receiver connection surroundings =>
    simp only [deploymentStep]
    split
    · exact named.act receiver _
    · exact named
  | stop node =>
    intro other app running
    by_cases stops : other = node
    · -- A machine that stops is not running.
      simp [deploymentStep, stops] at running
    · simp only [deploymentStep, Function.update_of_ne stops] at running
      exact named other app running
  | start node surroundings listening reload clock =>
    simp only [deploymentStep]
    split
    · exact named
    · split
      · -- An application that starts is made from the settings of its machine.
        rename_i started
        obtain ⟨service, _, rfl⟩ := startApplication_some started
        intro other app running
        by_cases starts : other = node
        · subst starts
          simp only [Function.update_self, Machine.running.injEq] at running
          rw [← running]
          rfl
        · simp only [Function.update_of_ne starts] at running
          exact named other app running
      · exact named

/-- Every daemon of a run is named. -/
theorem run_named (installation : Installation ι) (clock : ι → Clock)
    (actions : List (DeploymentAction ι)) :
    (run (deploymentStep library uriPath installation) (Deployment.initial installation clock)
      actions).Named installation :=
  -- No action changes whose daemon a machine runs.
  run_invariant (fun _ action named => named.step action) actions
    (Deployment.initial_named installation clock)

/-- A running daemon goes on running until it is stopped. -/
theorem Deployment.Awake.step {node : ι} (awake : deployment.Awake node)
    {action : DeploymentAction ι} (goes : ∀ stopped, action ≠ .stop stopped) :
    (deploymentStep library uriPath installation deployment action).Awake node := by
  obtain ⟨app, machine⟩ := awake
  -- Whoever acts runs afterwards, and the other machines are as they were.
  have updated : ∀ acting later requests, Deployment.Awake
      ⟨Function.update deployment.machines acting (.running later), requests⟩ node := by
    intro acting later requests
    by_cases acts : node = acting
    · subst acts
      exact ⟨later, Function.update_self _ _ _⟩
    · refine ⟨app, ?_⟩
      simp only [Function.update_of_ne acts]
      exact machine
  have acts : ∀ acting occurrence,
      (deployment.act library uriPath acting occurrence).Awake node := by
    intro acting occurrence
    unfold Deployment.act
    split
    · exact ⟨app, machine⟩
    · exact updated _ _ _
  cases action with
  | event acting occurrence => exact acts acting occurrence
  | deliver index receiver connection surroundings =>
    simp only [deploymentStep]
    split
    · exact acts receiver _
    · exact ⟨app, machine⟩
  | stop stopped => exact absurd rfl (goes stopped)
  | start starting surroundings listening reload clock =>
    simp only [deploymentStep]
    split
    · exact ⟨app, machine⟩
    · split
      · exact updated _ _ _
      · exact ⟨app, machine⟩

end Identities

section Meeting

variable {ι : Type*} {library : JsonC} {network : Network ι} {sender receiver : ι}
  {installation : Installation ι} {deployment : Deployment ι} {app peer : Application}

/-- Two named daemons announce identities that are accepted and different. -/
theorem Deployment.Named.strangers (named : deployment.Named installation)
    (apart : sender ≠ receiver) (sending : deployment.machines sender = .running app)
    (receiving : deployment.machines receiver = .running peer) :
    peer.discovery.identity.Accepted ∧
      peer.discovery.identity.nodeId ≠ app.discovery.identity.nodeId := by
  -- Different machines were installed with different identifiers.
  rw [named sender app sending, named receiver peer receiving]
  exact ⟨installation.accepted receiver, fun same => apart (installation.distinct same).symm⟩

variable [DecidableEq ι] {uriPath : UriPath} {meeting : Meeting}

/-- A meeting leaves all other machines alone. -/
theorem Deployment.Named.met_other (named : deployment.Named installation)
    (lawful : library.Lawful) (plain : uriPath.Plain) (apart : sender ≠ receiver)
    (sending : deployment.machines sender = .running app)
    (receiving : deployment.machines receiver = .running peer)
    (succeeds : meeting.Succeeds library app peer) {other : ι} (notSender : other ≠ sender)
    (notReceiver : other ≠ receiver) :
    (run (deploymentStep library uriPath installation) deployment
      (meeting.actions library uriPath app peer deployment sender receiver)).machines other =
        deployment.machines other := by
  obtain ⟨accepted, strange⟩ := named.strangers apart sending receiving
  rw [Meeting.run_sent lawful plain accepted strange apart sending receiving succeeds]
  have sent : (meeting.sent library uriPath app peer deployment sender).machines other =
      deployment.machines other := Function.update_of_ne notSender _ _
  -- The last action is one of the peer, if it is one at all.
  simp only [deploymentStep]
  split
  · unfold Deployment.act
    split
    · exact sent
    · simp only [Function.update_of_ne notReceiver]
      exact sent
  · exact sent

/-- A meeting between named daemons is a round of the network. -/
theorem Deployment.Runs.met_named (runs : deployment.Runs network) (lawful : library.Lawful)
    (plain : uriPath.Plain) (named : deployment.Named installation) (apart : sender ≠ receiver)
    (sending : deployment.machines sender = .running app)
    (receiving : deployment.machines receiver = .running peer)
    (succeeds : meeting.Succeeds library app peer) :
    (run (deploymentStep library uriPath installation) deployment
        (meeting.actions library uriPath app peer deployment sender receiver)).Runs
      (network.afterRound library installation.mesh sender receiver
        (meeting.round library app peer)) ∧
    network.Synchronizes library sender receiver (meeting.round library app peer) app.service
      peer.service := by
  -- The two machines run daemons that are strangers to each other.
  obtain ⟨accepted, strange⟩ := named.strangers apart sending receiving
  exact ⟨runs.met lawful plain accepted strange apart sending receiving succeeds,
    runs.process sending, runs.process receiving, succeeds.succeeds⟩

/-- Daemons that are running at the beginning of a meeting are running at its end. -/
theorem Deployment.Awake.met {node : ι} (awake : deployment.Awake node) :
    (run (deploymentStep library uriPath installation) deployment
      (meeting.actions library uriPath app peer deployment sender receiver)).Awake node := by
  -- None of the five actions stops a machine.
  have guarded : Guarded (deploymentStep library uriPath installation)
      (fun _ action => ∀ stopped, action ≠ .stop stopped) deployment
      (meeting.actions library uriPath app peer deployment sender receiver) := by
    refine ⟨?_, ?_, ?_, ?_, ?_, trivial⟩ <;> intro stopped <;> exact nofun
  exact @guarded_invariant _ _ _ _ (fun after => after.Awake node)
    (fun _ _ before goes => before.step goes) _ _ guarded awake

/--
One daemon hears another, and sends it a batch of what it lacks.

At any point of a run in which no message comes from outside, no counter wraps around and every
start reads its mark, let the announcement of a running daemon arrive at another one, whose timer
then fires. When the requests get through and the databases work, the first fifty messages that the
hearing daemon has above the marks of the announcing one, in the order of the hearing daemon, are
appended to the log of the announcing one. The message service of the hearing daemon and all other
machines are left as they are.
-/
theorem daemons_synchronize (lawful : library.Lawful) (plain : uriPath.Plain)
    (installation : Installation ι) (clock : ι → Clock) {actions : List (DeploymentAction ι)}
    (closed : Guarded (deploymentStep library uriPath installation)
      (DeploymentAction.Closed uriPath) (Deployment.initial installation clock) actions)
    (apart : sender ≠ receiver)
    (sending : (run (deploymentStep library uriPath installation)
      (Deployment.initial installation clock) actions).machines sender = .running app)
    (receiving : (run (deploymentStep library uriPath installation)
      (Deployment.initial installation clock) actions).machines receiver = .running peer)
    (succeeds : meeting.Succeeds library app peer) :
    let deployment := run (deploymentStep library uriPath installation)
      (Deployment.initial installation clock) actions
    let after := run (deploymentStep library uriPath installation) deployment
      (meeting.actions library uriPath app peer deployment sender receiver)
    (∃ later, after.machines receiver = .running later ∧
      later.service.store.database.committed = peer.service.store.database.committed ++
        (outstanding app.service.store.messages peer.service.store.database).take
          maxSyncBatchMessages) ∧
    (∃ later, after.machines sender = .running later ∧ later.service = app.service) ∧
    ∀ other, other ≠ sender → other ≠ receiver →
      after.machines other = deployment.machines other := by
  intro deployment after
  -- The run up to the meeting is the run of a network that agrees.
  have named : deployment.Named installation := run_named installation clock actions
  obtain ⟨answers, unwrapped, runs⟩ := (@deployment_simulates ι _ library uriPath installation
    plain).run_answered (Deployment.initial_runs installation clock) closed
  have genuine := (run_agreeing lawful unwrapped).genuine
  obtain ⟨met, synchronizes⟩ :=
    runs.met_named lawful plain named apart sending receiving succeeds
  obtain ⟨left, leaving⟩ : after.Awake sender := Deployment.Awake.met ⟨app, sending⟩
  obtain ⟨later, taking⟩ : after.Awake receiver := Deployment.Awake.met ⟨peer, receiving⟩
  -- After the round, the sender is as it was, and the receiver has taken the batch.
  have same := met.process leaving
  have taken := met.process taking
  rw [Network.nodes_afterRound synchronizes] at same taken
  simp only [Function.update_of_ne apart, runs.process sending, Process.running.injEq] at same
  simp only [Function.update_self, Process.running.injEq] at taken
  refine ⟨⟨later, taking, ?_⟩, ⟨left, leaving, same.symm⟩, ?_⟩
  · rw [← taken, genuine.committed_after lawful synchronizes, synchronizes.outstanding_eq]
  · intro other notSender notReceiver
    exact named.met_other lawful plain apart sending receiving succeeds notSender notReceiver

/-- A client posts a message. -/
def posting : Occurrence := ⟨.request ⟨8, .post, some (ascii "/api/v1/messages"),
  jsonRequest (ascii "\x7b\"body\":\"hello\"\x7d")⟩, {}⟩

/-- The daemon of node a, once a message was posted to it. -/
def greeter : Application :=
  ((pairInstallation.settings false).application ⟨0, 1000, 0⟩
    (MessageService.initial (pairInstallation.settings false).identity)).step plainJsonC
    (fun uri => some (some uri)) posting

/-- The daemon of node b, just started. -/
def listener : Application :=
  (pairInstallation.settings true).application ⟨0, 1000, 0⟩
    (MessageService.initial (pairInstallation.settings true).identity)

/-- Node b is heard by node a, and gets the one message it is missing. -/
theorem daemons_synchronize_pair :
    let uriPath : UriPath := fun uri => some (some uri)
    let start := Deployment.initial pairInstallation fun _ => ⟨0, 1000, 0⟩
    let deployment := run (deploymentStep plainJsonC uriPath pairInstallation) start
      [.event false posting]
    let meeting : Meeting := { address := ⟨10, 0, 0, 2⟩, connection := 9 }
    let after := run (deploymentStep plainJsonC uriPath pairInstallation) deployment
      (meeting.actions plainJsonC uriPath greeter listener deployment false true)
    ∃ later, after.machines true = .running later ∧
      later.service.store.database.committed.map ChatMessage.messageId = [ascii "a:1"] := by
  intro uriPath start deployment meeting after
  have plain : uriPath.Plain := fun _ => rfl
  have fresh : start.machines false = .running ((pairInstallation.settings false).application
      ⟨0, 1000, 0⟩ (MessageService.initial (pairInstallation.settings false).identity)) := rfl
  have acted : deployment = ⟨Function.update start.machines false (.running greeter), _⟩ :=
    @Deployment.act_running Bool _ plainJsonC uriPath start false _ fresh posting
  -- The greeting was posted on the first machine only.
  have sending : deployment.machines false = .running greeter := by
    simp only [acted, Function.update_self]
  have receiving : deployment.machines true = .running listener := by
    have other : true ≠ false := by decide
    simp only [acted, Function.update_of_ne other]
    rfl
  have smooth : meeting.Smooth plainJsonC greeter listener := by decide +kernel
  have succeeds := smooth.succeeds fun _ => rfl
  have closed : Guarded (deploymentStep plainJsonC uriPath pairInstallation)
      (DeploymentAction.Closed uriPath) start [.event false posting] := by decide +kernel
  obtain ⟨later, taking, committed⟩ := (daemons_synchronize plainJsonC_lawful plain
    pairInstallation (fun _ => ⟨0, 1000, 0⟩) closed Bool.false_ne_true sending receiving
    succeeds).1
  have received : (listener.service.store.database.committed ++
      (outstanding greeter.service.store.messages listener.service.store.database).take
        maxSyncBatchMessages).map ChatMessage.messageId = [ascii "a:1"] := by decide +kernel
  simp only [after, deployment, start]
  exact ⟨later, taking, (congrArg _ committed).trans received⟩

end Meeting

end LesChat
