import LesChat.Discovery.Understood
import LesChat.Http.Routes
import LesChat.Sync.SyncService
import LesChat.Web.EventFraming

/-! A whole daemon: the services of one process, and what each event of its loop makes them do. -/

namespace LesChat

open Foundation

/-- The path of a peer a request is posted to. -/
inductive Endpoint where
  /-- A message. -/
  | replicate
  /-- A summary. -/
  | syncSummary
  /-- A batch. -/
  | syncMessages
deriving DecidableEq

/-- The text of the path. -/
def Endpoint.path : Endpoint → Bytes
  | .replicate => ascii "/api/v1/replicate"
  | .syncSummary => ascii "/api/v1/sync/summary"
  | .syncMessages => ascii "/api/v1/sync/messages"

/-- A request a daemon makes. -/
structure OutgoingRequest where
  /-- The address it is sent to. -/
  address : Bytes
  /-- The port it is sent to. -/
  port : Nat
  /-- The path it is posted to. -/
  endpoint : Endpoint
  /-- Its body. -/
  payload : Bytes
deriving DecidableEq

/-- `SyncService::RequestContext`: where the summary that is waited for was asked. -/
structure RequestContext where
  /-- The address of the peer. -/
  address : Bytes
  /-- Its port. -/
  port : Nat
deriving DecidableEq

/-- What `main` hands to the application. -/
structure Settings where
  /-- The identity. -/
  identity : NodeIdentity
  /-- The address the server listens on. -/
  bindAddress : Bytes
  /-- The port it listens on. -/
  port : Nat
  /-- How the node takes part in time synchronization. -/
  timeSyncMode : TimeSyncMode
  /-- The authority it follows, empty when there is none. -/
  timeAuthorityId : Bytes

/-- What the platform decides while one event is handled. -/
structure Surroundings where
  /-- The lookup of an identifier. -/
  lookup : SqliteResult := .ok
  /-- The outcomes of each `add`, by its place in the request. -/
  results : Nat → AddResults := fun _ => {}
  /-- Whether the marks of the store can be read. -/
  summaryRead : Bool := true
  /-- The order the marks are met in. -/
  originOrder : IterationOrder := .stored
  /-- The order the peers are met in. -/
  peerOrder : PeerOrder := .stored
  /-- Whether a request to an address and a port can be made. -/
  reached : Bytes → Nat → Bool := fun _ _ => true
  /-- Whether the system lets its clock be set. -/
  settable : Bool := false
  /-- Whether a datagram can be sent. -/
  announced : Bool := true
  /-- The web assets that can be read. -/
  asset : String → Option Bytes := fun _ => none

/-- What handling one event sends. -/
structure Effects where
  /-- The reply to the request that was handled. -/
  reply : Option HttpReply := none
  /-- The requests made, in order. -/
  requests : List OutgoingRequest := []
  /-- The datagrams broadcast. -/
  datagrams : List Bytes := []

/-- `Application`: one running daemon. -/
structure Application where
  /-- The address the server listens on. -/
  bindAddress : Bytes
  /-- The port it listens on. -/
  port : Nat
  /-- The message service, with the store. -/
  service : MessageService
  /-- The discovery service, with the peer registry and the clocks. -/
  discovery : DiscoveryService
  /-- The event stream. -/
  events : EventStream
  /-- The summary requests that were not answered yet. -/
  contexts : List RequestContext

/-- One event of the loop. -/
inductive ApplicationEvent where
  /-- The server receives a request. -/
  | request (request : ServerRequest)
  /-- A connection of a subscriber is closed. -/
  | close (connection : Nat)
  /-- A datagram arrives. -/
  | receive (datagram : Datagram)
  /-- The timer of the announcements fires. -/
  | announce
  /-- The timer of the sync service fires. -/
  | synchronize
  /-- A summary request is answered, or fails. -/
  | answer (index : Nat) (response : Option HttpResponse)
  /-- Time passes. -/
  | elapse (elapsedMs : Nat)

/-- An event, with what the platform decides while it is handled. -/
structure Occurrence where
  /-- The event. -/
  event : ApplicationEvent
  /-- What the platform decides. -/
  surroundings : Surroundings := {}

/-- The texts a call published. -/
def MessageService.publishedSince (before after : MessageService) : List Bytes :=
  -- The record only grows, so what is new is at its end.
  after.published.drop before.published.length

/-- The payloads a call broadcast. -/
def MessageService.broadcastsSince (before after : MessageService) : List Bytes :=
  after.broadcasts.drop before.broadcasts.length

/-- The peers a request can be made to. -/
def reachedPeers (surroundings : Surroundings) (discovery : DiscoveryService) : List Peer :=
  -- `active_peers` at the current time; a connection that cannot be made is skipped.
  (discovery.registry.activePeers surroundings.peerOrder (currentTimeMs discovery.clock)).filter
    fun peer => surroundings.reached peer.address peer.httpPort

/-- `ReplicationService::broadcast`. -/
def broadcast (surroundings : Surroundings) (discovery : DiscoveryService) (payload : Bytes) :
    List OutgoingRequest :=
  (reachedPeers surroundings discovery).map fun peer =>
    ⟨peer.address, peer.httpPort, .replicate, payload⟩

/-- What `create_local` takes for the current time. -/
def Application.now (app : Application) : Int64 := Int64.ofInt (currentTimeMs app.discovery.clock)

/-- An event that only replies. -/
def Application.reply (app : Application) (reply : HttpReply) : Application × Effects :=
  (app, { reply := some reply })

/-- The application after a call of the message service, with the subscribers and peers told. -/
def Application.afterCall (app : Application) (surroundings : Surroundings)
    (answer : HttpResponse × MessageService) : Application × Effects :=
  ({ app with
      service := answer.2
      events := (app.service.publishedSince answer.2).foldl
        (fun stream text => stream.publish (ascii "message") text) app.events },
    { reply := some (sendJson answer.1)
      requests := (app.service.broadcastsSince answer.2).flatMap
        (broadcast surroundings app.discovery) })

section Handling

variable (library : JsonC)

/-- `get_status`. -/
def Application.getStatus (app : Application) : HttpResponse :=
  okResponse (serializeJson library
    (statusJson app.service.identity app.bindAddress app.port app.discovery.clock.offsetMs))

/-- `get_peers`. -/
def Application.getPeers (surroundings : Surroundings) (app : Application) : HttpResponse :=
  okResponse (serializeJson library (peersJson
    (app.discovery.registry.activePeers surroundings.peerOrder
      (currentTimeMs app.discovery.clock))))

/-- `sync_summary`, when the marks may be unreadable. -/
def Application.syncSummary (surroundings : Surroundings) (request : HttpRequest)
    (app : Application) : HttpResponse :=
  let response := LesChat.syncSummary library surroundings.originOrder request app.service
  -- The marks are read after the request passed its checks.
  if response.status = 200 ∧ surroundings.summaryRead = false then internalError else response

/-- What a handler does with a request. -/
def Application.handle (surroundings : Surroundings) (connection : Nat) (request : HttpRequest)
    (app : Application) : Handler → Application × Effects
  | .serveIndex =>
    app.reply (sendWebAsset surroundings.asset "index.html" "text/html; charset=utf-8")
  | .serveStylesheet =>
    app.reply (sendWebAsset surroundings.asset "style.css" "text/css; charset=utf-8")
  | .serveScript =>
    app.reply (sendWebAsset surroundings.asset "app.js" "text/javascript; charset=utf-8")
  | .getHealthz => app.reply (sendJson getHealthz)
  | .getStatus => app.reply (sendJson (app.getStatus library))
  | .getMessages => app.reply (sendJson (getMessages library app.service.store.messages))
  | .createMessage => app.afterCall surroundings
      (createMessage library app.now (surroundings.results 0) request app.service)
  | .getPeers => app.reply (sendJson (app.getPeers library surroundings))
  | .replicateMessage => app.afterCall surroundings
      (replicateMessage library surroundings.lookup (surroundings.results 0) request app.service)
  | .syncSummary => app.reply (sendJson (app.syncSummary library surroundings request))
  | .syncMessages => app.afterCall surroundings
      (syncMessages library surroundings.results request app.service)
  -- The reply stays open, and everything written to it goes through the stream.
  | .openEventStream => ({ app with events := app.events.subscribe connection }, {})

/-- `process_request`. -/
def Application.processRequest (uriPath : UriPath) (surroundings : Surroundings)
    (request : ServerRequest) (app : Application) : Application × Effects :=
  match routeRequest uriPath request with
  | .error response => app.reply (sendJson response)
  | .ok handler => app.handle library surroundings request.connection request.request handler

/-- `SyncService::synchronize`: the summary goes to every active peer. -/
def Application.synchronize (surroundings : Surroundings) (app : Application) :
    Application × Effects :=
  -- A summary that cannot be read is an exception, which the timer reports.
  if surroundings.summaryRead = false then (app, {})
  else
    let peers := reachedPeers surroundings app.discovery
    let payload := LesChat.synchronize library surroundings.originOrder app.service.store.database
    ({ app with contexts := app.contexts ++
        peers.map fun peer => ⟨peer.address, peer.httpPort⟩ },
      { requests := peers.map fun peer =>
          ⟨peer.address, peer.httpPort, .syncSummary, payload⟩ })

/-- `summary_response_callback`: what is posted to the peer that was asked. -/
def Application.summaryAnswered (surroundings : Surroundings) (context : RequestContext)
    (response : Option HttpResponse) (app : Application) : List OutgoingRequest :=
  -- A request that failed has no response.
  match response.map (handleSummaryResponse library app.service.store.messages) with
  | some (.ok (some batch)) =>
    if surroundings.reached context.address context.port then
      [⟨context.address, context.port, .syncMessages, batch⟩]
    else []
  | _ => []

/-- What one event does, and what it sends. -/
def Application.react (uriPath : UriPath) (surroundings : Surroundings) (app : Application) :
    ApplicationEvent → Application × Effects
  | .request request => app.processRequest library uriPath surroundings request
  | .close connection => ({ app with events := app.events.handleClose connection }, {})
  | .receive datagram =>
    ({ app with discovery :=
        receiveDatagram library surroundings.settable datagram app.discovery }, {})
  | .announce =>
    (app, { datagrams :=
      if surroundings.announced then [sendAnnounce library app.port app.discovery] else [] })
  | .synchronize => app.synchronize library surroundings
  | .answer index response =>
    match app.contexts[index]? with
    -- The context is freed when the callback returns, so it is used once.
    | some context =>
      ({ app with contexts := app.contexts.eraseIdx index },
        { requests := app.summaryAnswered library surroundings context response })
    | none => (app, {})
  | .elapse elapsedMs =>
    ({ app with discovery := { app.discovery with
        clock := app.discovery.clock.elapse elapsedMs } }, {})

/-- The application after one event. -/
def Application.step (uriPath : UriPath) (app : Application) (occurrence : Occurrence) :
    Application :=
  (app.react library uriPath occurrence.surroundings occurrence.event).1

/-- The requests one event makes. -/
def Application.requests (uriPath : UriPath) (app : Application) (occurrence : Occurrence) :
    List OutgoingRequest :=
  (app.react library uriPath occurrence.surroundings occurrence.event).2.requests

/-- The discovery service of a new process: nobody was heard yet, and there is no offset. -/
def startDiscovery (settings : Settings) (clock : Clock) : DiscoveryService :=
  ⟨settings.identity, settings.timeSyncMode, settings.timeAuthorityId, PeerRegistry.empty,
    setTimeOffsetMs 0 clock⟩

/-- The application over a service that opened. -/
def Settings.application (settings : Settings) (clock : Clock) (service : MessageService) :
    Application :=
  ⟨settings.bindAddress, settings.port, service, startDiscovery settings clock, EventStream.empty,
    []⟩

/-- The constructor of `Application`, with the announcement it makes. -/
def startApplication (settings : Settings) (surroundings : Surroundings) (listening : Bool)
    (reload : Option Nat) (clock : Clock) (database : Database) :
    Option Application × List Bytes :=
  match openStore reload database with
  -- Without its store the process ends before it announces anything.
  | .error _ => (none, [])
  | .ok _ =>
    let datagrams := if surroundings.announced then
      [sendAnnounce library settings.port (startDiscovery settings clock)] else []
    match openService settings.identity reload surroundings.lookup database with
    | .error _ => (none, datagrams)
    | .ok service =>
      -- Listening comes last, and a port in use ends the process too.
      if listening then (some (settings.application clock service), datagrams)
      else (none, datagrams)

end Handling

end LesChat
