import LesChat.Discovery.Announce
import LesChat.Http.HttpApi

/-! The routes of the HTTP interface, its replies, and the handlers that only read. -/

namespace LesChat

open Foundation

/-- `evhttp_cmd_type`. -/
inductive HttpMethod where
  /-- GET. -/
  | get
  /-- POST. -/
  | post
  /-- HEAD. -/
  | head
  /-- PUT. -/
  | put
  /-- DELETE. -/
  | delete
  /-- OPTIONS. -/
  | options
  /-- TRACE. -/
  | trace
  /-- CONNECT. -/
  | connect
  /-- PATCH. -/
  | patch
deriving DecidableEq

/-- A request as the server receives it. -/
structure ServerRequest where
  /-- The connection it came in on. -/
  connection : Nat
  /-- Its method. -/
  method : HttpMethod
  /-- Its URI, when there is one. -/
  uri : Option Bytes
  /-- What a handler reads of it. -/
  request : HttpRequest

/--
How the server library takes URIs apart.

A URI that does not parse has no entry, and one that does may be without a path.
-/
abbrev UriPath := Bytes → Option (Option Bytes)

/-- `request_path`: empty when there is no URI or it does not parse. -/
def requestPath (uriPath : UriPath) (request : ServerRequest) : Bytes :=
  match request.uri.bind uriPath with
  | none => []
  -- A URI without a path is one of the root.
  | some path => path.getD (ascii "/")

/-- A reply with its headers. -/
structure HttpReply where
  /-- The status code. -/
  status : Nat
  /-- The reason phrase. -/
  reason : String
  /-- The headers added to it. -/
  headers : List (String × String)
  /-- The body sent. -/
  body : Bytes
deriving DecidableEq

/-- The type of a page. -/
def htmlContentType : String := "text/html; charset=utf-8"

/-- The policy every page is sent with. -/
def contentSecurityPolicy : String :=
  "default-src 'self'; script-src 'self'; style-src 'self'; connect-src 'self'; " ++
    "img-src 'self'; object-src 'none'; base-uri 'none'"

/-- `send_response`. -/
def sendResponse (status : Nat) (reason contentType : String) (body : Bytes) : HttpReply where
  status := status
  reason := reason
  headers :=
    [("Content-Type", contentType), ("Cache-Control", "no-store"),
      ("X-Content-Type-Options", "nosniff")] ++
    if contentType = htmlContentType then [("Content-Security-Policy", contentSecurityPolicy)]
    else []
  body := body

/-- `send_json`. -/
def sendJson (response : HttpResponse) : HttpReply :=
  sendResponse response.status response.reason "application/json; charset=utf-8" response.body

/-- `send_web_asset`: a file that cannot be read is an exception, which `handle_request` answers. -/
def sendWebAsset (asset : String → Option Bytes) (filename contentType : String) : HttpReply :=
  match asset filename with
  | some contents => sendResponse 200 "OK" contentType contents
  | none => sendJson internalError

/-- The handlers of `HttpApi`. -/
inductive Handler where
  /-- `serve_index`. -/
  | serveIndex
  /-- `serve_stylesheet`. -/
  | serveStylesheet
  /-- `serve_script`. -/
  | serveScript
  /-- `get_healthz`. -/
  | getHealthz
  /-- `get_status`. -/
  | getStatus
  /-- `get_messages`. -/
  | getMessages
  /-- `create_message`. -/
  | createMessage
  /-- `get_peers`. -/
  | getPeers
  /-- `replicate_message`. -/
  | replicateMessage
  /-- `sync_summary`. -/
  | syncSummary
  /-- `sync_messages`. -/
  | syncMessages
  /-- `open_event_stream`. -/
  | openEventStream
deriving DecidableEq

/-- A method and a path, and the handler of such requests. -/
structure Route where
  /-- The method. -/
  method : HttpMethod
  /-- The path. -/
  path : Bytes
  /-- The handler. -/
  handler : Handler
deriving DecidableEq

/-- The table `routes` of `process_request`. -/
def routes : List Route := [
  ⟨.get, ascii "/", .serveIndex⟩,
  ⟨.get, ascii "/style.css", .serveStylesheet⟩,
  ⟨.get, ascii "/app.js", .serveScript⟩,
  ⟨.get, ascii "/healthz", .getHealthz⟩,
  ⟨.get, ascii "/api/v1/status", .getStatus⟩,
  ⟨.get, ascii "/api/v1/messages", .getMessages⟩,
  ⟨.post, ascii "/api/v1/messages", .createMessage⟩,
  ⟨.get, ascii "/api/v1/peers", .getPeers⟩,
  ⟨.post, ascii "/api/v1/replicate", .replicateMessage⟩,
  ⟨.post, ascii "/api/v1/sync/summary", .syncSummary⟩,
  ⟨.post, ascii "/api/v1/sync/messages", .syncMessages⟩,
  ⟨.get, ascii "/api/v1/events", .openEventStream⟩]

/-- The answer to a request whose path is empty. -/
def invalidUri : HttpResponse := badRequest (errorBody "invalid_uri")

/-- The answer to a path that is served under another method only. -/
def methodNotAllowed : HttpResponse :=
  ⟨405, "Method Not Allowed", ascii (errorBody "method_not_allowed")⟩

/-- The answer to a path that is not served. -/
def notFound : HttpResponse := ⟨404, "Not Found", ascii (errorBody "not_found")⟩

/-- The loop of `process_request` over the routes, and what it answers when it finds none. -/
def findRoute (method : HttpMethod) (path : Bytes) :
    List Route → (pathExists : Bool) → Except HttpResponse Handler
  | [], true => .error methodNotAllowed
  | [], false => .error notFound
  | route :: rest, pathExists =>
    if route.path ≠ path then findRoute method path rest pathExists
    else if route.method = method then .ok route.handler
    -- The path is served, but maybe only under other methods.
    else findRoute method path rest true

/-- The handler `process_request` calls, or what it answers instead. -/
def routeRequest (uriPath : UriPath) (request : ServerRequest) : Except HttpResponse Handler :=
  let path := requestPath uriPath request
  if path = [] then .error invalidUri else findRoute request.method path routes false

/-- `get_healthz`. -/
def getHealthz : HttpResponse :=
  okResponse (ascii "\x7b\"status\":\"ok\",\"service\":\"les-chatd\",\"version\":\"" ++
    appVersion ++ ascii "\"\x7d")

/-- `make_status_json`, before it is serialized. -/
def statusJson (identity : NodeIdentity) (bindAddress : Bytes) (port : Nat) (offsetMs : Int) :
    Json :=
  jsonObject [
    (ascii "status", .string (ascii "ok")),
    (ascii "service", .string (ascii "les-chatd")),
    (ascii "version", .string appVersion),
    (ascii "node_id", .string (cString identity.nodeId)),
    (ascii "callsign", .string (cString identity.callsign)),
    (ascii "bind_address", .string (cString bindAddress)),
    (ascii "port", .int port),
    (ascii "time_offset_ms", .int offsetMs)]

/-- One item of the list `get_peers` sends. -/
def peerJson (peer : Peer) : Json :=
  jsonObject [
    (ascii "node_id", .string (cString peer.nodeId)),
    (ascii "callsign", .string (cString peer.callsign)),
    (ascii "address", .string (cString peer.address)),
    (ascii "http_port", .int peer.httpPort),
    (ascii "app_version", .string (cString peer.appVersion)),
    (ascii "last_seen_ms", .int peer.lastSeenMs)]

/-- The document `get_peers` sends. -/
def peersJson (peers : List Peer) : Json :=
  jsonObject [
    (ascii "peers", .array (peers.map peerJson)),
    (ascii "count", .int peers.length)]

section Routing

variable {method : HttpMethod} {path : Bytes}

/-- The first route of a path and a method is taken, wherever it stands. -/
theorem findRoute_eq_ok {table : List Route} {pathExists : Bool} {handler : Handler}
    (found : findRoute method path table pathExists = .ok handler) :
    ⟨method, path, handler⟩ ∈ table := by
  -- The induction follows the table up to the route that is taken.
  induction table generalizing pathExists with
  | nil => cases pathExists <;> simp [findRoute] at found
  | cons route rest ih =>
    rw [findRoute] at found
    split at found
    · exact List.mem_cons_of_mem _ (ih found)
    · rename_i samePath
      rw [ne_eq, not_not] at samePath
      split at found
      · rename_i sameMethod
        rw [Except.ok.injEq] at found
        subst samePath sameMethod found
        exact List.mem_cons_self
      · exact List.mem_cons_of_mem _ (ih found)

/-- A path and a method that are in the table lead to some handler. -/
theorem findRoute_of_mem {table : List Route} (pathExists : Bool) {handler : Handler}
    (member : ⟨method, path, handler⟩ ∈ table) :
    ∃ first, findRoute method path table pathExists = .ok first := by
  -- The induction follows the table, where an earlier route may match as well.
  induction table generalizing pathExists with
  | nil => simp at member
  | cons route rest ih =>
    rw [findRoute]
    rcases List.mem_cons.mp member with same | later
    · rw [← same]
      exact ⟨handler, by simp⟩
    · split
      · exact ih pathExists later
      · split
        · exact ⟨_, rfl⟩
        · exact ih true later

/-- A search that fails says whether the path is served at all. -/
theorem findRoute_eq_error {table : List Route} {pathExists : Bool} {response : HttpResponse}
    (failed : findRoute method path table pathExists = .error response) :
    response = if pathExists ∨ path ∈ table.map Route.path then methodNotAllowed
      else notFound := by
  -- The flag remembers whether a route of the path was passed over.
  induction table generalizing pathExists with
  | nil =>
    cases pathExists
    · simpa [findRoute] using failed.symm
    · simpa [findRoute] using failed.symm
  | cons route rest ih =>
    rw [findRoute] at failed
    split at failed
    · rename_i otherPath
      rw [ih failed]
      simp [Ne.symm otherPath]
    · rename_i samePath
      rw [ne_eq, not_not] at samePath
      split at failed
      · simp at failed
      · rw [ih failed]
        simp [samePath]

/-- No two routes have the same method and path. -/
theorem routes_distinct : (routes.map fun route => (route.method, route.path)).Nodup := by
  -- The table is fixed, so its pairs can be compared.
  decide +kernel

/--
The table decides every request.

A request with a path is handled by the one route of its method and path. Without such a route it is
answered with 405 when the path is in the table, and with 404 when it is not.
-/
theorem findRoute_routes (method : HttpMethod) (path : Bytes) :
    (∀ handler, findRoute method path routes false = .ok handler ↔
      ⟨method, path, handler⟩ ∈ routes) ∧
    (findRoute method path routes false = .error methodNotAllowed ↔
      path ∈ routes.map Route.path ∧ ∀ handler, ⟨method, path, handler⟩ ∉ routes) ∧
    (findRoute method path routes false = .error notFound ↔ path ∉ routes.map Route.path) := by
  have different : methodNotAllowed ≠ notFound := by decide
  have listed : ∀ handler, (⟨method, path, handler⟩ : Route) ∈ routes →
      path ∈ routes.map Route.path := fun handler member => List.mem_map_of_mem member
  cases outcome : findRoute method path routes false with
  | ok first =>
    have member := findRoute_eq_ok outcome
    refine ⟨?_, ?_, ?_⟩
    · intro handler
      rw [Except.ok.injEq]
      constructor
      · intro same
        rwa [← same]
      · intro other
        -- Two routes of the same method and path are the same route.
        have same := List.inj_on_of_nodup_map routes_distinct member other rfl
        exact (Route.mk.inj same).2.2
    · simp only [reduceCtorEq, false_iff, not_and, not_forall, not_not]
      exact fun _ => ⟨first, member⟩
    · simp only [reduceCtorEq, false_iff, not_not]
      exact listed first member
  | error response =>
    have absent : ∀ handler, (⟨method, path, handler⟩ : Route) ∉ routes := by
      intro handler member
      obtain ⟨first, found⟩ := findRoute_of_mem false member
      rw [found] at outcome
      simp at outcome
    have said := findRoute_eq_error outcome
    simp only [Bool.false_eq_true, false_or] at said
    refine ⟨fun handler => by simp [absent handler], ?_, ?_⟩
    · rw [Except.error.injEq, said]
      by_cases served : path ∈ routes.map Route.path
      · rw [if_pos served]
        exact iff_of_true rfl ⟨served, absent⟩
      · rw [if_neg served]
        exact iff_of_false different.symm fun both => served both.1
    · rw [Except.error.injEq, said]
      by_cases served : path ∈ routes.map Route.path
      · rw [if_pos served]
        exact iff_of_false different fun missing => missing served
      · rw [if_neg served]
        exact iff_of_true rfl served

end Routing

end LesChat
