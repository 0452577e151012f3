import LesChat.Application.Steps
import LesChat.Foundation.Simulation

/-! Requests that only read, and requests that are refused: neither changes what the others see. -/

namespace LesChat

open Foundation

section Reading

/-- The handlers that can change more than the list of subscribers. -/
def Handler.writes : Handler → Bool
  | .createMessage | .replicateMessage | .syncMessages => true
  | _ => false

/-- An event that only reads: a request without such a handler, or a subscriber that leaves. -/
def Occurrence.reads (uriPath : UriPath) (occurrence : Occurrence) : Bool :=
  match occurrence.event with
  | .request request =>
    match routeRequest uriPath request with
    | .ok handler => !handler.writes
    | .error _ => true
  | .close _ => true
  | _ => false

/-- An application without its subscribers. -/
def Application.unsubscribed (app : Application) : Application :=
  { app with events := EventStream.empty }

variable (library : JsonC) (uriPath : UriPath)

/-- Everything one event sends. -/
def Application.effects (app : Application) (occurrence : Occurrence) : Effects :=
  (app.react library uriPath occurrence.surroundings occurrence.event).2

/-- Neither what an event does to the rest nor what it sends depends on the subscribers. -/
theorem Application.react_subscribers (app : Application) (events : EventStream)
    (surroundings : Surroundings) (event : ApplicationEvent) :
    (({ app with events } : Application).react library uriPath surroundings
        event).1.unsubscribed =
      (app.react library uriPath surroundings event).1.unsubscribed ∧
    (({ app with events } : Application).react library uriPath surroundings event).2 =
      (app.react library uriPath surroundings event).2 := by
  -- No handler reads the list of subscribers, so every branch is the same with another one.
  cases event with
  | request request =>
    simp only [Application.react, Application.processRequest]
    cases routeRequest uriPath request with
    | error response => exact ⟨rfl, rfl⟩
    | ok handler => cases handler <;> exact ⟨rfl, rfl⟩
  | synchronize =>
    simp only [Application.react, Application.synchronize]
    split <;> exact ⟨rfl, rfl⟩
  | answer index response =>
    simp only [Application.react]
    split <;> exact ⟨rfl, rfl⟩
  | _ => exact ⟨rfl, rfl⟩

/-- A request that only reads changes nothing but the subscribers. -/
theorem Application.step_reads (app : Application) {occurrence : Occurrence}
    (reads : occurrence.reads uriPath = true) :
    (app.step library uriPath occurrence).unsubscribed = app.unsubscribed := by
  -- Only requests and the end of a stream count as readers.
  obtain ⟨event, surroundings⟩ := occurrence
  cases event with
  | request request =>
    simp only [Occurrence.reads] at reads
    simp only [Application.step, Application.react, Application.processRequest]
    cases routed : routeRequest uriPath request with
    | error response => rfl
    | ok handler =>
      rw [routed] at reads
      -- A handler that writes does not read, and every other leaves the state.
      cases handler <;> first | rfl | simp [Handler.writes] at reads
  | close connection => rfl
  | _ => simp [Occurrence.reads] at reads

/-- Events that only read are hidden from the rest of an application. -/
theorem application_purges :
    Purges (Application.step library uriPath) (Application.effects library uriPath)
      Application.unsubscribed (Occurrence.reads uriPath) where
  untouched := fun app _ reads => app.step_reads library uriPath reads
  alike := by
    intro left right occurrence same
    -- The one is the other with other subscribers.
    have swapped : left = { right with events := left.events } := by
      obtain ⟨bindAddress, port, service, discovery, events, contexts⟩ := left
      simp only [Application.unsubscribed, Application.mk.injEq] at same
      obtain ⟨rfl, rfl, rfl, rfl, _, rfl⟩ := same
      rfl
    rw [swapped]
    exact right.react_subscribers library uriPath left.events occurrence.surroundings
      occurrence.event

/--
Readers leave no trace.

Leave out of any run all requests that only read (pages, status, lists, peers, summaries, unknown
paths) and everything subscribers do: the store, the peers, the clocks and the requests waited for
end up the same, and every other event is answered the same and makes the same requests.
-/
theorem readers_invisible (start : Application) (occurrences : List Occurrence) :
    let others := occurrences.filter fun occurrence => !occurrence.reads uriPath
    (run (Application.step library uriPath) start occurrences).unsubscribed =
        (run (Application.step library uriPath) start others).unsubscribed ∧
      (trace (Application.step library uriPath) (Application.effects library uriPath) start
          occurrences).filter (fun entry => !entry.1.reads uriPath) =
        trace (Application.step library uriPath) (Application.effects library uriPath) start
          others :=
  -- One lemma about a step with and without a reader carries over to the run.
  (application_purges library uriPath).run_filter rfl occurrences

end Reading

section Refusing

variable {library : JsonC} {uriPath : UriPath}

/-- A reply that refuses a request, and not for one bad message of a batch. -/
def HttpReply.Refuses (reply : HttpReply) : Prop :=
  400 ≤ reply.status ∧ reply.status < 500 ∧
    reply.body ≠ ascii (errorBody "invalid_sync_message")

/-- Success is no refusal. -/
theorem okResponse_not_refuses (body : Bytes) : ¬(sendJson (okResponse body)).Refuses :=
  -- A success is below the refusals.
  fun refuses => absurd refuses.1 (show ¬400 ≤ 200 by omega)

/-- An internal error is no refusal. -/
theorem internalError_not_refuses : ¬(sendJson internalError).Refuses :=
  -- An internal error is above the refusals.
  fun refuses => absurd refuses.2.1 (show ¬500 < 500 by omega)

/-- A call that leaves the service as it is only replies. -/
theorem Application.afterCall_same (app : Application) (surroundings : Surroundings)
    {answer : HttpResponse × MessageService} (same : answer.2 = app.service) :
    app.afterCall surroundings answer = app.reply (sendJson answer.1) := by
  -- Nothing new was recorded, so there is nothing to publish and nothing to pass on.
  have published : app.service.publishedSince answer.2 = [] := by
    rw [same, MessageService.publishedSince, List.drop_length]
  have broadcasts : app.service.broadcastsSince answer.2 = [] := by
    rw [same, MessageService.broadcastsSince, List.drop_length]
  rw [Application.afterCall, published, broadcasts, same]
  rfl

/-- A message that is refused is not created. -/
theorem createMessage_refused {now : Int64} {results : AddResults} {request : HttpRequest}
    {service : MessageService}
    (refuses : (sendJson (createMessage library now results request service).1).Refuses) :
    (createMessage library now results request service).2 = service := by
  unfold createMessage at refuses ⊢
  cases reading : readJsonObject library request maxRequestBytes false
      (errorBody "invalid_json") with
  | error response => rfl
  | ok parsed =>
    cases decoded : messageBody parsed with
    | error response => simp only [decoded]
    | ok body =>
      -- A local call is answered with success or as an exception.
      simp only [reading, decoded] at refuses
      split at refuses
      · exact absurd refuses internalError_not_refuses
      · exact absurd refuses (okResponse_not_refuses _)

/-- A replicated message that is refused is not ingested. -/
theorem replicateMessage_refused {lookup : SqliteResult} {results : AddResults}
    {request : HttpRequest} {service : MessageService}
    (refuses : (sendJson
      (replicateMessage library lookup results request service).1).Refuses) :
    (replicateMessage library lookup results request service).2 = service := by
  unfold replicateMessage at refuses ⊢
  cases reading : readJsonObject library request maxRequestBytes true
      (errorBody "invalid_message") with
  | error response => rfl
  | ok parsed =>
    cases decoded : parseMessage parsed with
    | none => simp only [decoded]
    | some message =>
      -- Once it is called, the reply is a success or an internal error.
      simp only [reading, decoded] at refuses
      split at refuses
      · exact absurd refuses internalError_not_refuses
      · exact absurd refuses (okResponse_not_refuses _)
      · exact absurd refuses (okResponse_not_refuses _)

/-- The loop over a batch ends with success, an exception, or at a bad message. -/
theorem ingestItems_not_refuses (results : Nat → AddResults) (items : List Json)
    (index accepted : Nat) (service : MessageService) :
    ¬(sendJson (ingestItems library results items index accepted service).1).Refuses := by
  -- The induction follows the items up to the one that ends the loop.
  induction items generalizing index accepted service with
  | nil => exact okResponse_not_refuses _
  | cons item rest ih =>
    rw [ingestItems]
    split
    · exact fun refuses => refuses.2.2 rfl
    · split
      · exact internalError_not_refuses
      · exact ih _ _ _

/-- A batch that is refused as a whole is not ingested. -/
theorem syncMessages_unchanged {results : Nat → AddResults} {request : HttpRequest}
    {service : MessageService}
    (refuses : (sendJson (syncMessages library results request service).1).Refuses) :
    (syncMessages library results request service).2 = service := by
  unfold syncMessages at refuses ⊢
  cases reading : readJsonObject library request maxSyncRequestBytes true
      (errorBody "invalid_sync_messages") with
  | error response => rfl
  | ok parsed =>
    cases listed : batchItems parsed with
    | none => simp only [listed]
    | some items =>
      -- A list of items is never refused for its form.
      simp only [reading, listed] at refuses
      exact absurd refuses (ingestItems_not_refuses results items 0 0 service)

/--
A request that is refused changes nothing.

In any state, when the reply to a request has a status of 400 to 499 and does not complain about one
message of a batch, the application is as it was before, its subscribers included, and nothing is
sent but the reply.
-/
theorem refused_inert (library : JsonC) (uriPath : UriPath) (app : Application)
    (surroundings : Surroundings) (request : ServerRequest) {reply : HttpReply}
    (replied : (app.react library uriPath surroundings (.request request)).2.reply = some reply)
    (refuses : reply.Refuses) :
    app.react library uriPath surroundings (.request request) = app.reply reply := by
  -- A call that was refused left the service as it was.
  have called : ∀ answer : HttpResponse × MessageService,
      ((sendJson answer.1).Refuses → answer.2 = app.service) →
      (app.afterCall surroundings answer).2.reply = some reply →
      app.afterCall surroundings answer = app.reply reply := by
    intro answer unchanged same
    have sent : sendJson answer.1 = reply := Option.some.inj same
    rw [← sent] at refuses ⊢
    exact app.afterCall_same surroundings (unchanged refuses)
  have only : ∀ other : HttpReply, (app.reply other).2.reply = some reply →
      app.reply other = app.reply reply := by
    intro other same
    rw [Option.some.inj same]
  simp only [Application.react, Application.processRequest] at replied ⊢
  cases routed : routeRequest uriPath request with
  | error response =>
    rw [routed] at replied
    exact only _ replied
  | ok handler =>
    rw [routed] at replied
    cases handler with
    | createMessage => exact called _ createMessage_refused replied
    | replicateMessage => exact called _ replicateMessage_refused replied
    | syncMessages => exact called _ syncMessages_unchanged replied
    | openEventStream => simp [Application.handle] at replied
    | _ => exact only _ replied

/-- A message without a body is refused, and changes nothing. -/
theorem refused_inert_empty :
    let alice : Settings := ⟨⟨ascii "a", ascii "Alice"⟩, ascii "127.0.0.1", 7777, .off, []⟩
    let app := alice.application ⟨0, 1000, 0⟩ (MessageService.initial alice.identity)
    let request : ServerRequest := ⟨8, .post, some (ascii "/api/v1/messages"),
      jsonRequest (ascii "\x7b\"body\":\"\"\x7d")⟩
    let refusal := sendJson (badRequest (errorBody "message_empty"))
    app.react plainJsonC (fun uri => some (some uri)) {} (.request request) = app.reply refusal := by
  -- The body is empty, and the service refuses it.
  intro alice app request refusal
  have refuses : refusal.Refuses := ⟨by decide, by decide, by decide +kernel⟩
  have replied : (app.react plainJsonC (fun uri => some (some uri)) {}
      (.request request)).2.reply = some refusal := by decide +kernel
  exact refused_inert plainJsonC (fun uri => some (some uri)) app {} request replied refuses

end Refusing

end LesChat
