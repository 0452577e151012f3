import LesChat.Application.Application
import LesChat.Foundation.Run
import LesChat.Http.HttpApiLaws

/-! What each event can do to an application, and the calls of the message service behind it. -/

namespace LesChat

open Foundation

namespace ServiceCall

variable (library : JsonC)

/-- The messages that calls made one after the other publish. -/
def published : MessageService → List ServiceCall → List ChatMessage
  | _, [] => []
  | service, call :: rest =>
    (call.event library service).toList ++ published (call.after library service) rest

/-- Calls publish the texts of their messages. -/
theorem published_run (service : MessageService) (calls : List ServiceCall) :
    (run (after library) service calls).published = service.published ++
      (published library service calls).map (messageData library) := by
  -- The induction follows the calls.
  induction calls generalizing service with
  | nil => simp [published]
  | cons call rest ih =>
    rw [run_cons, ih, published_after, published, List.map_append, List.append_assoc]
    rfl

/-- A call commits its event, or nothing. -/
theorem committed_after (service : MessageService) (call : ServiceCall) :
    ∃ stored, stored.Sublist (call.event library service).toList ∧
      (call.after library service).store.database.committed =
        service.store.database.committed ++ stored := by
  -- Each call ends in an `add` of its message, which commits it when it returns true.
  have added : ∀ (results : AddResults) (message : ChatMessage) (event : Option ChatMessage),
      ((add results message service.store).1 = .ok true → event = some message) →
      ∃ stored, stored.Sublist event.toList ∧
        (add results message service.store).2.database.committed =
          service.store.database.committed ++ stored := by
    intro results message event published
    have committed := (add_added results message service.store).committed_eq
    by_cases inserted : (add results message service.store).1 = .ok true
    · rw [if_pos inserted] at committed
      exact ⟨[message], by rw [published inserted]; exact List.Sublist.refl _, committed⟩
    · rw [if_neg inserted] at committed
      exact ⟨[], List.nil_sublist _, committed⟩
  cases call with
  | createLocal now results body =>
    rw [after, createLocal_store]
    apply added results (service.nextMessage now body)
    intro inserted
    rw [event, createLocal_result, inserted]
    rfl
  | ingestReplica lookup results message =>
    cases known : contains lookup message.messageId service.store with
    | true =>
      refine ⟨[], List.nil_sublist _, ?_⟩
      rw [after, ingestReplica_of_hit library known, List.append_nil]
    | false =>
      rw [after, ingestReplica_store, known, if_neg Bool.false_ne_true]
      apply added results message
      intro inserted
      have answer := ingestReplica_of_miss library known results
      rw [if_neg (by simp [inserted])] at answer
      rw [event, answer, ingestSync_result, inserted]
      rfl
  | ingestSync results message =>
    rw [after, ingestSync_store]
    apply added results message
    intro inserted
    rw [event, ingestSync_result, inserted]
    rfl

/-- Whatever calls commit is among what they publish, in the same order. -/
theorem committed_run (service : MessageService) (calls : List ServiceCall) :
    ∃ stored, stored.Sublist (published library service calls) ∧
      (run (after library) service calls).store.database.committed =
        service.store.database.committed ++ stored := by
  -- The induction follows the calls, each of which commits at most its own event.
  induction calls generalizing service with
  | nil => exact ⟨[], List.nil_sublist _, by simp⟩
  | cons call rest ih =>
    obtain ⟨first, firstListed, firstCommitted⟩ := committed_after library service call
    obtain ⟨later, laterListed, laterCommitted⟩ := ih (call.after library service)
    refine ⟨first ++ later, firstListed.append laterListed, ?_⟩
    rw [run_cons, laterCommitted, firstCommitted, List.append_assoc]

end ServiceCall

section Handlers

variable (library : JsonC)

/-- A `create_message` request makes one local call, or none. -/
theorem createMessage_cases (now : Int64) (results : AddResults) (request : HttpRequest)
    (service : MessageService) :
    (createMessage library now results request service).2 = service ∨
      ∃ parsed body, readJsonObject library request maxRequestBytes false
          (errorBody "invalid_json") = .ok parsed ∧ messageBody parsed = .ok body ∧
        (createMessage library now results request service).2 =
          (createLocal library now results body service).2 := by
  -- A request that is refused at either check leaves the service alone.
  unfold createMessage
  split
  · exact .inl rfl
  · rename_i parsed reading
    cases decoded : messageBody parsed with
    | error response => exact .inl rfl
    | ok body =>
      refine .inr ⟨parsed, body, reading, decoded, ?_⟩
      -- The reply depends on the outcome, and the service only on the call.
      cases call : createLocal library now results body service with
      | mk outcome after => cases outcome <;> simp only [call]

/-- A `replicate_message` request ingests the message it carries, or nothing. -/
theorem replicateMessage_cases (lookup : SqliteResult) (results : AddResults)
    (request : HttpRequest) (service : MessageService) :
    (replicateMessage library lookup results request service).2 = service ∨
      ∃ message ∈ replicatedMessages library request,
        (replicateMessage library lookup results request service).2 =
          (ingestReplica library lookup results message service).2 :=
  -- Either way out of the handler keeps to one of the two.
  replicateMessage_keeps library
    (fun after => after = service ∨ ∃ message ∈ replicatedMessages library request,
      after = (ingestReplica library lookup results message service).2)
    (fun message carried => .inr ⟨message, carried, rfl⟩) (.inl rfl)

/-- A `sync_messages` request ingests messages it carries, one after the other. -/
theorem syncMessages_cases (results : Nat → AddResults) (request : HttpRequest)
    (service : MessageService) :
    ∃ calls, (∀ call ∈ calls, ∃ index, ∃ message ∈ synchronizedMessages library request,
        call = .ingestSync (results index) message) ∧
      (syncMessages library results request service).2 =
        run (ServiceCall.after library) service calls := by
  -- Each turn of the loop is one more call at the end.
  refine syncMessages_keeps library (fun after => ∃ calls,
    (∀ call ∈ calls, ∃ index, ∃ message ∈ synchronizedMessages library request,
      call = .ingestSync (results index) message) ∧
    after = run (ServiceCall.after library) service calls) ?_ ⟨[], by simp, rfl⟩
  intro message carried index before reached
  obtain ⟨calls, each, same⟩ := reached
  refine ⟨calls ++ [.ingestSync (results index) message], ?_, ?_⟩
  · intro call member
    rcases List.mem_append.mp member with old | new
    · exact each call old
    · exact ⟨index, message, carried, List.mem_singleton.mp new⟩
  · rw [run_append, ← same]
    rfl

end Handlers

/-- What an event is to the discovery service. -/
def ApplicationEvent.discovery (settable : Bool) : ApplicationEvent → List DiscoveryAction
  | .receive datagram => [.receive datagram settable]
  | .elapse elapsedMs => [.elapse elapsedMs]
  | _ => []

section Steps

variable (library : JsonC) (uriPath : UriPath) (surroundings : Surroundings) (app : Application)

/-- Everything one event can do. -/
inductive Application.Stepped : ApplicationEvent → Application × Effects → Prop where
  /-- Nothing changes and no request is made. -/
  | idle (event : ApplicationEvent) (reply : Option HttpReply) (datagrams : List Bytes)
    (unheard : event.discovery surroundings.settable = []) :
    Stepped event (app, ⟨reply, [], datagrams⟩)
  /-- A request stays open for events. -/
  | subscribed (request : ServerRequest)
    (routed : routeRequest uriPath request = .ok .openEventStream) :
    Stepped (.request request)
      ({ app with events := app.events.subscribe request.connection }, {})
  /-- A request to create a message. -/
  | created (request : ServerRequest) (routed : routeRequest uriPath request = .ok .createMessage) :
    Stepped (.request request) (app.afterCall surroundings
      (createMessage library app.now (surroundings.results 0) request.request app.service))
  /-- A replicated message. -/
  | replicated (request : ServerRequest)
    (routed : routeRequest uriPath request = .ok .replicateMessage) :
    Stepped (.request request) (app.afterCall surroundings
      (replicateMessage library surroundings.lookup (surroundings.results 0) request.request
        app.service))
  /-- A batch. -/
  | synchronized (request : ServerRequest)
    (routed : routeRequest uriPath request = .ok .syncMessages) :
    Stepped (.request request) (app.afterCall surroundings
      (syncMessages library surroundings.results request.request app.service))
  /-- A subscriber leaves. -/
  | closed (connection : Nat) :
    Stepped (.close connection) ({ app with events := app.events.handleClose connection }, {})
  /-- A datagram is looked at. -/
  | heard (datagram : Datagram) :
    Stepped (.receive datagram)
      ({ app with discovery :=
          receiveDatagram library surroundings.settable datagram app.discovery }, {})
  /-- The summary is sent to the peers. -/
  | summarized (read : surroundings.summaryRead = true) :
    Stepped .synchronize (app.synchronize library surroundings)
  /-- A summary is answered. -/
  | answered (index : Nat) (response : Option HttpResponse) (context : RequestContext)
    (listed : app.contexts[index]? = some context) :
    Stepped (.answer index response)
      ({ app with contexts := app.contexts.eraseIdx index },
        { requests := app.summaryAnswered library surroundings context response })
  /-- Time passes. -/
  | elapsed (elapsedMs : Nat) :
    Stepped (.elapse elapsedMs)
      ({ app with discovery := { app.discovery with
          clock := app.discovery.clock.elapse elapsedMs } }, {})

/-- Every event does one of the listed things. -/
theorem Application.react_stepped (event : ApplicationEvent) :
    app.Stepped library uriPath surroundings event
      (app.react library uriPath surroundings event) := by
  cases event with
  | request request =>
    simp only [Application.react, Application.processRequest]
    cases routed : routeRequest uriPath request with
    | error response => exact .idle _ _ _ rfl
    | ok handler =>
      -- Four handlers change the application, and the others only reply.
      cases handler with
      | createMessage => exact .created request routed
      | replicateMessage => exact .replicated request routed
      | syncMessages => exact .synchronized request routed
      | openEventStream => exact .subscribed request routed
      | _ => exact .idle _ _ _ rfl
  | close connection => exact .closed connection
  | receive datagram => exact .heard datagram
  | announce => exact .idle _ _ _ rfl
  | synchronize =>
    cases read : surroundings.summaryRead with
    | true => exact .summarized read
    | false =>
      simp only [Application.react, Application.synchronize, read, if_true]
      exact .idle _ _ _ rfl
  | answer index response =>
    simp only [Application.react]
    split
    · rename_i context listed
      exact .answered index response context listed
    · exact .idle _ _ _ rfl
  | elapse elapsedMs => exact .elapsed elapsedMs

variable {library uriPath surroundings app}

/-- An event reaches the discovery service as a datagram, as time passing, or not at all. -/
theorem Application.Stepped.discovery {event : ApplicationEvent} {after : Application × Effects}
    (stepped : app.Stepped library uriPath surroundings event after) :
    after.1.discovery =
      run (discoveryStep library) app.discovery (event.discovery surroundings.settable) := by
  -- Only datagrams and the passing time reach the discovery.
  cases stepped with
  | idle event reply datagrams unheard => rw [unheard, run_nil]
  | summarized read =>
    simp only [Application.synchronize, read, Bool.true_eq_false, if_false]
    rfl
  | _ => rfl

/-- The calls of the message service behind one event. -/
theorem Application.Stepped.calls {event : ApplicationEvent} {after : Application × Effects}
    (stepped : app.Stepped library uriPath surroundings event after) :
    ∃ calls, after.1.service = run (ServiceCall.after library) app.service calls := by
  -- One call for a created or a replicated message, one for each item of a batch.
  cases stepped with
  | created request routed =>
    rcases createMessage_cases library app.now (surroundings.results 0) request.request app.service
      with same | ⟨parsed, body, _, _, called⟩
    · exact ⟨[], same⟩
    · exact ⟨[.createLocal app.now (surroundings.results 0) body], called⟩
  | replicated request routed =>
    rcases replicateMessage_cases library surroundings.lookup (surroundings.results 0)
      request.request app.service with same | ⟨message, _, called⟩
    · exact ⟨[], same⟩
    · exact ⟨[.ingestReplica surroundings.lookup (surroundings.results 0) message], called⟩
  | synchronized request routed =>
    obtain ⟨calls, _, called⟩ := syncMessages_cases library surroundings.results request.request
      app.service
    exact ⟨calls, called⟩
  | summarized read =>
    refine ⟨[], ?_⟩
    simp only [Application.synchronize, read, Bool.true_eq_false, if_false, run_nil]
  | _ => exact ⟨[], rfl⟩

end Steps

end LesChat
