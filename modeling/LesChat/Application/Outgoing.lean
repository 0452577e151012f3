import LesChat.Application.Steps
import LesChat.Discovery.Silence
import Mathlib.Data.List.Perm.Basic

/-! Where the requests of a daemon go, what they carry, and what made it send them. -/

namespace LesChat

open Foundation

section Hearing

variable (library : JsonC)

end Hearing

section Requests

variable (library : JsonC) (uriPath : UriPath)

/-- The requests a run of events makes. -/
def requestsMade : Application → List Occurrence → List OutgoingRequest
  | _, [] => []
  | app, occurrence :: rest =>
    app.requests library uriPath occurrence ++
      requestsMade (app.step library uriPath occurrence) rest

/-- How many requests go to one path of a peer. -/
def countTo (endpoint : Endpoint) (context : RequestContext) (requests : List OutgoingRequest) :
    Nat :=
  requests.countP fun request => request.endpoint = endpoint ∧
    request.address = context.address ∧ request.port = context.port

end Requests

section Counting

variable {library : JsonC} {uriPath : UriPath}

/-- Requests of two lists are counted separately. -/
theorem countTo_append (endpoint : Endpoint) (context : RequestContext)
    (first second : List OutgoingRequest) : countTo endpoint context (first ++ second) =
      countTo endpoint context first + countTo endpoint context second := List.countP_append

/-- Requests that all go to another path are not counted. -/
theorem countTo_of_endpoint {endpoint : Endpoint} {requests : List OutgoingRequest}
    (other : ∀ request ∈ requests, request.endpoint ≠ endpoint) (context : RequestContext) :
    countTo endpoint context requests = 0 := by
  -- No request passes the test that is counted.
  rw [countTo, List.countP_eq_zero]
  intro request member
  simp [other request member]

/-- What is told to the peers after a call goes to their replication path. -/
theorem Application.afterCall_endpoint {app : Application} {surroundings : Surroundings}
    {answer : HttpResponse × MessageService} {request : OutgoingRequest}
    (member : request ∈ (app.afterCall surroundings answer).2.requests) :
    request.endpoint = .replicate := by
  -- After a call only broadcasts are requested.
  obtain ⟨payload, _, sent⟩ := List.mem_flatMap.mp member
  obtain ⟨peer, _, rfl⟩ := List.mem_map.mp sent
  rfl

/-- An answer is followed by the batch `send_missing` makes of it, or by nothing. -/
theorem Application.summaryAnswered_cases (library : JsonC) (app : Application)
    (surroundings : Surroundings) (context : RequestContext) (response : Option HttpResponse) :
    app.summaryAnswered library surroundings context response = [] ∨
      ∃ answer batch, response = some answer ∧ answer.status = 200 ∧
        sendMissing library app.service.store.messages answer.body = .ok (some batch) ∧
        app.summaryAnswered library surroundings context response =
          [⟨context.address, context.port, .syncMessages, batch⟩] := by
  unfold Application.summaryAnswered
  split
  · rename_i batch reaction
    obtain ⟨answer, rfl, handled⟩ := Option.map_eq_some_iff.mp reaction
    -- The answer passed the checks of its status and of its length.
    clear reaction
    unfold handleSummaryResponse at handled
    split at handled
    · simp at handled
    · rename_i success
      split at handled
      · simp at handled
      · split
        · exact .inr ⟨answer, batch, rfl, not_not.mp success, handled, rfl⟩
        · exact .inl rfl
  · exact .inl rfl

/-- One event posts a batch only for a summary that is waited for, which it then is not any more. -/
theorem Application.Stepped.count_contexts {app : Application} {surroundings : Surroundings}
    {event : ApplicationEvent} {after : Application × Effects}
    (stepped : app.Stepped library uriPath surroundings event after) (context : RequestContext) :
    after.1.contexts.count context + countTo .syncMessages context after.2.requests ≤
      app.contexts.count context + countTo .syncSummary context after.2.requests := by
  -- A call only tells the peers of messages.
  have called : ∀ answer : HttpResponse × MessageService,
      countTo .syncMessages context (app.afterCall surroundings answer).2.requests = 0 ∧
        countTo .syncSummary context (app.afterCall surroundings answer).2.requests = 0 := by
    intro answer
    constructor <;> apply countTo_of_endpoint <;> intro request member same <;>
      simp [Application.afterCall_endpoint member] at same
  cases stepped with
  | created request routed =>
    rw [(called _).1]
    exact Nat.le_add_right _ _
  | replicated request routed =>
    rw [(called _).1]
    exact Nat.le_add_right _ _
  | synchronized request routed =>
    rw [(called _).1]
    exact Nat.le_add_right _ _
  | summarized read =>
    -- Each summary that is sent is waited for.
    simp only [Application.synchronize, read, Bool.true_eq_false, if_false, List.count_append]
    generalize reachedPeers surroundings app.discovery = peers
    generalize LesChat.synchronize library surroundings.originOrder app.service.store.database =
      payload
    have none : countTo .syncMessages context (peers.map fun peer =>
        (⟨peer.address, peer.httpPort, .syncSummary, payload⟩ : OutgoingRequest)) = 0 := by
      apply countTo_of_endpoint
      intro request member same
      obtain ⟨peer, _, rfl⟩ := List.mem_map.mp member
      simp at same
    have each : countTo .syncSummary context (peers.map fun peer =>
        (⟨peer.address, peer.httpPort, .syncSummary, payload⟩ : OutgoingRequest)) =
        (peers.map fun peer => (⟨peer.address, peer.httpPort⟩ : RequestContext)).count context := by
      obtain ⟨address, port⟩ := context
      rw [countTo, List.countP_map, List.count, List.countP_map]
      apply List.countP_congr
      intro peer _
      simp
    rw [none, each]
    exact Nat.le_refl _
  | answered index response asked listed =>
    -- The context that is used is the only one that goes.
    obtain ⟨bounded, found⟩ := List.getElem?_eq_some_iff.mp listed
    have left := (List.getElem_cons_eraseIdx_perm bounded).count_eq context
    rw [found, List.count_cons] at left
    have batch : countTo .syncMessages context
        (app.summaryAnswered library surroundings asked response) ≤
          if asked == context then 1 else 0 := by
      rcases app.summaryAnswered_cases library surroundings asked response with
        none | ⟨_, _, _, _, _, only⟩
      · rw [none]
        exact Nat.zero_le _
      · rw [only, countTo, List.countP_singleton]
        obtain ⟨address, port⟩ := context
        by_cases same : asked = ⟨address, port⟩
        · simp [same]
        · have apart : ¬(asked.address = address ∧ asked.port = port) := by
            intro both
            apply same
            rw [← both.1, ← both.2]
          simp [same, apart]
    simp only []
    omega
  | idle => simp [countTo]
  | subscribed => simp [countTo]
  | closed => simp [countTo]
  | heard => simp [countTo]
  | elapsed => simp [countTo]

/-- What a run from some contexts posts in batches was asked for, or waited for from the start. -/
theorem run_count_contexts (start : Application) (occurrences : List Occurrence)
    (context : RequestContext) :
    (run (Application.step library uriPath) start occurrences).contexts.count context +
        countTo .syncMessages context (requestsMade library uriPath start occurrences) ≤
      start.contexts.count context +
        countTo .syncSummary context (requestsMade library uriPath start occurrences) := by
  -- The induction follows the events.
  induction occurrences generalizing start with
  | nil => simp [requestsMade, countTo]
  | cons occurrence rest ih =>
    have here := (start.react_stepped library uriPath occurrence.surroundings
      occurrence.event).count_contexts context
    have later := ih (start.step library uriPath occurrence)
    simp only [run_cons, requestsMade, countTo_append, Application.requests]
    simp only [Application.step] at later ⊢
    omega

/--
A daemon posts a batch only where it asked for a summary, and at most once for each it asked for.

This holds for every address and port, after any events.
-/
theorem batches_le_summaries (library : JsonC) (uriPath : UriPath) {start : Application}
    (fresh : start.contexts = []) (occurrences : List Occurrence) (context : RequestContext) :
    countTo .syncMessages context (requestsMade library uriPath start occurrences) ≤
      countTo .syncSummary context (requestsMade library uriPath start occurrences) := by
  -- Every batch used up a context, and none was there at the start.
  have counted := @run_count_contexts library uriPath start occurrences context
  rw [fresh, List.count_nil] at counted
  omega

/-- A daemon that heard another one asks it for its marks, and posts one batch when they arrive. -/
theorem batches_le_summaries_answered :
    let alice : Settings := ⟨⟨ascii "a", ascii "Alice"⟩, ascii "127.0.0.1", 7777, .off, []⟩
    let start := alice.application ⟨0, 1000, 0⟩ (MessageService.initial alice.identity)
    let uriPath : UriPath := fun uri => some (some uri)
    let bob := serializeJson plainJsonC (announceJson ⟨ascii "b", ascii "Bob"⟩ 7778 .off 0)
    let summary := serializeJson plainJsonC (summaryJson .stored [])
    let occurrences : List Occurrence := [
      ⟨.request ⟨8, .post, some (ascii "/api/v1/messages"),
        jsonRequest (ascii "\x7b\"body\":\"hello\"\x7d")⟩, {}⟩,
      ⟨.receive ⟨bob, ⟨10, 0, 0, 2⟩⟩, {}⟩,
      ⟨.synchronize, {}⟩,
      ⟨.answer 0 (some (okResponse summary)), {}⟩,
      ⟨.answer 0 (some (okResponse summary)), {}⟩]
    let requests := requestsMade plainJsonC uriPath start occurrences
    requests.map OutgoingRequest.endpoint = [.syncSummary, .syncMessages] ∧
      countTo .syncMessages ⟨ascii "10.0.0.2", 7778⟩ requests ≤
        countTo .syncSummary ⟨ascii "10.0.0.2", 7778⟩ requests := by
  -- The second answer finds no request it could belong to.
  intro alice start uriPath bob summary occurrences requests
  have fresh : start.contexts = [] := rfl
  exact ⟨by decide +kernel, batches_le_summaries plainJsonC uriPath fresh occurrences _⟩

end Counting

section Justification

variable {library : JsonC} {uriPath : UriPath}

/-- A call that broadcasts nothing makes no request. -/
theorem Application.afterCall_silent {app : Application} {answer : HttpResponse × MessageService}
    (silent : answer.2.broadcasts = app.service.broadcasts) (surroundings : Surroundings) :
    (app.afterCall surroundings answer).2.requests = [] := by
  -- Without a new broadcast there is nothing to send to anyone.
  simp [Application.afterCall, MessageService.broadcastsSince, silent]

end Justification

end LesChat
