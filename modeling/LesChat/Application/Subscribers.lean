import LesChat.Application.Steps

/-! What the subscribers of a running daemon read: every message it stores while they listen. -/

namespace LesChat

open Foundation

/-- An event opens a stream on a connection. -/
def Occurrence.Opens (uriPath : UriPath) (occurrence : Occurrence) (connection : Nat) : Prop :=
  ∃ request, occurrence.event = .request request ∧
    routeRequest uriPath request = .ok .openEventStream ∧ request.connection = connection

section Stream

variable {library : JsonC} {uriPath : UriPath}

/-- What one event does to the stream, and the calls that publish on it. -/
structure Application.Streamed (library : JsonC) (uriPath : UriPath) (app : Application)
    (occurrence : Occurrence) (after : Application) (block : List StreamAction)
    (calls : List ServiceCall) : Prop where
  /-- The stream takes some actions. -/
  events : after.events = run (streamStep library) app.events block
  /-- The message service takes some calls. -/
  service : after.service = run (ServiceCall.after library) app.service calls
  /-- What the calls publish is what the stream is given. -/
  published : publishedMessages block = ServiceCall.published library app.service calls
  /-- A subscription is the only action of the event that opens it. -/
  opened : ∀ first connection second, block = first ++ .subscribe connection :: second →
    first = [] ∧ second = [] ∧ occurrence.Opens uriPath connection

/-- Publishing several messages publishes these messages. -/
theorem publishedMessages_map (messages : List ChatMessage) :
    publishedMessages (messages.map .publish) = messages := by
  -- Every action publishes, so none is filtered out.
  simp [publishedMessages, List.filterMap_map]

/-- A call tells the subscribers of every message it publishes. -/
theorem Application.afterCall_events (app : Application) (surroundings : Surroundings)
    {answer : HttpResponse × MessageService} {calls : List ServiceCall}
    (called : answer.2 = run (ServiceCall.after library) app.service calls) :
    (app.afterCall surroundings answer).1.events = run (streamStep library) app.events
      ((ServiceCall.published library app.service calls).map .publish) := by
  -- The texts recorded since are those of the messages the calls published.
  have texts : app.service.publishedSince answer.2 =
      (ServiceCall.published library app.service calls).map (messageData library) := by
    rw [MessageService.publishedSince, called, ServiceCall.published_run, List.drop_left]
  simp only [Application.afterCall, texts, List.foldl_map, run]
  rfl

/-- A call is streamed by what it publishes. -/
theorem Application.afterCall_streamed (app : Application) (occurrence : Occurrence)
    {answer : HttpResponse × MessageService} {calls : List ServiceCall}
    (called : answer.2 = run (ServiceCall.after library) app.service calls) :
    ∃ block calls, app.Streamed library uriPath occurrence
      (app.afterCall occurrence.surroundings answer).1 block calls := by
  refine ⟨_, calls, app.afterCall_events occurrence.surroundings called, called,
    publishedMessages_map _, ?_⟩
  intro first connection second same
  -- None of the actions is a subscription.
  have member : StreamAction.subscribe connection ∈
      (ServiceCall.published library app.service calls).map StreamAction.publish := by
    rw [same]
    simp
  simp at member

/-- Every event does something to the stream. -/
theorem Application.step_streamed (app : Application) (occurrence : Occurrence) :
    ∃ block calls, app.Streamed library uriPath occurrence
      (app.step library uriPath occurrence) block calls := by
  -- Only requests and closed connections reach the stream.
  have silent : ∀ after : Application, after.events = app.events → after.service = app.service →
      ∃ block calls, app.Streamed library uriPath occurrence after block calls := by
    intro after events service
    exact ⟨[], [], events, service, rfl, by simp⟩
  obtain ⟨event, surroundings⟩ := occurrence
  have stepped := app.react_stepped library uriPath surroundings event
  simp only [Application.step]
  generalize app.react library uriPath surroundings event = reaction at stepped
  have calls := stepped.calls
  cases stepped with
  | idle => exact silent app rfl rfl
  | subscribed request routed =>
    refine ⟨[.subscribe request.connection], [], rfl, rfl, rfl, ?_⟩
    intro first connection second same
    rcases List.append_eq_singleton_iff.mp same.symm with ⟨empty, one⟩ | ⟨_, none⟩
    · obtain ⟨sameAction, rest⟩ := List.cons.inj one
      exact ⟨empty, rest, request, rfl, routed, (StreamAction.subscribe.inj sameAction).symm⟩
    · simp at none
  | created request routed =>
    obtain ⟨made, called⟩ := calls
    exact app.afterCall_streamed ⟨_, surroundings⟩ called
  | replicated request routed =>
    obtain ⟨made, called⟩ := calls
    exact app.afterCall_streamed ⟨_, surroundings⟩ called
  | synchronized request routed =>
    obtain ⟨made, called⟩ := calls
    exact app.afterCall_streamed ⟨_, surroundings⟩ called
  | closed connection =>
    refine ⟨[.close connection], [], rfl, rfl, rfl, ?_⟩
    intro first other second same
    have member : StreamAction.subscribe other ∈ [StreamAction.close connection] := by
      rw [same]
      simp
    simp at member
  | heard => exact silent _ rfl rfl
  | summarized read =>
    refine silent _ ?_ ?_ <;>
      simp only [Application.synchronize, read, Bool.true_eq_false, if_false]
  | answered => exact silent _ rfl rfl
  | elapsed => exact silent _ rfl rfl

/--
What each subscription of a run of actions stands for.

It was made by an event of the run, and what the stream was given afterwards is what the message
service published afterwards.
-/
def Application.Subscribed (library : JsonC) (uriPath : UriPath) (start : Application)
    (occurrences : List Occurrence) (actions : List StreamAction) : Prop :=
  let reached := run (Application.step library uriPath) start
  ∀ first connection second, actions = first ++ .subscribe connection :: second →
    ∃ before opening after calls, occurrences = before ++ opening :: after ∧
      opening.Opens uriPath connection ∧
      (reached occurrences).service =
        run (ServiceCall.after library) (reached (before ++ [opening])).service calls ∧
      publishedMessages second =
        ServiceCall.published library (reached (before ++ [opening])).service calls

/-- Calls after calls publish what the later ones publish after what the earlier ones do. -/
theorem ServiceCall.published_append (library : JsonC) (service : MessageService)
    (first second : List ServiceCall) :
    ServiceCall.published library service (first ++ second) =
      ServiceCall.published library service first ++
        ServiceCall.published library (run (ServiceCall.after library) service first) second := by
  -- The induction follows the earlier calls.
  induction first generalizing service with
  | nil => rfl
  | cons call rest ih =>
    simp only [List.cons_append, ServiceCall.published, ih, run_cons, List.append_assoc]

/-- The event stream of a running daemon takes actions that stand for the events of the run. -/
theorem Application.run_streamed (library : JsonC) (uriPath : UriPath) {start : Application}
    (quiet : start.events = EventStream.empty) (occurrences : List Occurrence) :
    ∃ actions, (run (Application.step library uriPath) start occurrences).events =
        run (streamStep library) EventStream.empty actions ∧
      start.Subscribed library uriPath occurrences actions := by
  -- The induction is on the events, the last one first.
  induction occurrences using List.reverseRecOn with
  | nil => exact ⟨[], quiet, by simp [Application.Subscribed]⟩
  | append_singleton occurrences occurrence ih =>
    obtain ⟨actions, events, subscribed⟩ := ih
    obtain ⟨block, calls, streamed⟩ := @Application.step_streamed library uriPath
      (run (Application.step library uriPath) start occurrences) occurrence
    refine ⟨actions ++ block, ?_, ?_⟩
    · rw [run_append, run_append, ← events]
      exact streamed.events
    · intro first connection second same
      -- A subscription among the new actions is made by the last event, and nothing follows it.
      have latest : ∀ middle, block = middle ++ .subscribe connection :: second →
          ∃ before opening after calls, occurrences ++ [occurrence] = before ++ opening :: after ∧
            opening.Opens uriPath connection ∧
            (run (Application.step library uriPath) start (occurrences ++ [occurrence])).service =
              run (ServiceCall.after library) (run (Application.step library uriPath) start
                (before ++ [opening])).service calls ∧
            publishedMessages second = ServiceCall.published library
              (run (Application.step library uriPath) start (before ++ [opening])).service calls := by
        intro middle inBlock
        obtain ⟨_, nothing, opens⟩ := streamed.opened middle connection second inBlock
        subst nothing
        exact ⟨occurrences, occurrence, [], [], rfl, opens, rfl, rfl⟩
      rcases List.append_eq_append_iff.mp same with ⟨middle, _, inBlock⟩ | ⟨middle, old, rest⟩
      · exact latest middle inBlock
      · cases middle with
        | nil => exact latest [] rest.symm
        | cons action later =>
          -- An earlier subscription is given the new actions too.
          obtain ⟨sameAction, sameRest⟩ := List.cons.inj rest
          subst sameAction sameRest
          obtain ⟨before, opening, after, made, split, opens, service, published⟩ :=
            subscribed first connection later old
          refine ⟨before, opening, after ++ [occurrence], made ++ calls, by simp [split], opens,
            ?_, ?_⟩
          · rw [run_append, run_append, ← service]
            exact streamed.service
          · show publishedMessages (later ++ block) = _
            rw [publishedMessages_append, ServiceCall.published_append, published, ← service,
              streamed.published]

/--
What an open subscriber of a running daemon has read, after any events.

It read the first event, and then one event for each message published since an event of the run
opened its stream, in order. Every message that was committed since then is among them.
-/
theorem subscribers_read_stored (lawful : library.Lawful) (uriPath : UriPath) {start : Application}
    (quiet : start.events = EventStream.empty) (occurrences : List Occurrence) :
    let reached := run (Application.step library uriPath) start
    ∀ subscriber ∈ (reached occurrences).events.requests,
      ∃ before opening after seen stored, occurrences = before ++ opening :: after ∧
        opening.Opens uriPath subscriber.connection ∧
        parseEvents subscriber.written =
          ⟨ascii "ready", ascii "\x7b\x7d", []⟩ :: seen.map (messageEvent library) ∧
        (reached occurrences).service.published =
          (reached (before ++ [opening])).service.published ++ seen.map (messageData library) ∧
        (reached occurrences).service.store.database.committed =
          (reached (before ++ [opening])).service.store.database.committed ++ stored ∧
        stored.Sublist seen := by
  intro reached subscriber member
  obtain ⟨actions, events, subscribed⟩ :=
    Application.run_streamed library uriPath quiet occurrences
  -- What the subscriber was written is told by the actions since it subscribed.
  have listening : subscriber ∈ (actions.foldl (streamStep library) EventStream.empty).requests := by
    rw [events] at member
    exact member
  obtain ⟨first, second, split, parsed⟩ :=
    follows_parseEvents lawful (follows_run actions subscriber listening)
  obtain ⟨before, opening, after, calls, same, opens, service, published⟩ :=
    subscribed first subscriber.connection second split
  obtain ⟨stored, listed, committed⟩ :=
    ServiceCall.committed_run library (reached (before ++ [opening])).service calls
  refine ⟨before, opening, after, publishedMessages second, stored, same, opens, parsed, ?_, ?_, ?_⟩
  · rw [service, ServiceCall.published_run, published]
  · rw [service]
    exact committed
  · rw [published]
    exact listed

/-- A subscriber reads the greeting that is created while it listens. -/
theorem subscribers_read_stored_greeting :
    let alice : Settings := ⟨⟨ascii "a", ascii "Alice"⟩, ascii "127.0.0.1", 7777, .off, []⟩
    let start := alice.application ⟨0, 1000, 0⟩ (MessageService.initial alice.identity)
    let uriPath : UriPath := fun uri => some (some uri)
    let occurrences : List Occurrence := [
      ⟨.request ⟨7, .get, some (ascii "/api/v1/events"), jsonRequest []⟩, {}⟩,
      ⟨.request ⟨8, .post, some (ascii "/api/v1/messages"),
        jsonRequest (ascii "\x7b\"body\":\"hello\"\x7d")⟩, {}⟩]
    let reached := run (Application.step plainJsonC uriPath) start occurrences
    (reached.events.requests.map Subscriber.connection = [7] ∧
      reached.service.store.database.committed.map ChatMessage.body = [ascii "hello"]) ∧
    ∀ subscriber ∈ reached.events.requests, ∃ seen : List ChatMessage,
      parseEvents subscriber.written =
        ⟨ascii "ready", ascii "\x7b\x7d", []⟩ :: seen.map (messageEvent plainJsonC) := by
  -- The stream is opened first, and the message is posted after that.
  intro alice start uriPath occurrences reached
  refine ⟨by decide +kernel, ?_⟩
  intro subscriber member
  obtain ⟨_, _, _, seen, _, _, _, parsed, _⟩ :=
    subscribers_read_stored plainJsonC_lawful uriPath
      (show start.events = EventStream.empty from rfl) occurrences subscriber member
  exact ⟨seen, parsed⟩

end Stream

end LesChat
