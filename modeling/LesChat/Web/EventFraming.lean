import Mathlib.Data.List.Induction
import LesChat.Foundation.JsonText
import LesChat.Foundation.ServerSentEvents
import LesChat.Message.Encoding
import LesChat.Web.EventStream

/-! What the event stream writes to its subscribers, and which events they read out of it. -/

namespace LesChat

open Foundation

/-- A request the event stream keeps open, and the bytes written to it. -/
structure Subscriber where
  /-- The connection of the request. -/
  connection : Nat
  /-- Everything written to it. -/
  written : Bytes

/-- `EventStream`: the open requests, in the order in which they subscribed. -/
structure EventStream where
  /-- The open requests. -/
  requests : List Subscriber

namespace EventStream

/-- A stream nobody has subscribed to. -/
def empty : EventStream := ⟨[]⟩

/-- What a new subscriber is sent first. -/
def ready : Bytes := ascii "event: ready\ndata: \x7b\x7d\n\n"

/-- `EventStream::subscribe`. -/
def subscribe (connection : Nat) (stream : EventStream) : EventStream :=
  ⟨stream.requests ++ [⟨connection, ready⟩]⟩

/-- The payload of one event. -/
def payload (eventName jsonData : Bytes) : Bytes :=
  ascii "event: " ++ eventName ++ ascii "\ndata: " ++ jsonData ++ ascii "\n\n"

/-- `EventStream::publish`: every open request is sent the same payload. -/
def publish (eventName jsonData : Bytes) (stream : EventStream) : EventStream :=
  ⟨stream.requests.map fun request =>
    { request with written := request.written ++ payload eventName jsonData }⟩

/-- `EventStream::handle_close`: the first request of the connection is dropped. -/
def handleClose (connection : Nat) (stream : EventStream) : EventStream :=
  ⟨stream.requests.eraseP fun request => request.connection == connection⟩

end EventStream

section Framing

variable (library : JsonC)

/-- The text of the data a message is published with. -/
def messageData (message : ChatMessage) : Bytes := serializeJson library (messageToJson message)

/-- `MessageService::publish`, as the event stream sees it. -/
def publishMessage (stream : EventStream) (message : ChatMessage) : EventStream :=
  stream.publish (ascii "message") (messageData library message)

/-- The payloads of several messages, one after the other. -/
def messagePayloads (messages : List ChatMessage) : Bytes :=
  messages.flatMap fun message =>
    EventStream.payload (ascii "message") (messageData library message)

/-- The event a message is to be read as. -/
def messageEvent (message : ChatMessage) : StreamEvent :=
  ⟨ascii "message", messageData library message, []⟩

variable {library}

/-- The data of a message is on one line. -/
theorem oneLine_messageData (lawful : library.Lawful) (message : ChatMessage) :
    OneLine (messageData library message) := by
  -- The serializer writes no control characters, whatever the texts of the message are.
  have printable : ∀ source, ∀ byte ∈ library.escape source, 0x20 ≤ byte.toNat := by
    intro source byte member
    by_cases escaped : isSpecial source = true ∨ source < 0x20
    · exact UInt8.le_iff_toNat_le.mp (lawful.escape_printable source escaped byte member).1
    · simp only [not_or, Bool.not_eq_true] at escaped
      rw [lawful.escape_other source escaped.1 escaped.2, List.mem_singleton] at member
      have large := escaped.2
      rw [← member, UInt8.lt_iff_toNat_lt, Nat.not_lt] at large
      exact large
  exact oneLine_of_printable (Json.plainText_printable printable (plain_messageToJson 31 message))

/-- The name and the data of a message's event are each on one line. -/
theorem messagePart_lines (lawful : library.Lawful) (message : ChatMessage) :
    ascii "message" ≠ [] ∧ OneLine (ascii "message") ∧ OneLine (messageData library message) := by
  -- The serializer escapes every line break, and the name of the event has none.
  have named : ascii "message" ≠ [] := by decide
  have nameLine : OneLine (ascii "message") := ⟨by decide, by decide⟩
  exact ⟨named, nameLine, oneLine_messageData lawful message⟩

/-- The payloads of messages are parsed into their events. -/
theorem parseEvents_messagePayloads (lawful : library.Lawful) (messages : List ChatMessage) :
    parseEvents (messagePayloads library messages) = messages.map (messageEvent library) := by
  -- Each payload is the lines of one event.
  have parts : messagePayloads library messages =
      (messages.map fun message => (ascii "message", messageData library message)).flatMap
        fun part => eventLines part.1 part.2 := by
    rw [List.flatMap_map]
    rfl
  rw [parts, parseEvents_flatMap]
  · simp [namedEvents, messageEvent]
  · intro part member
    obtain ⟨message, _, same⟩ := List.mem_map.mp member
    rw [← same]
    exact messagePart_lines lawful message

/-- Publishing messages appends their payloads to every open request, and changes nothing else. -/
theorem publishMessage_foldl (messages : List ChatMessage) (stream : EventStream) :
    (messages.foldl (publishMessage library) stream).requests =
      stream.requests.map fun request =>
        { request with written := request.written ++ messagePayloads library messages } := by
  -- The induction is on the messages, with the stream as it was left.
  induction messages generalizing stream with
  | nil => simp [messagePayloads]
  | cons message rest ih =>
    rw [List.foldl_cons, ih]
    simp [publishMessage, EventStream.publish, messagePayloads, Function.comp_def]

/--
Whatever messages are published, each subscriber is sent their payloads one after the other, and
reads exactly one event for each of them, in order, with the serialized message as its data.
-/
theorem subscriber_reads_messages (lawful : library.Lawful) (messages : List ChatMessage)
    (stream : EventStream) :
    (messages.foldl (publishMessage library) stream).requests =
        stream.requests.map (fun request =>
          { request with written := request.written ++ messagePayloads library messages }) ∧
      parseEvents (messagePayloads library messages) =
        messages.map fun message =>
          ⟨ascii "message", serializeJson library (messageToJson message), []⟩ :=
  -- What is written, and what the grammar makes of it.
  ⟨publishMessage_foldl messages stream, parseEvents_messagePayloads lawful messages⟩

/-- A body full of line ends and field names is one event to every subscriber. -/
theorem subscriber_reads_lines :
    let message : ChatMessage := ⟨1, ascii "a:1", ascii "a", ascii "A\r\nevent: x", defaultChannel,
      0, ascii "\n\ndata: forged\r\r"⟩
    parseEvents (messagePayloads plainJsonC [message]) = [messageEvent plainJsonC message] := by
  -- The line breaks are in the texts of the message, which are escaped.
  intro message
  exact (subscriber_reads_messages plainJsonC_lawful [message] EventStream.empty).2

/-! Subscribers that come and go while messages are published. -/

variable (library)

/-- What happens to the event stream. -/
inductive StreamAction where
  /-- A request subscribes. -/
  | subscribe (connection : Nat)
  /-- A message is published. -/
  | publish (message : ChatMessage)
  /-- A connection is closed. -/
  | close (connection : Nat)

/-- The stream after one action. -/
def streamStep (stream : EventStream) : StreamAction → EventStream
  | .subscribe connection => stream.subscribe connection
  | .publish message => publishMessage library stream message
  | .close connection => stream.handleClose connection

/-- The messages published by a sequence of actions. -/
def publishedMessages (actions : List StreamAction) : List ChatMessage :=
  actions.filterMap fun action =>
    match action with
    | .publish message => some message
    | _ => none

/-- A subscriber has been sent the first event, and every message published since it subscribed. -/
def Follows (actions : List StreamAction) (request : Subscriber) : Prop :=
  ∃ before after, actions = before ++ .subscribe request.connection :: after ∧
    request.written = EventStream.ready ++ messagePayloads library (publishedMessages after)

variable {library}

/-- The messages of later actions come after those of earlier ones. -/
theorem publishedMessages_append (first second : List StreamAction) :
    publishedMessages (first ++ second) = publishedMessages first ++ publishedMessages second :=
  -- The actions are filtered one by one.
  List.filterMap_append

/-- One more action keeps what every open request has been sent. -/
theorem follows_step {actions : List StreamAction} {stream : EventStream}
    (follow : ∀ request ∈ stream.requests, Follows library actions request)
    (action : StreamAction) :
    ∀ request ∈ (streamStep library stream action).requests,
      Follows library (actions ++ [action]) request := by
  intro request member
  -- A request that was open before has seen one more action.
  have later : ∀ old ∈ stream.requests, publishedMessages [action] = [] →
      Follows library (actions ++ [action]) old := by
    intro old inStream silent
    obtain ⟨before, after, same, written⟩ := follow old inStream
    refine ⟨before, after ++ [action], by rw [same]; simp, ?_⟩
    rw [written, publishedMessages_append, silent, List.append_nil]
  cases action with
  | subscribe connection =>
    rcases List.mem_append.mp member with old | new
    · exact later request old rfl
    · rw [List.mem_singleton.mp new]
      exact ⟨actions, [], rfl, by simp [publishedMessages, messagePayloads]⟩
  | publish message =>
    obtain ⟨old, inStream, same⟩ := List.mem_map.mp member
    obtain ⟨before, after, actionsSame, written⟩ := follow old inStream
    refine ⟨before, after ++ [.publish message], by rw [actionsSame, ← same]; simp, ?_⟩
    rw [← same]
    simp [written, publishedMessages, messagePayloads, messageData]
  | close connection => exact later request (List.mem_of_mem_eraseP member) rfl

/-- After any actions, every open request follows the stream. -/
theorem follows_run (actions : List StreamAction) :
    ∀ request ∈ (actions.foldl (streamStep library) EventStream.empty).requests,
      Follows library actions request := by
  -- The induction is on the actions, the last one first.
  induction actions using List.reverseRecOn with
  | nil => simp [EventStream.empty]
  | append_singleton actions action ih =>
    rw [List.foldl_append]
    exact follows_step ih action

/-- Every open request reads the first event and then one event for each message it was sent. -/
theorem follows_parseEvents (lawful : library.Lawful) {actions : List StreamAction}
    {request : Subscriber} (follow : Follows library actions request) :
    ∃ before after, actions = before ++ .subscribe request.connection :: after ∧
      parseEvents request.written = ⟨ascii "ready", ascii "\x7b\x7d", []⟩ ::
        (publishedMessages after).map (messageEvent library) := by
  obtain ⟨before, after, same, written⟩ := follow
  refine ⟨before, after, same, ?_⟩
  -- The first event has the same form as the others.
  have parts : request.written =
      ((ascii "ready", ascii "\x7b\x7d") :: (publishedMessages after).map fun message =>
        (ascii "message", messageData library message)).flatMap
          fun part => eventLines part.1 part.2 := by
    have first : EventStream.ready = eventLines (ascii "ready") (ascii "\x7b\x7d") := by decide
    rw [written, first, List.flatMap_cons, List.flatMap_map]
    rfl
  rw [parts, parseEvents_flatMap]
  · simp [namedEvents, messageEvent]
  · intro part member
    rcases List.mem_cons.mp member with head | tail
    · rw [head]
      exact ⟨by decide, ⟨by decide, by decide⟩, by decide, by decide⟩
    · obtain ⟨message, _, same⟩ := List.mem_map.mp tail
      rw [← same]
      exact messagePart_lines lawful message

end Framing

end LesChat
