import LesChat.Http.HttpApi

/-! What the handlers do to the service, in terms of the messages a request carries. -/

namespace LesChat

open Foundation

variable (library : JsonC)

/-- The messages a batch ingests: those before the first item that is not one. -/
def acceptedItems : List Json → List ChatMessage
  | [] => []
  | item :: rest =>
    match parseMessage item with
    | none => []
    | some message => message :: acceptedItems rest

/-- The message a request to `replicate_message` carries, if it is accepted. -/
def replicatedMessages (request : HttpRequest) : List ChatMessage :=
  match readJsonObject library request maxRequestBytes true (errorBody "invalid_message") with
  | .error _ => []
  | .ok parsed => (parseMessage parsed).toList

/-- The messages a request to `sync_messages` carries, as far as they are accepted. -/
def synchronizedMessages (request : HttpRequest) : List ChatMessage :=
  match readJsonObject library request maxSyncRequestBytes true
      (errorBody "invalid_sync_messages") with
  | .error _ => []
  | .ok parsed => ((batchItems parsed).map acceptedItems).getD []

/-- The document `get_messages` answers with. -/
def messagesDocument (messages : List ChatMessage) : Json :=
  jsonObject [
    (ascii "messages", .array ((sortedMessages messages).map messageToJson)),
    (ascii "count", .int (sortedMessages messages).length)]

/-- The answer is the text of that document. -/
theorem getMessages_eq (messages : List ChatMessage) :
    getMessages library messages =
      okResponse (serializeJson library (messagesDocument messages)) := rfl

/-- That document, member by member. -/
theorem messagesDocument_eq (messages : List ChatMessage) :
    messagesDocument messages = .object [
      (ascii "messages", .array ((sortedMessages messages).map messageToJson)),
      (ascii "count", .int (sortedMessages messages).length)] :=
  -- The two names are distinct, so every addition appends a member.
  jsonObject_of_nodup (by simp only [List.map_cons, List.map_nil]; decide)

/-- A body is taken from the request's string member, and only within the bounds. -/
theorem messageBody_eq_ok {parsed : Json} {body : Bytes} :
    messageBody parsed = .ok body ↔
      parsed.get? (ascii "body") = some (.string body) ∧ AcceptedBody body := by
  -- Each test of the handler is one bound, and a value of another type has no body.
  constructor
  · intro accepted
    unfold messageBody at accepted
    split at accepted
    · rename_i text found
      split at accepted
      · simp at accepted
      · rename_i nonempty
        split at accepted
        · simp at accepted
        · rename_i small
          split at accepted
          · simp at accepted
          · rename_i utf8
            simp only [Except.ok.injEq] at accepted
            subst accepted
            exact ⟨found, ⟨Nat.lt_of_not_le nonempty, Nat.le_of_not_lt small⟩, by simpa using utf8⟩
    · simp at accepted
  · intro both
    obtain ⟨found, ⟨nonempty, small⟩, utf8⟩ := both
    simp only [messageBody, found, if_neg (Nat.not_le.mpr nonempty), if_neg (Nat.not_lt.mpr small),
      utf8]
    simp

/-- A body is refused with a status other than success. -/
theorem messageBody_status {parsed : Json} {response : HttpResponse}
    (refused : messageBody parsed = .error response) : response.status ≠ 200 := by
  -- The four refusals, each with its own status.
  unfold messageBody at refused
  split at refused
  · split at refused
    · simp only [Except.error.injEq] at refused
      simp [← refused, badRequest]
    · split at refused
      · simp only [Except.error.injEq] at refused
        simp [← refused, payloadTooLarge]
      · split at refused
        · simp only [Except.error.injEq] at refused
          simp [← refused, badRequest]
        · simp at refused
  · simp only [Except.error.injEq] at refused
    simp [← refused, badRequest]

/-- A request that is not read as an object is answered with one of three responses. -/
theorem readJsonObject_status {request : HttpRequest} {limit : Nat} {requireComplete : Bool}
    {invalidJson : String} {response : HttpResponse}
    (refused : readJsonObject library request limit requireComplete invalidJson = .error response) :
    response = unsupportedMediaType ∨ response = requestTooLarge ∨
      response = badRequest invalidJson := by
  -- In the order of the checks: media type, size, then the object itself.
  unfold readJsonObject readRequestBody at refused
  split at refused
  · simp only [Except.error.injEq] at refused
    exact .inl refused.symm
  · split at refused
    · rename_i error reading
      split at reading
      · simp only [Except.error.injEq] at reading refused
        exact .inr (.inl (by rw [← refused, ← reading]))
      · simp at reading
    · dsimp only at refused
      split at refused
      · simp only [Except.error.injEq] at refused
        exact .inr (.inr refused.symm)
      · simp at refused

/-- A `create_message` request is answered with success only after its message was created. -/
theorem createMessage_ok {now : Int64} {results : AddResults} {request : HttpRequest}
    {service : MessageService}
    (answered : (createMessage library now results request service).1.status = 200) :
    ∃ parsed body message,
      readJsonObject library request maxRequestBytes false (errorBody "invalid_json") =
        .ok parsed ∧
      messageBody parsed = .ok body ∧
      (createLocal library now results body service).1 = .ok message ∧
      (createMessage library now results request service).2 =
        (createLocal library now results body service).2 := by
  -- Every other branch answers with a status of its own.
  unfold createMessage at answered ⊢
  cases reading : readJsonObject library request maxRequestBytes false
      (errorBody "invalid_json") with
  | error response =>
    rw [reading] at answered
    rcases readJsonObject_status library reading with rfl | rfl | rfl <;>
      simp [unsupportedMediaType, requestTooLarge, payloadTooLarge, badRequest] at answered
  | ok parsed =>
    rw [reading] at answered
    cases decoding : messageBody parsed with
    | error response =>
      simp only [decoding] at answered
      exact absurd answered (messageBody_status decoding)
    | ok body =>
      simp only [decoding] at answered
      cases call : createLocal library now results body service with
      | mk outcome after =>
        rw [call] at answered
        cases outcome with
        | error error => simp [internalError] at answered
        | ok message =>
          exact ⟨parsed, body, message, rfl, decoding, by rw [call], by simp [call, decoding]⟩

/-- A `replicate_message` request changes the service by ingesting the message it carries. -/
theorem replicateMessage_keeps (invariant : MessageService → Prop) {lookup : SqliteResult}
    {results : AddResults} {request : HttpRequest} {service : MessageService}
    (keeps : ∀ message ∈ replicatedMessages library request,
      invariant (ingestReplica library lookup results message service).2)
    (holds : invariant service) :
    invariant (replicateMessage library lookup results request service).2 := by
  unfold replicateMessage
  unfold replicatedMessages at keeps
  split
  · exact holds
  · rename_i parsed reading
    rw [reading] at keeps
    split
    · exact holds
    -- The response depends on the outcome of the call, the service does not.
    · rename_i message accepted
      have ingested := keeps message (by simp [accepted])
      split <;> (rename_i call; rw [call] at ingested; exact ingested)

/-- The loop over a batch keeps whatever each of its messages keeps. -/
theorem ingestItems_keeps (invariant : MessageService → Prop) (results : Nat → AddResults)
    {items : List Json} (keeps : ∀ message ∈ acceptedItems items, ∀ index service,
      invariant service → invariant (ingestSync library (results index) message service).2)
    (index accepted : Nat) {service : MessageService} (holds : invariant service) :
    invariant (ingestItems library results items index accepted service).2 := by
  -- The induction follows the items until one is refused or an exception ends the loop.
  induction items generalizing index accepted service with
  | nil => exact holds
  | cons item rest ih =>
    unfold acceptedItems at keeps
    unfold ingestItems
    split
    · exact holds
    · rename_i message parsed
      simp only [parsed] at keeps
      have ingested := keeps message (by simp) index service holds
      split
      · rename_i call
        rw [call] at ingested
        exact ingested
      -- The loop goes on with the service the call left, whether or not the message was new.
      · rename_i inserted next call
        rw [call] at ingested
        exact ih (fun other member => keeps other (by simp [member])) _ _ ingested

/-- A `sync_messages` request changes the service by ingesting the messages it carries. -/
theorem syncMessages_keeps (invariant : MessageService → Prop) {results : Nat → AddResults}
    {request : HttpRequest} {service : MessageService}
    (keeps : ∀ message ∈ synchronizedMessages library request, ∀ index service,
      invariant service → invariant (ingestSync library (results index) message service).2)
    (holds : invariant service) :
    invariant (syncMessages library results request service).2 := by
  -- A request that is refused leaves the service alone, and a batch is a loop over its items.
  unfold syncMessages
  unfold synchronizedMessages at keeps
  split
  · exact holds
  · rename_i parsed reading
    rw [reading] at keeps
    split
    · exact holds
    · rename_i items batch
      simp only [batch, Option.map_some, Option.getD_some] at keeps
      exact ingestItems_keeps library invariant results keeps 0 0 holds

/-- Every message of a batch was accepted by the parser. -/
theorem acceptedItems_valid {items : List Json} {message : ChatMessage}
    (member : message ∈ acceptedItems items) : message.Valid := by
  -- The parser accepted each message that the loop reached.
  induction items with
  | nil => simp [acceptedItems] at member
  | cons item rest ih =>
    unfold acceptedItems at member
    split at member
    · simp at member
    · rename_i parsed
      rcases List.mem_cons.mp member with rfl | later
      · exact parseMessage_valid parsed
      · exact ih later

/-- Every message a replicate request carries is valid. -/
theorem replicatedMessages_valid {request : HttpRequest} {message : ChatMessage}
    (member : message ∈ replicatedMessages library request) : message.Valid := by
  -- What a request carries was accepted by the parser.
  unfold replicatedMessages at member
  split at member
  · simp at member
  · rw [Option.mem_toList] at member
    exact parseMessage_valid member

/-- Every message a batch request carries is valid. -/
theorem synchronizedMessages_valid {request : HttpRequest} {message : ChatMessage}
    (member : message ∈ synchronizedMessages library request) : message.Valid := by
  -- What a batch carries was accepted by the parser, item by item.
  unfold synchronizedMessages at member
  split at member
  · simp at member
  · rename_i parsed reading
    cases batch : batchItems parsed with
    | none => simp [batch] at member
    | some items =>
      simp only [batch, Option.map_some, Option.getD_some] at member
      exact acceptedItems_valid member

end LesChat
