import LesChat.Http.Http
import LesChat.Service.MessageService

/-! The HTTP handlers that create, list, replicate and synchronize messages. -/

namespace LesChat

open Foundation

/--
The order a `std::unordered_map` is iterated in.

The standard leaves it open, so all that is known is that every entry is met once.
-/
structure IterationOrder where
  /-- The entries in the order the loop meets them. -/
  arrange : List (Bytes × Nat) → List (Bytes × Nat)
  /-- Nothing is left out or met twice. -/
  complete : ∀ entries, (arrange entries).Perm entries

/-- Iterating in the order of the table. -/
def IterationOrder.stored : IterationOrder := ⟨id, fun _ => List.Perm.refl _⟩

section Sorting

/-- The comparator of `get_messages`. -/
def messageLess (left right : ChatMessage) : Bool :=
  -- The author's clock comes first; the key of the message breaks ties.
  if left.createdAtMs ≠ right.createdAtMs then left.createdAtMs < right.createdAtMs
  else if left.origin ≠ right.origin then decide (bytesLess left.origin right.origin)
  else if left.sequence ≠ right.sequence then left.sequence < right.sequence
  else decide (bytesLess left.messageId right.messageId)

/-- `std::stable_sort` by that comparator. -/
def sortedMessages (messages : List ChatMessage) : List ChatMessage :=
  -- Stable: of two messages neither of which is less, the one stored first stays first.
  messages.mergeSort fun left right => !messageLess right left

end Sorting

section Handlers

variable (library : JsonC)

/-- `HttpApi::get_messages`. -/
def getMessages (messages : List ChatMessage) : HttpResponse :=
  let sorted := sortedMessages messages
  okResponse (serializeJson library (jsonObject [
    (ascii "messages", .array (sorted.map messageToJson)),
    (ascii "count", .int sorted.length)]))

/-- The body of a message to create, or the response that refuses it. -/
def messageBody (parsed : Json) : Except HttpResponse Bytes :=
  match parsed.get? (ascii "body") with
  | some (.string body) =>
    if body.length ≤ 0 then .error (badRequest (errorBody "message_empty"))
    else if body.length > maxMessageBytes then
      .error (payloadTooLarge "\x7b\"error\":\"message_too_large\",\"max_bytes\":2048\x7d")
    else if !isValidUtf8 body then
      .error (badRequest (errorBody "message_must_be_valid_utf8"))
    else .ok body
  | _ => .error (badRequest (errorBody "body_must_be_string"))

/-- The response to a created message. -/
def createdResponse (message : ChatMessage) : HttpResponse :=
  okResponse (serializeJson library (jsonObject [(ascii "message", messageToJson message)]))

/-- `HttpApi::create_message`. -/
def createMessage (now : Int64) (results : AddResults) (request : HttpRequest)
    (service : MessageService) : HttpResponse × MessageService :=
  -- Only this handler lets bytes follow the object.
  match readJsonObject library request maxRequestBytes false (errorBody "invalid_json") with
  | .error response => (response, service)
  | .ok parsed =>
    match messageBody parsed with
    | .error response => (response, service)
    | .ok body =>
      match createLocal library now results body service with
      -- What the call did to the store before it threw stays done.
      | (.error _, service) => (internalError, service)
      | (.ok message, service) => (createdResponse library message, service)

/-- `HttpApi::replicate_message`. -/
def replicateMessage (lookup : SqliteResult) (results : AddResults) (request : HttpRequest)
    (service : MessageService) : HttpResponse × MessageService :=
  match readJsonObject library request maxRequestBytes true (errorBody "invalid_message") with
  | .error response => (response, service)
  | .ok parsed =>
    match parseMessage parsed with
    | none => (badRequest (errorBody "invalid_message"), service)
    | some message =>
      match ingestReplica library lookup results message service with
      | (.error _, service) => (internalError, service)
      | (.ok true, service) => (okResponse (ascii (statusBody "accepted")), service)
      | (.ok false, service) => (okResponse (ascii (statusBody "duplicate")), service)

/-- The check both sync documents start with. -/
def hasHeader (type : String) (parsed : Json) : Bool :=
  (match parsed.get? (ascii "protocol") with
    | some (.int value) => jsonGetInt (.int value) == protocolVersion
    | _ => false) &&
  (match parsed.get? (ascii "type") with
    -- The text is compared as a C string.
    | some (.string text) => cString text == ascii type
    | _ => false)

/-- The `origins` object of a summary, built entry by entry. -/
def originsJson (order : IterationOrder) (summary : List (Bytes × Nat)) : Json :=
  jsonObject ((order.arrange summary).map fun entry =>
    -- The key is passed as a C string, and the number is cast to a signed one.
    (cString entry.1, .int (Int64.ofNat entry.2).toInt))

/-- A sync document with its header and its payload member. -/
def syncDocument (type : String) (member : String) (payload : Json) : Json :=
  jsonObject [
    (ascii "protocol", .int protocolVersion),
    (ascii "type", .string (ascii type)),
    (ascii member, payload)]

/-- The summary document, which `synchronize` sends and `sync_summary` answers with. -/
def summaryJson (order : IterationOrder) (summary : List (Bytes × Nat)) : Json :=
  syncDocument "sync_summary" "origins" (originsJson order summary)

/-- Whether a value is a summary document. -/
def isSummary (parsed : Json) : Bool :=
  hasHeader "sync_summary" parsed && ((parsed.get? (ascii "origins")).map jsonIsObject).getD false

/-- `HttpApi::sync_summary`, over a summary that could be read. -/
def syncSummary (order : IterationOrder) (request : HttpRequest) (service : MessageService) :
    HttpResponse :=
  match readJsonObject library request maxRequestBytes true
      (errorBody "invalid_sync_summary") with
  | .error response => response
  | .ok parsed =>
    if isSummary parsed then
      okResponse (serializeJson library
        (summaryJson order (sequenceSummary service.store.database)))
    else badRequest (errorBody "invalid_sync_summary")

/-- The items of a batch, unless the document is not one or has too many of them. -/
def batchItems (parsed : Json) : Option (List Json) :=
  if hasHeader "sync_messages" parsed then
    match parsed.get? (ascii "messages") with
    -- The whole batch is refused before its first message is looked at.
    | some (.array items) => if items.length > maxSyncBatchMessages then none else some items
    | _ => none
  else none

/-- The response to a batch of which so many messages were new. -/
def acceptedResponse (accepted : Nat) : HttpResponse :=
  okResponse (ascii "\x7b\"status\":\"accepted\",\"count\":" ++ decimal accepted ++ ascii "\x7d")

/-- The loop of `sync_messages`, from an index on and with a number of messages accepted before. -/
def ingestItems (results : Nat → AddResults) :
    List Json → (index accepted : Nat) → MessageService → HttpResponse × MessageService
  | [], _, accepted, service => (acceptedResponse accepted, service)
  | item :: rest, index, accepted, service =>
    match parseMessage item with
    -- Messages before a bad one stay ingested.
    | none => (badRequest (errorBody "invalid_sync_message"), service)
    | some message =>
      match ingestSync library (results index) message service with
      | (.error _, service) => (internalError, service)
      | (.ok inserted, service) =>
        ingestItems results rest (index + 1) (if inserted then accepted + 1 else accepted) service

/-- `HttpApi::sync_messages`. -/
def syncMessages (results : Nat → AddResults) (request : HttpRequest) (service : MessageService) :
    HttpResponse × MessageService :=
  match readJsonObject library request maxSyncRequestBytes true
      (errorBody "invalid_sync_messages") with
  | .error response => (response, service)
  | .ok parsed =>
    match batchItems parsed with
    | none => (badRequest (errorBody "invalid_sync_messages"), service)
    | some items => ingestItems library results items 0 0 service

end Handlers

end LesChat
