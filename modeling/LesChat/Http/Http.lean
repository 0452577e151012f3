import LesChat.Message.JsonC

/-! Requests and responses, and reading a bounded JSON object out of a request. -/

namespace LesChat

open Foundation

/-- What a handler sees of a request. -/
structure HttpRequest where
  /-- The `Content-Type` header, when there is one. -/
  contentType : Option Bytes
  /-- The body received. -/
  body : Bytes

/-- What a handler sends back, always as JSON. -/
structure HttpResponse where
  /-- The status code. -/
  status : Nat
  /-- The reason phrase. -/
  reason : String
  /-- The body sent. -/
  body : Bytes
deriving DecidableEq

/-- A successful response. -/
def okResponse (body : Bytes) : HttpResponse := ⟨200, "OK", body⟩

/-- A response to a request that cannot be served as it is. -/
def badRequest (body : String) : HttpResponse := ⟨400, "Bad Request", ascii body⟩

/-- A response to content that is too long. -/
def payloadTooLarge (body : String) : HttpResponse := ⟨413, "Payload Too Large", ascii body⟩

/-- The JSON text that names an error. -/
def errorBody (error : String) : String := "\x7b\"error\":\"" ++ error ++ "\"\x7d"

/-- The JSON text that reports a status. -/
def statusBody (status : String) : String := "\x7b\"status\":\"" ++ status ++ "\"\x7d"

/-- How `handle_request` answers a `std::length_error`. -/
def requestTooLarge : HttpResponse := payloadTooLarge (errorBody "request_too_large")

/-- How `handle_request` answers any other exception. -/
def internalError : HttpResponse :=
  ⟨500, "Internal Server Error", ascii (errorBody "internal_error")⟩

/-- `send_unsupported_media_type`. -/
def unsupportedMediaType : HttpResponse :=
  ⟨415, "Unsupported Media Type", ascii (errorBody "content_type_must_be_application_json")⟩

/-- `has_json_content_type`: the header starts with the media type. -/
def hasJsonContentType (request : HttpRequest) : Bool :=
  match request.contentType with
  -- Parameters such as a charset may follow.
  | some value => (ascii "application/json").isPrefixOf value
  | none => false

/-- The request every sender in the repository makes. -/
def jsonRequest (payload : Bytes) : HttpRequest := ⟨some (ascii "application/json"), payload⟩

/-- `read_request_body`, with its exception as the response it is turned into. -/
def readRequestBody (request : HttpRequest) (limit : Nat) : Except HttpResponse Bytes :=
  if request.body.length > limit then .error requestTooLarge else .ok request.body

/-- `read_json_object`: the object in a request, or the response that was sent instead. -/
def readJsonObject (library : JsonC) (request : HttpRequest) (limit : Nat) (requireComplete : Bool)
    (invalidJson : String) : Except HttpResponse Json :=
  if !hasJsonContentType request then .error unsupportedMediaType
  else
    match readRequestBody request limit with
    | .error response => .error response
    | .ok body =>
      -- Bytes after the object are no error of the parser: they show as an early end.
      let parsed := parseJson library body
      if !parsed.success || !jsonIsObject parsed.object ||
          (requireComplete && parsed.parseEnd != body.length) then
        .error (badRequest invalidJson)
      else .ok parsed.object

/-- The senders' requests have the media type the handlers ask for. -/
@[simp] theorem hasJsonContentType_jsonRequest (payload : Bytes) :
    hasJsonContentType (jsonRequest payload) = true := by
  -- The request names the type the handlers ask for.
  simp [hasJsonContentType, jsonRequest]

/-- The senders' requests carry their payload as it is. -/
@[simp] theorem jsonRequest_body (payload : Bytes) : (jsonRequest payload).body = payload := rfl

/-- A request over its limit is refused before it is parsed. -/
theorem readJsonObject_tooLarge (library : JsonC) {payload : Bytes} {limit : Nat}
    (large : limit < payload.length) (requireComplete : Bool) (invalidJson : String) :
    readJsonObject library (jsonRequest payload) limit requireComplete invalidJson =
      .error requestTooLarge := by
  -- The length is checked before the body is parsed.
  simp [readJsonObject, readRequestBody, large]

/-- A plain object within the limit is read back as it was written. -/
theorem readJsonObject_serializeJson {library : JsonC} (lawful : library.Lawful) {value : Json}
    (plain : Json.Plain 31 value) (object : jsonIsObject value = true) {limit : Nat}
    (small : (serializeJson library value).length ≤ limit) (requireComplete : Bool)
    (invalidJson : String) :
    readJsonObject library (jsonRequest (serializeJson library value)) limit requireComplete
      invalidJson = .ok value := by
  -- The serializer's text parses completely into the value it was written for.
  have parsed : parseJson library (serializeJson library value) =
      ⟨value, true, (serializeJson library value).length⟩ := 
    lawful.parse_plainText value object plain
  have within : ¬limit < (serializeJson library value).length := Nat.not_lt.mpr small
  simp [readJsonObject, readRequestBody, within, parsed, object]

end LesChat
