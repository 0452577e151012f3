import LesChat.Http.HttpApiLaws
import LesChat.Service.LocalMessage
import LesChat.Service.MessageServiceLaws

/-! Which created messages the peers accept by replication. -/

namespace LesChat

open Foundation

/-- A payload `replicate_message` accepts: within the limit, completely parsed, and a message. -/
structure ReplicaAccepted (library : JsonC) (payload : Bytes) : Prop where
  /-- The payload is within the limit the handler reads with. -/
  small : payload.length ≤ maxRequestBytes
  /-- The payload parses without an error, and completely. -/
  complete : (parseJson library payload).success = true ∧
    (parseJson library payload).parseEnd = payload.length
  /-- The value is a message. -/
  message : ∃ message, parseMessage (parseJson library payload).object = some message

/-- A value that is a message is an object. -/
theorem jsonIsObject_of_parseMessage {object : Json} {message : ChatMessage}
    (parsed : parseMessage object = some message) : jsonIsObject object = true := by
  -- Any other value has no member to begin with.
  cases object with
  | object members => rfl
  | _ => simp [parseMessage, jsonGetString, Json.get?] at parsed

/-- An accepted payload is ingested by every peer it reaches. -/
theorem ReplicaAccepted.ingested {library : JsonC} {payload : Bytes}
    (accepted : ReplicaAccepted library payload) :
    ∃ message, replicatedMessages library (jsonRequest payload) = [message] := by
  -- Every check on the way to the message is passed.
  obtain ⟨small, ⟨success, complete⟩, message, parsed⟩ := accepted
  have within : ¬maxRequestBytes < payload.length := Nat.not_lt.mpr small
  refine ⟨message, ?_⟩
  simp [replicatedMessages, readJsonObject, readRequestBody, within, success, complete,
    jsonIsObject_of_parseMessage parsed, parsed]

/-- The payload of a message that is neither too large nor numbered zero is accepted, and no other. -/
theorem replicaAccepted_iff {library : JsonC} (lawful : library.Lawful) {identity : NodeIdentity}
    (accepted : identity.Accepted) {sequence : Nat} (inRange : sequence ≤ maxInt64) (now : Int64)
    {body : Bytes} (acceptedBody : AcceptedBody body) :
    ReplicaAccepted library
        (serializeJson library (messageToJson (localMessage identity sequence now body))) ↔
      1 ≤ sequence ∧ localMessageSize library identity sequence now body ≤ maxRequestBytes := by
  have size := serializeJson_messageToJson_length lawful (localMessage identity sequence now body)
  rw [messageSize_localMessage lawful accepted inRange] at size
  -- The payload parses completely into the object it was written for.
  have parsed : parseJson library (serializeJson library
      (messageToJson (localMessage identity sequence now body))) = _ :=
    lawful.parse_plainText _ (by rw [messageToJson_eq]; rfl) (plain_messageToJson 30 _)
  constructor
  · intro both
    obtain ⟨small, _, message, read⟩ := both
    -- A message that was parsed has a positive sequence, and it is the one that was sent.
    rw [parsed] at read
    exact ⟨localMessage_sequence_pos inRange read, size ▸ small⟩
  · intro both
    obtain ⟨low, small⟩ := both
    refine ⟨size ▸ small, ?_, localMessage identity sequence now body, ?_⟩
    · rw [parsed]
      exact ⟨rfl, rfl⟩
    · rw [parsed]
      exact parseMessage_localMessage accepted low inRange now acceptedBody

/--
Which payloads of created messages the peers accept.

Every request that is answered with success broadcasts one payload, and the peers accept it
exactly when the counter had not wrapped around and the encoded message is within their limit.
-/
theorem createMessage_replicated {library : JsonC} (lawful : library.Lawful)
    {service : MessageService} (accepted : service.identity.Accepted) {now : Int64}
    {results : AddResults} {request : HttpRequest}
    (answered : (createMessage library now results request service).1.status = 200) :
    ∃ parsed body payload,
      readJsonObject library request maxRequestBytes false (errorBody "invalid_json") =
        .ok parsed ∧
      messageBody parsed = .ok body ∧
      (createMessage library now results request service).2.broadcasts =
        service.broadcasts ++ [payload] ∧
      (ReplicaAccepted library payload ↔ 1 ≤ service.nextSequence ∧
        localMessageSize library service.identity service.nextSequence now body ≤
          maxRequestBytes) := by
  obtain ⟨parsed, body, message, reading, decoding, returned, after⟩ :=
    createMessage_ok library answered
  obtain ⟨built, inserted, returnedAdd⟩ := createLocal_ok library returned
  -- The store only takes sequences in range, so the call could not have returned otherwise.
  have added := add_added results (service.nextMessage now body) service.store
  rw [returnedAdd] at added
  have inRange : service.nextSequence ≤ maxInt64 := added.inRange
  refine ⟨parsed, body, serializeJson library (messageToJson message), reading, decoding, ?_, ?_⟩
  · rw [after, createLocal_broadcasts, returned]
  · rw [built]
    exact replicaAccepted_iff lawful accepted inRange now (messageBody_eq_ok.mp decoding).2

/-- The request a client creates a message with. -/
def bodyRequest (library : JsonC) (body : Bytes) : HttpRequest :=
  jsonRequest (serializeJson library (.object [(ascii "body", .string body)]))

/-- A client's request is read back when its escaped body leaves room for the envelope. -/
theorem bodyRequest_read {library : JsonC} (lawful : library.Lawful) {body : Bytes}
    (small : Json.escapedLength library.escape body + 11 ≤ maxRequestBytes) :
    readJsonObject library (bodyRequest library body) maxRequestBytes false
      (errorBody "invalid_json") = .ok (.object [(ascii "body", .string body)]) := by
  refine readJsonObject_serializeJson lawful ?_ rfl ?_ _ _
  · refine .object ?_ (by simp) ?_
    · intro member inMembers
      rw [List.mem_singleton.mp inMembers]
      exact .string 30 body
    · intro member inMembers
      rw [List.mem_singleton.mp inMembers]
      exact (by decide +kernel : (0 : UInt8) ∉ ascii "body")
  · -- Six bytes of name, a colon, two braces and two quotes surround the body.
    have name : Json.escapedLength library.escape (ascii "body") = 4 :=
      lawful.escapedLength_ascii (by decide +kernel)
    rw [serializeJson, Json.plainText_object_length]
    simp only [List.map_cons, List.map_nil, List.sum_cons, List.sum_nil, List.length_cons,
      List.length_nil, Json.plainText_string_length, name]
    omega

/-- On a new file, a client's request creates and broadcasts its message when no call fails. -/
theorem createMessage_bodyRequest {library : JsonC} (lawful : library.Lawful)
    (identity : NodeIdentity) (now : Int64) {body : Bytes} (acceptedBody : AcceptedBody body)
    (small : Json.escapedLength library.escape body + 11 ≤ maxRequestBytes) :
    (createMessage library now {} (bodyRequest library body)
        (MessageService.initial identity)).1.status = 200 ∧
      (createMessage library now {} (bodyRequest library body)
        (MessageService.initial identity)).2.broadcasts =
        [serializeJson library (messageToJson (localMessage identity 1 now body))] := by
  have decoded : messageBody (.object [(ascii "body", .string body)]) = .ok body :=
    messageBody_eq_ok.mpr ⟨by simp [Json.get?, Keyed.lookup], acceptedBody⟩
  -- The first message of a new store has nothing to collide with.
  obtain ⟨inserted, added⟩ : ∃ inserted,
      (add {} (localMessage identity 1 now body) MessageStore.empty).1 = .ok inserted :=
    add_returns rfl (show 1 ≤ maxInt64 by decide) MessageStore.empty
  have returned : (createLocal library now {} body (MessageService.initial identity)).1 =
      .ok (localMessage identity 1 now body) := by
    rw [createLocal_result]
    simp only [MessageService.nextMessage, MessageService.initial, added, Except.map]
  have broadcast := createLocal_broadcasts library now {} body (MessageService.initial identity)
  rw [returned] at broadcast
  cases call : createLocal library now {} body (MessageService.initial identity) with
  | mk outcome after =>
    rw [call] at returned broadcast
    simp only at returned
    subst returned
    simp only [createMessage, bodyRequest_read lawful small, decoded, call]
    exact ⟨rfl, broadcast⟩

/-- A greeting is broadcast, and accepted by every peer. -/
theorem createMessage_replicated_greeting :
    ∃ payload, (createMessage plainJsonC 0 {} (bodyRequest plainJsonC (ascii "hello"))
        (MessageService.initial ⟨ascii "a", ascii "Alice"⟩)).2.broadcasts = [payload] ∧
      ReplicaAccepted plainJsonC payload := by
  have acceptedBody : AcceptedBody (ascii "hello") := ⟨by decide +kernel, by decide +kernel⟩
  have accepted : NodeIdentity.Accepted ⟨ascii "a", ascii "Alice"⟩ :=
    ⟨by decide +kernel, by decide +kernel⟩
  -- The body that is read is the greeting, whose message is short.
  obtain ⟨parsed, body, payload, reading, decoding, broadcast, limit⟩ :=
    createMessage_replicated plainJsonC_lawful accepted (createMessage_bodyRequest
      plainJsonC_lawful ⟨ascii "a", ascii "Alice"⟩ 0 acceptedBody (by decide +kernel)).1
  rw [bodyRequest_read plainJsonC_lawful (by decide +kernel), Except.ok.injEq] at reading
  subst reading
  obtain rfl : ascii "hello" = body := by
    simpa [Json.get?, Keyed.lookup] using (messageBody_eq_ok.mp decoding).1
  exact ⟨payload, broadcast, limit.mpr (by decide +kernel)⟩

/-- A body of two thousand quotes is accepted from a client and refused by every peer. -/
theorem createMessage_quotes :
    ∃ payload, (createMessage plainJsonC 0 {} (bodyRequest plainJsonC (List.replicate 2000 0x22))
        (MessageService.initial ⟨ascii "a", ascii "Alice"⟩)).1.status = 200 ∧
      (createMessage plainJsonC 0 {} (bodyRequest plainJsonC (List.replicate 2000 0x22))
        (MessageService.initial ⟨ascii "a", ascii "Alice"⟩)).2.broadcasts = [payload] ∧
      ¬ReplicaAccepted plainJsonC payload := by
  have escaped : Json.escapedLength plainJsonC.escape (List.replicate 2000 0x22) = 4000 := by
    rw [Json.escapedLength_replicate]
    decide +kernel
  have acceptedBody : AcceptedBody (List.replicate 2000 0x22) := by
    refine ⟨by rw [List.length_replicate]; decide, isValidUtf8_ascii fun byte member => ?_⟩
    rw [List.eq_of_mem_replicate member]
    decide
  have accepted : NodeIdentity.Accepted ⟨ascii "a", ascii "Alice"⟩ :=
    ⟨by decide +kernel, by decide +kernel⟩
  obtain ⟨answered, broadcast⟩ := createMessage_bodyRequest plainJsonC_lawful
    ⟨ascii "a", ascii "Alice"⟩ 0 acceptedBody (by rw [escaped]; decide)
  refine ⟨_, answered, broadcast, fun taken => ?_⟩
  -- The envelope adds 107 bytes to the escaped body, eleven more than there is room for.
  have limit := (replicaAccepted_iff plainJsonC_lawful accepted (by decide) 0 acceptedBody).mp taken
  rw [localMessageSize, escaped] at limit
  exact absurd limit.2 (by decide +kernel)

end LesChat
