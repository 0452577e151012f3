import LesChat.Foundation.UnicodeOrder
import LesChat.Http.ReplicaLimit
import LesChat.Message.Utf8Exact
import LesChat.Web.Submissions

/-! What becomes of a post, and of the answers to a page: the laws of the bridge and its node. -/

namespace LesChat.ChatPage

open Foundation

section Identifiers

variable {browser : Browser}

/-- The identifier of a message, as a script sees it. -/
def shownId (browser : Browser) (message : ChatMessage) : JsString :=
  browser.decode (cString message.messageId)

/-- ASCII text has one code unit for each byte. -/
theorem decode_ascii (lawful : browser.Lawful) {text : Bytes}
    (small : ∀ byte ∈ text, byte.toNat < 0x80) : browser.decode text = asciiUnits text := by
  have characters : ∃ chars, text = encodeUtf8 chars ∧ encodeUtf16 chars = asciiUnits text := by
    -- The induction follows the bytes, each of which is a character of its own.
    induction text with
    | nil => exact ⟨[], rfl, rfl⟩
    | cons byte rest ih =>
      obtain ⟨chars, encoded, units⟩ := ih fun other member => small other (by simp [member])
      have code : byte.toNat < 0x80 := small byte (by simp)
      obtain ⟨character, same⟩ :=
        exists_char (show byte.toNat < 0x110000 by omega) (.inl (by omega))
      refine ⟨character :: chars, ?_, ?_⟩
      · have one := @utf8EncodeChar_one character (by omega)
        rw [encodeUtf8, List.flatMap_cons, one, same, encoded]
        simp [encodeUtf8]
      · have unit : utf16Units character = [byte.toUInt16] := by
          rw [utf16Units, same, if_pos (by omega)]
          congr 1
          apply UInt16.toNat_inj.mp
          simp
        rw [encodeUtf16, List.flatMap_cons, unit, asciiUnits, List.map_cons]
        exact congrArg _ units
  obtain ⟨chars, encoded, units⟩ := characters
  rw [encoded, lawful.decode_encodeUtf8, units, ← encoded]

/-- ASCII text is determined by its code units. -/
theorem asciiUnits_injective : Function.Injective asciiUnits := by
  -- Each byte becomes the code unit of the same number.
  apply List.map_injective_iff.mpr
  intro left right same
  apply UInt8.toNat_inj.mp
  simpa using congrArg UInt16.toNat same

/-- A byte of a node identifier is an ASCII character. -/
theorem isNodeIdByte_ascii {byte : UInt8} (permitted : isNodeIdByte byte = true) :
    byte.toNat < 0x80 := by
  -- Letters, digits and the marks between them are ASCII characters.
  simp only [isNodeIdByte, isAlnum, isDigit, Bool.or_eq_true, Bool.and_eq_true, decide_eq_true_eq,
    beq_iff_eq, UInt8.le_iff_toNat_le, ← UInt8.toNat_inj] at permitted
  simp at permitted
  omega

/-- An identifier that a node issued consists of ASCII characters. -/
theorem messageId_ascii {nodeId : Bytes} (valid : isValidNodeId nodeId = true) {sequence : Nat} :
    ∀ byte ∈ nodeId ++ 0x3A :: decimal sequence, byte.toNat < 0x80 := by
  -- The identifier is the node, a colon and a numeral.
  intro byte member
  rcases List.mem_append.mp member with inNode | inRest
  · exact isNodeIdByte_ascii (isValidNodeId_bytes valid inNode)
  · rcases List.mem_cons.mp inRest with rfl | inNumeral
    · decide
    · obtain ⟨_, high⟩ := (isDigit_iff byte).mp (isDigit_of_mem_decimal inNumeral)
      omega

/-- The identifier of a message some node built is shown as it is. -/
theorem shownId_built (lawful : browser.Lawful) {message : ChatMessage} (built : Built message) :
    shownId browser message = asciiUnits message.messageId := by
  -- The author was accepted, so its identifier is ASCII text without a NUL byte.
  obtain ⟨identity, accepted, builtBy⟩ := built
  have valid := ((checkIdentity_eq_ok identity).mp accepted.checked).1
  have terminated : 0 ∉ message.messageId := by
    rw [builtBy.messageId]
    exact fun member => (messageId_ordinary accepted member).2 rfl
  rw [shownId, cString_of_noNul terminated]
  apply decode_ascii lawful
  rw [builtBy.messageId]
  exact messageId_ascii valid

/-- Messages that were built are shown with the same identifier only when they have it. -/
theorem shownId_injective (lawful : browser.Lawful) {left right : ChatMessage}
    (leftBuilt : Built left) (rightBuilt : Built right)
    (same : shownId browser left = shownId browser right) : left.messageId = right.messageId := by
  -- Both identifiers are ASCII, and shown with one code unit for each byte.
  rw [shownId_built lawful leftBuilt, shownId_built lawful rightBuilt] at same
  exact asciiUnits_injective same

/-- No inherited name has a colon. -/
theorem colon_notMem_inheritedNames : ∀ name ∈ inheritedNames, (0x3A : UInt16) ∉ name := by
  -- The names are fixed.
  decide +kernel

/-- The identifier of a message some node built is neither empty nor an inherited name. -/
theorem shownId_ordinary (lawful : browser.Lawful) {message : ChatMessage}
    (built : Built message) :
    shownId browser message ≠ [] ∧ shownId browser message ∉ inheritedNames := by
  -- Every identifier has a colon, and no inherited name has one.
  have colon : (0x3A : UInt16) ∈ shownId browser message := by
    rw [shownId_built lawful built]
    obtain ⟨identity, _, builtBy⟩ := built
    rw [builtBy.messageId, asciiUnits, List.map_append, List.map_cons]
    exact List.mem_append_right _ (List.mem_cons_self)
  exact ⟨List.ne_nil_of_mem colon, fun inherited =>
    colon_notMem_inheritedNames _ inherited colon⟩

/-- An identifier of a node is shown as a text that is not empty. -/
theorem decode_nodeId_ne_nil (lawful : browser.Lawful) {identity : NodeIdentity}
    (accepted : identity.Accepted) :
    browser.decode identity.nodeId ≠ [] := by
  -- A valid identifier has at least one character, and each is shown as one code unit.
  have valid := ((checkIdentity_eq_ok identity).mp accepted.checked).1
  rw [decode_ascii lawful fun byte member => isNodeIdByte_ascii (isValidNodeId_bytes valid member)]
  have length := isValidNodeId_length valid
  simp only [asciiUnits, ne_eq, List.map_eq_nil_iff]
  intro empty
  rw [empty] at length
  simp at length

/-- An identifier of a node is shown as it is. -/
theorem origin_of_shown (decodes : browser.Lawful) {identity : NodeIdentity}
    (accepted : identity.Accepted)
    {message : ChatMessage} (built : Built message)
    (shown : (message.scripted browser).origin = browser.decode identity.nodeId) :
    message.origin = identity.nodeId := by
  -- Both identifiers are ASCII texts, which are shown with one code unit for each byte.
  obtain ⟨author, authorAccepted, builtBy⟩ := built
  have valid := ((checkIdentity_eq_ok author).mp authorAccepted.checked).1
  have own := ((checkIdentity_eq_ok identity).mp accepted.checked).1
  have small : ∀ {nodeId : Bytes}, isValidNodeId nodeId = true → ∀ byte ∈ nodeId,
      byte.toNat < 0x80 := fun valid byte member =>
    isNodeIdByte_ascii (isValidNodeId_bytes valid member)
  rw [builtBy.origin]
  have shown : browser.decode (cString message.origin) = browser.decode identity.nodeId := shown
  rw [builtBy.origin, cString_of_noNul (isValidNodeId_noNul valid),
    decode_ascii decodes (small valid), decode_ascii decodes (small own)] at shown
  exact asciiUnits_injective shown

/-- A body is shown as a text exactly when it is the text. -/
theorem body_of_shown (decodes : browser.Lawful) {message : ChatMessage} (built : Built message)
    {text : List Char} (shown : browser.decode message.body = encodeUtf16 text) :
    message.body = encodeUtf8 text := by
  -- The body was accepted, so it is the encoding of some characters.
  obtain ⟨_, _, builtBy⟩ := built
  obtain ⟨chars, encoded⟩ := (isValidUtf8_iff _).mp builtBy.accepted.utf8
  rw [encoded, decodes.decode_encodeUtf8] at shown
  rw [encoded, encodeUtf16_injective shown]

end Identifiers

section Bridge

variable {library : JsonC} {browser : Browser} {parseText : Bytes → Option Json}

/-- An object with one plain member is plain. -/
theorem plain_singleton {depth : Nat} {name : Bytes} {value : Json}
    (plain : Json.Plain depth value) (terminated : 0 ∉ name) :
    Json.Plain (depth + 1) (.object [(name, value)]) := by
  -- There is one member, so no two names collide.
  refine .object ?_ (by simp) ?_
  · intro member inMembers
    rw [List.mem_singleton.mp inMembers]
    exact plain
  · intro member inMembers
    rw [List.mem_singleton.mp inMembers]
    exact terminated

/-- The requests a client builds of a body are such posts. -/
theorem bodyRequest_posts (lawful : library.Lawful) : Posts library (bodyRequest library) := by
  intro body parsed _ reading
  have plain : Json.Plain 31 (createRequest body) :=
    plain_singleton (.string 30 body) (by decide +kernel)
  by_cases small : (serializeJson library (createRequest body)).length ≤ maxRequestBytes
  · have found := readJsonObject_serializeJson lawful plain rfl small false
      (errorBody "invalid_json")
    exact (Except.ok.inj (found.symm.trans reading)).symm
  · -- What is too long is not read at all.
    have refused := readJsonObject_tooLarge library (Nat.lt_of_not_le small) false
      (errorBody "invalid_json")
    have same : Except.error requestTooLarge = Except.ok parsed := refused.symm.trans reading
    simp at same

/-- The text of an object that can be read back reaches the page as the object. -/
theorem loadedReply_serializeJson (lawful : library.Lawful) {members : List (Bytes × Json)}
    (plain : Json.Plain 31 (.object members)) :
    loadedReply library (some (okResponse (serializeJson library (.object members)))) =
      some members := by
  -- The serializer's text parses completely into the object it was written for.
  have parsed : parseJson library (serializeJson library (.object members)) =
      ⟨.object members, true, _⟩ := lawful.parse_plainText _ rfl plain
  simp only [loadedReply, okResponse, ne_eq, not_true_eq_false, if_false, parsed]

/-- The bridge hands on the reply to a message that was created. -/
theorem callSend_createdResponse (lawful : library.Lawful) (message : ChatMessage) :
    callSend library (some (createdResponse library message)) =
      .object [(ascii "message", messageToJson message)] := by
  -- The reply is one object with one member, which is a plain value.
  have plain : Json.Plain 31 (.object [(ascii "message", messageToJson message)]) :=
    plain_singleton (plain_messageToJson 29 message) (by decide +kernel)
  have document : jsonObject [(ascii "message", messageToJson message)] =
      .object [(ascii "message", messageToJson message)] :=
    jsonObject_of_nodup (by simp)
  rw [createdResponse, document, callSend, loadedReply_serializeJson lawful plain]

/-- The bridge gives up on any other reply, and its answer says so. -/
theorem hasError_callSend (lawful : browser.Lawful) {response : Option HttpResponse}
    (failed : ∀ reply, response = some reply → reply.status ≠ 200) :
    hasError browser (normalizeRpcResult parseText (callSend library response)) = true := by
  -- No reply but a success is printed, and the bridge answers with an error of its own.
  have gaveUp : loadedReply library response = none := by
    cases response with
    | none => rfl
    | some reply => rw [loadedReply, if_pos (failed reply rfl)]
  have shown : browser.decode (ascii "daemon_unreachable") ≠ [] := by
    rw [decode_ascii lawful (by decide +kernel)]
    decide +kernel
  rw [callSend, gaveUp]
  show decide (browser.decode (ascii "daemon_unreachable") ≠ []) = true
  exact decide_eq_true shown

/-- The members of a history, as the bridge passes them on. -/
theorem callMessages_getMessages (lawful : library.Lawful) (running : Bool)
    {snapshot : List ChatMessage} (small : snapshot.length < 2 ^ 63) :
    callMessages library running (some (getMessages library snapshot)) = .object [
      (ascii "messages", .array ((sortedMessages snapshot).map messageToJson)),
      (ascii "count", .int (sortedMessages snapshot).length),
      (ascii "running", .bool running)] := by
  -- The two members are plain values, and neither has the name the bridge adds.
  have length : (sortedMessages snapshot).length = snapshot.length := List.length_mergeSort snapshot
  have plain : Json.Plain 31 (.object [
      (ascii "messages", .array ((sortedMessages snapshot).map messageToJson)),
      (ascii "count", .int (sortedMessages snapshot).length)]) := by
    refine .object ?_ (by simp only [List.map_cons, List.map_nil]; decide +kernel) ?_
    · intro member inMembers
      simp only [List.mem_cons, List.not_mem_nil, or_false] at inMembers
      rcases inMembers with rfl | rfl
      · refine .array fun item inItems => ?_
        obtain ⟨message, _, rfl⟩ := List.mem_map.mp inItems
        exact plain_messageToJson 28 message
      · exact .int 30 (by omega) (by omega)
    · intro member inMembers
      simp only [List.mem_cons, List.not_mem_nil, or_false] at inMembers
      rcases inMembers with rfl | rfl
      · exact (by decide +kernel : (0 : UInt8) ∉ ascii "messages")
      · exact (by decide +kernel : (0 : UInt8) ∉ ascii "count")
  have fresh : ascii "running" ∉ [(ascii "messages",
      Json.array ((sortedMessages snapshot).map messageToJson)),
      (ascii "count", .int (sortedMessages snapshot).length)].map Prod.fst := by
    simp only [List.map_cons, List.map_nil]
    decide +kernel
  rw [getMessages_eq, messagesDocument_eq, callMessages, loadedReply_serializeJson lawful plain]
  simp only [Keyed.upsert_of_notMem fresh, List.cons_append, List.nil_append]

/-- A page finds the messages of a history in the order of the daemon. -/
theorem scriptMessages_callMessages (lawful : library.Lawful) (running : Bool)
    {snapshot : List ChatMessage} (small : snapshot.length < 2 ^ 63) :
    scriptMessages browser (callMessages library running (some (getMessages library snapshot))) =
      some ((sortedMessages snapshot).map (·.scripted browser)) := by
  -- The member the bridge adds does not hide the list.
  have found := scriptMessages_messagesDocument browser snapshot
  rw [messagesDocument_eq] at found
  rw [callMessages_getMessages lawful running small]
  exact found

/-- What the bridge answers needs no unwrapping. -/
theorem normalizeRpcResult_callMessages (running : Bool) (response : Option HttpResponse) :
    normalizeRpcResult parseText (callMessages library running response) =
      callMessages library running response := by
  -- What the bridge prints is an object in each case, which is passed on as it is.
  unfold callMessages
  split <;> rfl

/-- The reply to a message that was created is reported as a success. -/
theorem sendSettled_createdResponse (format : Double → JsString) (lawful : library.Lawful)
    (message : ChatMessage) {composer : Composer} {body : List Char} {known : List JsString}
    (pending : composer.submission = some ⟨body, known, .send⟩) :
    composer.sendSettled format browser parseText
        (some (callSend library (some (createdResponse library message)))) =
      (composer.noteSent format (some (message.scripted browser))).settled := by
  -- The response has no error, and its message is the one that was created.
  have marked : composer.markSent format browser parseText
      (callSend library (some (createdResponse library message))) =
        some (composer.noteSent format (some (message.scripted browser))) := by
    have normal : normalizeRpcResult parseText (callSend library
        (some (createdResponse library message))) =
          .object [(ascii "message", messageToJson message)] := by
      rw [callSend_createdResponse lawful]
      rfl
    have noError : (Json.object [(ascii "message", messageToJson message)]).get?
        (ascii "error") = none := (Keyed.lookup_eq_none_iff _ _).mpr (by
      simp only [List.map_cons, List.map_nil]
      decide +kernel)
    have found : (Json.object [(ascii "message", messageToJson message)]).get?
        (ascii "message") = some (messageToJson message) := by
      simp [Json.get?, Keyed.lookup]
    rw [Composer.markSent_eq_some, normal, found, Option.bind_some, scriptMessage_messageToJson]
    exact ⟨by rw [hasError, noError], rfl⟩
  simp only [Composer.sendSettled, pending, Option.bind_some, marked]

/-- Every message a page finds in an answer was in the history. -/
theorem mem_historyMessages (lawful : library.Lawful) {running : Bool}
    {snapshot : Option (List ChatMessage)}
    (small : ∀ messages ∈ snapshot, messages.length < 2 ^ 63) {message : ScriptMessage}
    (member : message ∈ historyMessages library browser running snapshot) :
    ∃ messages ∈ snapshot, ∃ row ∈ messages, message = row.scripted browser := by
  cases snapshot with
  | none =>
    -- The bridge answers with an empty list.
    have empty : historyMessages library browser running none = [] := rfl
    rw [empty] at member
    simp at member
  | some messages =>
    rw [historyMessages, Option.map_some,
      scriptMessages_callMessages lawful running (small messages rfl)] at member
    obtain ⟨row, sorted, same⟩ := List.mem_map.mp member
    exact ⟨messages, rfl, row, List.mem_mergeSort.mp sorted, same.symm⟩

end Bridge

section Receiving

variable {library : JsonC} {request : Bytes → HttpRequest} {identity : NodeIdentity} {node : Node}

/-- What a post does to a node: it is refused, or its message is created and answered with. -/
inductive Received (library : JsonC) (identity : NodeIdentity) (body : Bytes) (node : Node) :
    Option HttpResponse × Node → Prop where
  /-- Nothing is acknowledged, and no reply reports a success. -/
  | refused (answer : Option HttpResponse × Node)
    (acknowledged : answer.2.acknowledged = node.acknowledged)
    (failed : ∀ reply, answer.1 = some reply → reply.status ≠ 200) :
    Received library identity body node answer
  /-- A message with the body is acknowledged, under an identity nothing had before. -/
  | created (message : ChatMessage) (after : Node)
    (acknowledged : after.acknowledged = node.acknowledged ++ [message])
    (same : message.body = body) (origin : message.origin = identity.nodeId)
    (fresh : ∀ row ∈ node.process.database.committed, row.messageId ≠ message.messageId) :
    Received library identity body node (some (createdResponse library message), after)

/-- A post leaves an honest node honest and takes nothing back. -/
theorem receivePost_honest (honest : node.Honest identity) (accepted : identity.Accepted)
    (unwrapped : ∀ service ∈ node.process.service?, service.nextSequence ≠ 2 ^ 64 - 1)
    (now : Int64) (results : AddResults) (body : Bytes) :
    (receivePost library request identity now results body node).2.Honest identity ∧
      node.Grows (receivePost library request identity now results body node).2 := by
  -- Only a body that was read and accepted reaches the service.
  obtain ⟨process, acknowledged⟩ := node
  cases process with
  | stopped database => exact ⟨honest, .refl _⟩
  | running service =>
    simp only [receivePost]
    split
    · exact ⟨honest, .refl _⟩
    · simp only [daemonStep]
      split
      · rename_i running decoded
        cases running
        exact ⟨honest.created accepted (unwrapped service rfl) now results
          (messageBody_eq_ok.mp decoded).2, afterCreate_grows library now results _ service _⟩
      · exact ⟨honest, .refl _⟩

/-- Each post is refused, or its message is created and answered with. -/
theorem receivePost_received (posts : Posts library request) (honest : node.Honest identity)
    (accepted : identity.Accepted) (now : Int64) (results : AddResults) {body : Bytes}
    (terminated : 0 ∉ body) :
    Received library identity body node
      (receivePost library request identity now results body node) := by
  cases running : node.process with
  | stopped database =>
    apply Received.refused
    · simp only [receivePost, running]
    · simp [receivePost, running]
  | running service =>
    have sound : service.Sound identity := by
      have whole := honest.acknowledges.sound
      rwa [running] at whole
    cases reading : readJsonObject library (request body) maxRequestBytes false
        (errorBody "invalid_json") with
    | error response =>
      apply Received.refused
      · simp only [receivePost, running, reading]
      · intro reply same
        simp only [receivePost, running, createMessage, reading, Option.some.injEq] at same
        subst same
        rcases readJsonObject_status library reading with rfl | rfl | rfl <;>
          simp [unsupportedMediaType, requestTooLarge, payloadTooLarge, badRequest]
    | ok parsed =>
      -- What is read is the object the bridge has made of the body.
      obtain rfl := posts body parsed terminated reading
      cases decoding : messageBody (createRequest body) with
      | error response =>
        apply Received.refused
        · simp only [receivePost, running, reading, daemonStep, decoding]
        · intro reply same
          simp only [receivePost, running, createMessage, reading, decoding,
            Option.some.injEq] at same
          subst same
          exact messageBody_status decoding
      | ok found =>
        have same : found = body := by
          have member := (messageBody_eq_ok.mp decoding).1
          simpa [createRequest, Json.get?, Keyed.lookup, eq_comm] using member
        subst same
        cases call : createLocal library now results found service with
        | mk outcome after =>
          cases outcome with
          | error error =>
            apply Received.refused
            · simp only [receivePost, running, reading, daemonStep, decoding, call,
                Node.afterCreate]
            · intro reply same
              simp only [receivePost, running, createMessage, reading, decoding, call,
                Option.some.injEq] at same
              subst same
              simp [internalError]
          | ok message =>
            have returned : (createLocal library now results found service).1 = .ok message := by
              rw [call]
            obtain ⟨built, _⟩ := createLocal_ok library returned
            have answer : receivePost library request identity now results found node =
                (some (createdResponse library message),
                  ⟨.running after, node.acknowledged ++ [message]⟩) := by
              simp only [receivePost, running, createMessage, reading, daemonStep, decoding, call,
                Node.afterCreate]
            rw [answer]
            refine .created message _ rfl (by rw [built]; rfl) ?_ ?_
            · rw [built, ← sound.named]
              rfl
            · intro row member
              have fresh := (honest.fresh accepted running row member).1
              rw [built]
              rw [← sound.named] at fresh
              exact fresh

end Receiving

end LesChat.ChatPage
