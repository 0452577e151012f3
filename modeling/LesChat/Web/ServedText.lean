import LesChat.Http.HttpApiLaws
import LesChat.Message.Utf8Exact
import LesChat.Service.RoundTrip
import LesChat.Sync.SyncService
import LesChat.Web.EventFraming

/-! Which of the texts a node serves are valid UTF-8. -/

namespace LesChat

open Foundation

/-- The short texts of a message, as they are written, are valid UTF-8. -/
structure ChatMessage.TextsUtf8 (message : ChatMessage) : Prop where
  /-- The identifier, up to its first NUL byte. -/
  messageId : isValidUtf8 (cString message.messageId) = true
  /-- The origin, up to its first NUL byte. -/
  origin : isValidUtf8 (cString message.origin) = true
  /-- The callsign, up to its first NUL byte. -/
  callsign : isValidUtf8 (cString message.callsign) = true

section Served

variable (library : JsonC)

/-- The texts a node with certain messages serves. -/
inductive Served (messages : List ChatMessage) : Bytes → Prop where
  /-- The answer to a request for all messages. -/
  | history : Served messages (getMessages library messages).body
  /-- The payload of a message's event. -/
  | event {message : ChatMessage} (listed : message ∈ messages) :
    Served messages (EventStream.payload (ascii "message") (messageData library message))
  /-- The payload a local message is replicated with. -/
  | replica {identity : NodeIdentity} {sequence : Nat} {now : Int64} {body : Bytes}
    (listed : localMessage identity sequence now body ∈ messages) :
    Served messages (messageData library (localMessage identity sequence now body))
  /-- The batch sent in reply to a summary, whatever the summary is. -/
  | batch {summary text : Bytes} (sent : sendMissing library messages summary = .ok (some text)) :
    Served messages text

variable {library}

/-- The library escapes ASCII bytes as ASCII text, and no others. -/
theorem JsonC.Lawful.asciiEscape (lawful : library.Lawful) : AsciiEscape library.escape := by
  constructor
  · intro byte small
    refine ⟨List.length_pos_iff.mp (lawful.escape_length byte).1, ?_⟩
    intro written member
    by_cases escaped : isSpecial byte = true ∨ byte < 0x20
    · have bound := (lawful.escape_printable byte escaped written member).2
      have value := UInt8.lt_iff_toNat_lt.mp bound
      simp only [UInt8.reduceToNat] at value
      omega
    · simp only [not_or, Bool.not_eq_true] at escaped
      rw [lawful.escape_other byte escaped.1 escaped.2, List.mem_singleton] at member
      rwa [member]
  · intro byte large
    have noControl : ¬byte < 0x20 := by
      rw [UInt8.lt_iff_toNat_lt]
      simp only [UInt8.reduceToNat]
      omega
    have noSpecial : isSpecial byte = false := by
      -- The three special bytes are ASCII.
      simp only [isSpecial, Bool.or_eq_false_iff, beq_eq_false_iff_ne, ne_eq, ← UInt8.toNat_inj,
        UInt8.reduceToNat]
      omega
    exact lawful.escape_other byte noSpecial noControl

/-- Serialized text is valid UTF-8 exactly when every text of the value is. -/
theorem isValidUtf8_serializeJson (lawful : library.Lawful) (value : Json) :
    isValidUtf8 (serializeJson library value) = true ↔
      ∀ text ∈ value.strings, isValidUtf8 text = true := by
  -- Escaping and punctuation are ASCII, so only the texts matter.
  simp only [isValidUtf8_iff]
  exact Json.wellFormedUtf8_plainText lawful.asciiEscape value

/-- The parts of a storable message that were checked, or are fixed. -/
theorem Storable.utf8 {message : ChatMessage} (storable : Storable message) :
    message.channel = defaultChannel ∧ isValidUtf8 message.body = true := by
  -- Parser and service both check the body, and both fix the channel.
  cases storable with
  | parsed object _ read =>
    have valid := parseMessage_valid read
    exact ⟨valid.channel_eq, valid.body_utf8⟩
  | created identity accepted sequence counted now body acceptedBody =>
    exact ⟨rfl, acceptedBody.utf8⟩

/-- A storable message is written as valid UTF-8 exactly when its short texts are. -/
theorem messageStrings_utf8 {message : ChatMessage} (storable : Storable message) :
    (∀ text ∈ (messageToJson message).strings, isValidUtf8 text = true) ↔ message.TextsUtf8 := by
  obtain ⟨channel, body⟩ := storable.utf8
  have names : ∀ name ∈ ["sequence", "id", "callsign", "channel", "created_at_ms", "body",
      "origin"], isValidUtf8 (ascii name) = true := by decide +kernel
  have fixed : isValidUtf8 (cString defaultChannel) = true := by decide +kernel
  simp only [List.forall_mem_cons] at names
  obtain ⟨sequence, id, callsign, channelName, createdAt, bodyName, origin, _⟩ := names
  rw [messageToJson_eq]
  simp only [Json.strings, Json.memberStrings, List.forall_mem_cons, List.forall_mem_append,
    List.not_mem_nil, false_implies, implies_true, sequence, id, callsign, channelName, createdAt,
    bodyName, origin, channel, fixed, body, true_and, and_true]
  -- What is left are the three short texts.
  constructor
  · intro texts
    exact ⟨texts.1, texts.2.2, texts.2.1⟩
  · intro texts
    exact ⟨texts.messageId, texts.callsign, texts.origin⟩

/-- The text of a storable message is valid UTF-8 exactly when its short texts are. -/
theorem isValidUtf8_messageData (lawful : library.Lawful) {message : ChatMessage}
    (storable : Storable message) :
    isValidUtf8 (messageData library message) = true ↔ message.TextsUtf8 := by
  -- The texts of the document are those of the message.
  rw [messageData, isValidUtf8_serializeJson lawful, messageStrings_utf8 storable]

/-- The payload of an event is valid UTF-8 exactly when its data is. -/
theorem isValidUtf8_payload (data : Bytes) :
    isValidUtf8 (EventStream.payload (ascii "message") data) = true ↔ isValidUtf8 data = true := by
  -- The data stands between two nonempty blocks of ASCII.
  simp only [isValidUtf8_iff]
  have front : ascii "event: " ++ ascii "message" ++ ascii "\ndata: " ≠ [] ∧
      ∀ byte ∈ ascii "event: " ++ ascii "message" ++ ascii "\ndata: ", byte.toNat < 0x80 := by
    decide +kernel
  have back : ascii "\n\n" ≠ [] ∧ ∀ byte ∈ ascii "\n\n", byte.toNat < 0x80 := by
    decide +kernel
  have inner : WellFormedUtf8
      ([] ++ (ascii "event: " ++ ascii "message" ++ ascii "\ndata: ") ++ data) ↔
      WellFormedUtf8 [] ∧ WellFormedUtf8 data := wellFormedUtf8_around front.1 front.2
  have outer : WellFormedUtf8 (ascii "event: " ++ ascii "message" ++ ascii "\ndata: " ++ data ++
      ascii "\n\n" ++ []) ↔ WellFormedUtf8 (ascii "event: " ++ ascii "message" ++
        ascii "\ndata: " ++ data) ∧ WellFormedUtf8 [] := wellFormedUtf8_around back.1 back.2
  simp only [List.append_nil, wellFormedUtf8_nil, and_true, true_and, List.nil_append]
    at inner outer
  rw [EventStream.payload, outer, inner]

/-- The array of several messages holds the texts of all of them. -/
theorem arrayStrings_utf8 {messages : List ChatMessage}
    (storable : ∀ message ∈ messages, Storable message) :
    (∀ text ∈ (Json.array (messages.map messageToJson)).strings, isValidUtf8 text = true) ↔
      ∀ message ∈ messages, message.TextsUtf8 := by
  simp only [Json.strings, Json.mem_itemStrings, List.mem_map]
  constructor
  · -- Every message brings its texts into the document.
    intro texts message member
    exact (messageStrings_utf8 (storable message member)).mp fun text inMessage =>
      texts text ⟨_, ⟨message, member, rfl⟩, inMessage⟩
  · -- Every text of the document is one of a message.
    intro texts text found
    obtain ⟨item, ⟨message, member, same⟩, inItem⟩ := found
    rw [← same] at inItem
    exact (messageStrings_utf8 (storable message member)).mpr (texts message member) text inItem

/-- The answer with all messages is valid UTF-8 exactly when the short texts of all of them are. -/
theorem isValidUtf8_getMessages (lawful : library.Lawful) {messages : List ChatMessage}
    (storable : ∀ message ∈ messages, Storable message) :
    isValidUtf8 (getMessages library messages).body = true ↔
      ∀ message ∈ messages, message.TextsUtf8 := by
  have names : isValidUtf8 (ascii "messages") = true ∧ isValidUtf8 (ascii "count") = true := by
    decide +kernel
  have sorted : ∀ message, message ∈ sortedMessages messages ↔ message ∈ messages :=
    fun message => List.mem_mergeSort
  have array := arrayStrings_utf8 fun message member =>
    storable message ((sorted message).mp member)
  -- Sorting keeps the messages, and the count holds no text.
  rw [getMessages_eq, okResponse, isValidUtf8_serializeJson lawful, messagesDocument_eq,
    Json.strings]
  simp only [Json.memberStrings, List.cons_append, List.forall_mem_cons, List.forall_mem_append,
    names, true_and, array, sorted]
  simp [Json.strings]

/-- A batch of storable messages with valid short texts is valid UTF-8. -/
theorem isValidUtf8_batch (lawful : library.Lawful) {messages : List ChatMessage}
    (storable : ∀ message ∈ messages, Storable message)
    (texts : ∀ message ∈ messages, message.TextsUtf8) :
    isValidUtf8 (serializeJson library (batchJson (messages.map messageToJson))) = true := by
  -- Around the messages there are only fixed names.
  have names : ∀ name ∈ ["protocol", "type", "sync_messages", "messages"],
      isValidUtf8 (ascii name) = true := by decide +kernel
  simp only [List.forall_mem_cons] at names
  obtain ⟨protocol, type, kind, member, _⟩ := names
  have array := (arrayStrings_utf8 storable).mpr texts
  rw [isValidUtf8_serializeJson lawful, batchJson_eq, Json.strings]
  simp only [Json.memberStrings, List.cons_append, List.forall_mem_cons, List.forall_mem_append,
    protocol, type, member, true_and]
  simpa [Json.strings, kind] using array

/--
Everything a node serves is valid UTF-8 exactly when the identifier, the origin and the callsign of
every message are, each up to its first NUL byte; bodies always are.
-/
theorem served_utf8_iff (lawful : library.Lawful) {messages : List ChatMessage}
    (storable : ∀ message ∈ messages, Storable message) :
    (∀ text, Served library messages text → isValidUtf8 text = true) ↔
      ∀ message ∈ messages, message.TextsUtf8 := by
  constructor
  · -- The history alone contains the texts of all messages.
    intro served
    exact (isValidUtf8_getMessages lawful storable).mp (served _ .history)
  · intro texts text served
    cases served with
    | history => exact (isValidUtf8_getMessages lawful storable).mpr texts
    | event listed =>
      rw [isValidUtf8_payload]
      exact (isValidUtf8_messageData lawful (storable _ listed)).mpr (texts _ listed)
    | replica listed =>
      exact (isValidUtf8_messageData lawful (storable _ listed)).mpr (texts _ listed)
    | batch sent =>
      -- A batch carries some of the messages.
      obtain ⟨_, same⟩ := sendMissing_eq_some sent
      rw [same]
      exact isValidUtf8_batch lawful
        (fun message member => storable message (mem_of_mem_missingMessages member))
        (fun message member => texts message (mem_of_mem_missingMessages member))

/-- A greeting is served as valid UTF-8. -/
theorem served_utf8_greeting :
    let message : ChatMessage := ⟨1, ascii "a:1", ascii "a", ascii "Alice", defaultChannel, 0,
      ascii "hello"⟩
    ∀ text, Served plainJsonC [message] text → isValidUtf8 text = true := by
  -- All three texts of the greeting are ASCII.
  intro message
  have storable : Storable message := .parsed (messageToJson message) message (by decide +kernel)
  refine (served_utf8_iff plainJsonC_lawful (by simpa using storable)).mpr ?_
  intro listed member
  rw [List.mem_singleton.mp member]
  exact ⟨by decide +kernel, by decide +kernel, by decide +kernel⟩

/-- A callsign of one byte that is no character is accepted, and makes the whole history invalid. -/
theorem served_invalid_callsign :
    let message : ChatMessage := ⟨1, ascii "a:1", ascii "a", [0xFF], defaultChannel, 0,
      ascii "hello"⟩
    (∃ object, parseMessage object = some message) ∧ Served plainJsonC [message]
        (getMessages plainJsonC [message]).body ∧
      isValidUtf8 (getMessages plainJsonC [message]).body = false := by
  -- The callsign is a byte that no character is encoded with.
  intro message
  have read : parseMessage (messageToJson message) = some message := by decide +kernel
  have sorted : sortedMessages [message] = [message] := List.mergeSort_singleton message
  refine ⟨⟨messageToJson message, read⟩, .history, ?_⟩
  simp only [getMessages, sorted]
  decide +kernel

end Served

end LesChat
