import LesChat.Foundation.Double
import LesChat.Foundation.Unicode
import LesChat.Http.HttpApiLaws

/-! What the scripts of both pages get out of an answer with messages. -/

namespace LesChat

open Foundation

/-- A JavaScript string: UTF-16 code units, in which surrogates may also stand alone. -/
abbrev JsString := List UInt16

/-- A browser, which decodes the texts of an answer. -/
structure Browser where
  /-- The string a text becomes; bytes that are not UTF-8 are replaced in some way. -/
  decode : Bytes → JsString

/-- The documented behaviour of a browser. -/
structure Browser.Lawful (browser : Browser) : Prop where
  /-- Well-formed text becomes its characters. -/
  decode_encodeUtf8 : ∀ chars, browser.decode (encodeUtf8 chars) = encodeUtf16 chars

/-- A browser that replaces a text that is not well-formed as a whole. -/
def plainBrowser : Browser where
  decode text :=
    match text.toByteArray.utf8Decode? with
    | some chars => encodeUtf16 chars.toList
    | none => [0xFFFD]

/-- That browser behaves as documented. -/
theorem plainBrowser_lawful : plainBrowser.Lawful := by
  -- Lean decodes what it has encoded.
  constructor
  intro chars
  have decoded : (encodeUtf8 chars).toByteArray.utf8Decode? = some chars.toArray :=
    List.utf8Decode?_utf8Encode
  simp only [plainBrowser, decoded]

/-- A message as a script finds it in an answer. -/
structure ScriptMessage where
  /-- The `id` member. -/
  id : JsString
  /-- The `origin` member. -/
  origin : JsString
  /-- The `callsign` member. -/
  callsign : JsString
  /-- The `body` member. -/
  body : JsString
  /-- The `sequence` member. -/
  sequence : Double
  /-- The `created_at_ms` member. -/
  createdAtMs : Double
deriving DecidableEq

section Answers

variable (browser : Browser)

/-- A string member of an item, decoded. -/
def scriptString (item : Json) (name : String) : Option JsString :=
  match item.get? (ascii name) with
  | some (.string text) => some (browser.decode text)
  | _ => none

/-- An integer member of an item, rounded to a number. -/
def scriptNumber (item : Json) (name : String) : Option Double :=
  match item.get? (ascii name) with
  | some (.int value) => some (Double.ofInt value)
  | _ => none

/-- An item of the answer, if it has the members of a message. -/
def scriptMessage (item : Json) : Option ScriptMessage := do
  let id ← scriptString browser item "id"
  let origin ← scriptString browser item "origin"
  let callsign ← scriptString browser item "callsign"
  let body ← scriptString browser item "body"
  let sequence ← scriptNumber item "sequence"
  let createdAtMs ← scriptNumber item "created_at_ms"
  return { id, origin, callsign, body, sequence, createdAtMs }

/-- The messages of an answer, if it has an array of them. -/
def scriptMessages (document : Json) : Option (List ScriptMessage) :=
  match document.get? (ascii "messages") with
  | some (.array items) => items.mapM (scriptMessage browser)
  | _ => none

/-- What a script gets of a message the daemon sends. -/
def ChatMessage.scripted (message : ChatMessage) : ScriptMessage where
  -- All texts but the body were cut at a NUL byte when the message was written.
  id := browser.decode (cString message.messageId)
  origin := browser.decode (cString message.origin)
  callsign := browser.decode (cString message.callsign)
  body := browser.decode message.body
  sequence := .ofInt (Int64.ofNat message.sequence).toInt
  createdAtMs := .ofInt message.createdAtMs.toInt

/-- A script finds every member of a message the daemon sends. -/
theorem scriptMessage_messageToJson (message : ChatMessage) :
    scriptMessage browser (messageToJson message) = some (message.scripted browser) := by
  -- The document has every member the script asks for.
  rw [messageToJson_eq]
  rfl

/-- A script finds the messages of an answer in their order. -/
theorem scriptMessages_messagesDocument (messages : List ChatMessage) :
    scriptMessages browser (messagesDocument messages) =
      some ((sortedMessages messages).map (·.scripted browser)) := by
  have found : (messagesDocument messages).get? (ascii "messages") =
      some (.array ((sortedMessages messages).map messageToJson)) := by
    rw [messagesDocument_eq]
    rfl
  simp only [scriptMessages, found]
  -- Each item is read as its message.
  induction sortedMessages messages with
  | nil => rfl
  | cons message rest ih =>
    rw [List.map_cons, List.mapM_cons, ih, scriptMessage_messageToJson]
    rfl

end Answers

end LesChat
