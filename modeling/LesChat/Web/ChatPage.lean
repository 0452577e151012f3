import Mathlib.Data.List.Lex
import LesChat.Foundation.NumberText
import LesChat.Foundation.Run
import LesChat.Web.Browser

/-! The LuCI page: its message list, filled at once and then message by message. -/

namespace LesChat.ChatPage

open Foundation

/-- A value of a member that is read as a number. -/
inductive ScriptValue where
  /-- The member of a message. -/
  | number (value : Double)
  /-- An attribute. -/
  | text (value : JsString)
deriving DecidableEq

/-- An object the comparator looks at: a message, or what is put together from attributes. -/
structure ChatObject where
  /-- The `id` member. -/
  id : JsString
  /-- The `origin` member. -/
  origin : JsString
  /-- The `callsign` member, empty when there is none. -/
  callsign : JsString
  /-- The `sequence` member. -/
  sequence : ScriptValue
  /-- The `created_at_ms` member. -/
  createdAtMs : ScriptValue

section Comparing

/-- `Number`. -/
def scriptNumberOf : ScriptValue → Option Double
  | .number value => some value
  -- A text that is no numeral becomes `NaN`.
  | .text value => textNumber value

/-- `messageTime`. -/
def messageTime (message : ChatObject) : Double :=
  -- Whatever is not finite counts as zero.
  (scriptNumberOf message.createdAtMs).getD (.ofInt 0)

/-- `messageSequence`. -/
def messageSequence (message : ChatObject) : Double :=
  (scriptNumberOf message.sequence).getD (.ofInt 0)

/-- `<` on strings: by their code units. -/
def unitsLess (left right : JsString) : Prop := left.map UInt16.toNat < right.map UInt16.toNat

/-- Comparing two strings can be evaluated. -/
instance (left right : JsString) : Decidable (unitsLess left right) :=
  inferInstanceAs (Decidable (left.map UInt16.toNat < right.map UInt16.toNat))

/-- The origin of a message, or its callsign when the origin is empty. -/
def originOrCallsign (origin callsign : JsString) : JsString :=
  if origin ≠ [] then origin else callsign

/-- `compareMessages`. -/
def compareMessages (left right : ChatObject) : Int :=
  let leftTime := (messageTime left).value
  let rightTime := (messageTime right).value
  if leftTime ≠ rightTime then (if leftTime < rightTime then -1 else 1)
  else
    let leftOrigin := originOrCallsign left.origin left.callsign
    let rightOrigin := originOrCallsign right.origin right.callsign
    if leftOrigin ≠ rightOrigin then (if unitsLess leftOrigin rightOrigin then -1 else 1)
    else
      let leftSequence := (messageSequence left).value
      let rightSequence := (messageSequence right).value
      if leftSequence ≠ rightSequence then (if leftSequence < rightSequence then -1 else 1)
      else if left.id = right.id then 0
      else if unitsLess left.id right.id then -1 else 1

end Comparing

/-- A message of an answer, as the comparator sees it. -/
def objectOf (message : ScriptMessage) : ChatObject where
  id := message.id
  origin := message.origin
  callsign := message.callsign
  sequence := .number message.sequence
  createdAtMs := .number message.createdAtMs

/-- What an element says of its message. -/
structure NodeContent where
  /-- The `data-message-id` attribute. -/
  messageId : JsString
  /-- The `data-message-origin` attribute. -/
  origin : JsString
  /-- The `data-message-sequence` attribute. -/
  sequence : JsString
  /-- The `data-message-time` attribute. -/
  time : JsString
  /-- The callsign shown. -/
  callsign : JsString
  /-- The time shown. -/
  timeText : JsString
  /-- The body shown. -/
  body : JsString
deriving DecidableEq

/-- An element of the list. -/
structure MessageNode where
  /-- Whether it is styled as one of the user's own. -/
  isLocal : Bool
  /-- What it says. -/
  content : NodeContent

/-- The object `appendMessage` puts together from the attributes of an element. -/
def existingMessage (node : MessageNode) : ChatObject where
  id := node.content.messageId
  origin := node.content.origin
  callsign := []
  sequence := .text (if node.content.sequence = [] then asciiUnits (ascii "0")
    else node.content.sequence)
  createdAtMs := .text (if node.content.time = [] then asciiUnits (ascii "0")
    else node.content.time)

/-- The names every object literal inherits, which therefore look like members of it. -/
def inheritedNames : List JsString :=
  [ascii "constructor", ascii "__defineGetter__", ascii "__defineSetter__",
    ascii "hasOwnProperty", ascii "__lookupGetter__", ascii "__lookupSetter__",
    ascii "isPrototypeOf", ascii "propertyIsEnumerable", ascii "toString", ascii "valueOf",
    ascii "__proto__", ascii "toLocaleString"].map asciiUnits

/-- Whether a name is inherited can be looked up. -/
instance (name : JsString) : Decidable (name ∈ inheritedNames) :=
  List.instDecidableMemOfLawfulBEq name inheritedNames

/-- The view. -/
structure ChatView where
  /-- The identifier of the node the page is served by. -/
  localNodeId : JsString
  /-- The names of `knownIds` that were set to `true`. -/
  knownIds : List JsString
  /-- Whether the placeholder for an empty list is shown. -/
  empty : Bool
  /-- The elements of the list, in order. -/
  list : List MessageNode

section Script

variable (format : Double → JsString)

/-- The content of the element of a message. -/
def nodeContent (message : ScriptMessage) : NodeContent where
  messageId := message.id
  origin := originOrCallsign message.origin message.callsign
  sequence := numberText message.sequence
  time := numberText message.createdAtMs
  -- An empty callsign is shown as a dash.
  callsign := if message.callsign ≠ [] then message.callsign else [0x2014]
  timeText := format message.createdAtMs
  body := message.body

/-- `messageNode`. -/
def messageNode (localNodeId : JsString) (message : ScriptMessage) : MessageNode :=
  ⟨message.origin = localNodeId, nodeContent format message⟩

/-- `messages.slice().sort(compareMessages)`, which is stable. -/
def sortMessages (messages : List ScriptMessage) : List ScriptMessage :=
  messages.mergeSort fun left right => compareMessages (objectOf left) (objectOf right) ≤ 0

/-- `fillMessages`. -/
def fillMessages (localNodeId : JsString) (messages : List ScriptMessage) : ChatView :=
  let items := sortMessages messages
  -- What was known before is forgotten.
  if items.length = 0 then ⟨localNodeId, [], true, []⟩
  else {
    localNodeId
    knownIds := (items.map ScriptMessage.id).filter (· ≠ [])
    empty := false
    list := items.map (messageNode format localNodeId) }

/-- Whether `knownIds[id]` is true, or anything else that counts as true. -/
def isKnown (view : ChatView) (id : JsString) : Bool := id ∈ inheritedNames ∨ id ∈ view.knownIds

/-- The loop of `appendMessage` over the existing elements. -/
def insertNode (message : ScriptMessage) (node : MessageNode) : List MessageNode → List MessageNode
  | [] => [node]
  | existing :: rest =>
    if compareMessages (objectOf message) (existingMessage existing) < 0 then
      node :: existing :: rest
    else existing :: insertNode message node rest

/-- `appendMessage`: whether an element was added, and the view afterwards. -/
def appendMessage (view : ChatView) (message : ScriptMessage) : Bool × ChatView :=
  if message.id = [] ∨ isKnown view message.id then (false, view)
  else (true, { view with
    knownIds := message.id :: view.knownIds
    empty := false
    list := insertNode message (messageNode format view.localNodeId message) view.list })

/-- One thing that hands messages to the list. -/
inductive ChatAction where
  /-- A poll, which also brings the identifier of the node. -/
  | poll (nodeId : JsString) (incoming : List ScriptMessage)
  /-- A message the page has sent itself, or found to be stored. -/
  | sent (message : ScriptMessage)

/-- The messages handed over. -/
def ChatAction.messages : ChatAction → List ScriptMessage
  | .poll _ incoming => incoming
  | .sent message => [message]

/-- Several messages, appended in order. -/
def appendMessages (view : ChatView) (messages : List ScriptMessage) : ChatView :=
  messages.foldl (fun view message => (appendMessage format view message).2) view

/-- The view after one action. -/
def chatStep (view : ChatView) : ChatAction → ChatView
  | .poll nodeId incoming =>
    -- A node that could not be asked keeps its identifier.
    appendMessages format { view with
      localNodeId := if nodeId ≠ [] then nodeId else view.localNodeId } incoming
  | .sent message => (appendMessage format view message).2

end Script

end LesChat.ChatPage
