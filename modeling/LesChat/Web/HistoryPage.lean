import LesChat.Web.Browser
import LesChat.Web.Page

/-! The history of the standalone page: which answers of the daemon it can render. -/

namespace LesChat.HistoryPage

open Foundation

/-- The element of a message. -/
structure MessageElement where
  /-- The class, which tells the user's own messages from those of others. -/
  className : String
  /-- The `data-message-id` attribute. -/
  messageId : JsString
  /-- The text of the callsign. -/
  callsign : JsString
  /-- The time the `datetime` attribute is the ISO text of. -/
  dateTime : Double
  /-- The text of the time. -/
  timeText : JsString
  /-- The text of the body. -/
  body : JsString

/-- What the message list holds. -/
structure MessageList where
  /-- Whether the placeholder for an empty list is shown. -/
  empty : Bool
  /-- The elements of the messages. -/
  elements : List MessageElement

section Script

variable (format : Double → JsString) (localNodeId : JsString)

/-- Whether a `Date` made from a number is valid. -/
def isValidTime (time : Double) : Bool := time.value.natAbs ≤ 8640000000000000

/-- `formatMessageTime`, given the format of valid times. -/
def formatMessageTime (createdAtMs : Double) : JsString :=
  -- An invalid date has no text, and does not throw.
  if !isValidTime createdAtMs then [] else format createdAtMs

/-- `createMessageElement`, absent when it throws. -/
def createMessageElement (message : ScriptMessage) : Option MessageElement :=
  -- `toISOString` throws on an invalid date, before the time is formatted.
  if !isValidTime message.createdAtMs then none
  else some {
    className :=
      if message.origin = localNodeId then "message message-local" else "message message-remote"
    messageId := message.id
    callsign := message.callsign
    dateTime := message.createdAtMs
    timeText := formatMessageTime format message.createdAtMs
    body := message.body }

/-- The loop of `renderMessages`. -/
def createElements : List ScriptMessage → Option (List MessageElement)
  | [] => some []
  | message :: rest => do
    let element ← createMessageElement format localNodeId message
    -- The first message that throws ends the loop.
    let others ← createElements rest
    return element :: others

/-- `renderMessages`, absent when it throws before the list is replaced. -/
def renderMessages (messages : List ScriptMessage) : Option MessageList :=
  if messages.length = 0 then some ⟨true, []⟩
  else (createElements format localNodeId messages).map fun elements => ⟨false, elements⟩

/-- `refreshMessages` on a document it received: absent when it throws. -/
def refreshMessages (browser : Browser) (document : Json) : Option MessageList :=
  (scriptMessages browser document).bind (renderMessages format localNodeId)

/-- An element shows a message of the daemon. -/
structure Shows (browser : Browser) (message : ChatMessage) (element : MessageElement) : Prop where
  /-- It carries the identifier. -/
  messageId : element.messageId = browser.decode (cString message.messageId)
  /-- It shows the callsign. -/
  callsign : element.callsign = browser.decode (cString message.callsign)
  /-- It shows the body. -/
  body : element.body = browser.decode message.body
  /-- It shows the exact time. -/
  dateTime : element.dateTime.value = message.createdAtMs.toInt

/-- The limit of dates lies where numbers are exact, so rounding does not matter. -/
theorem isValidTime_ofInt (createdAtMs : Int64) :
    isValidTime (.ofInt createdAtMs.toInt) = isValidDate createdAtMs := by
  -- The limit of a date is below the integers a double cannot hold.
  simp only [isValidTime, isValidDate, decide_eq_decide]
  exact Double.natAbs_ofInt_le (by decide)

/-- An element is created for a message exactly when its time can be shown, and shows it. -/
theorem createMessageElement_scripted (browser : Browser) (message : ChatMessage) :
    (isValidDate message.createdAtMs = true → ∃ element,
      createMessageElement format localNodeId (message.scripted browser) = some element ∧
        Shows browser message element) ∧
    (isValidDate message.createdAtMs = false →
      createMessageElement format localNodeId (message.scripted browser) = none) := by
  -- Whether there is an element depends on the time alone.
  have valid : isValidTime (message.scripted browser).createdAtMs =
      isValidDate message.createdAtMs := isValidTime_ofInt _
  unfold createMessageElement
  rw [valid]
  constructor
  · intro dated
    have small : message.createdAtMs.toInt.natAbs ≤ 8640000000000000 := by
      simpa [isValidDate] using dated
    rw [dated]
    exact ⟨_, rfl, rfl, rfl, rfl, Double.value_ofInt (by omega)⟩
  · intro undated
    rw [undated]
    rfl

variable {format localNodeId}

/-- The loop completes exactly when every time can be shown, with one element for each message. -/
theorem createElements_scripted (browser : Browser) (messages : List ChatMessage) :
    (∃ elements, createElements format localNodeId (messages.map (·.scripted browser)) =
        some elements ∧ List.Forall₂ (Shows browser) messages elements) ↔
      ∀ message ∈ messages, isValidDate message.createdAtMs = true := by
  -- The induction follows the messages: each has its element, or the loop ends.
  induction messages with
  | nil => simp [createElements]
  | cons message rest ih =>
    obtain ⟨created, thrown⟩ :=
      createMessageElement_scripted format localNodeId browser message
    rw [List.map_cons, createElements, List.forall_mem_cons, ← ih]
    cases dated : isValidDate message.createdAtMs with
    | false => simp [thrown dated]
    | true =>
      obtain ⟨element, made, shows⟩ := created dated
      simp only [made, Option.bind_eq_bind, Option.bind_some, true_and]
      constructor
      · intro found
        obtain ⟨elements, completed, shown⟩ := found
        obtain ⟨others, rest, same⟩ := Option.bind_eq_some_iff.mp completed
        simp only [Option.pure_def, Option.some.injEq] at same
        subst same
        cases shown with
        | cons _ tail => exact ⟨others, rest, tail⟩
      · intro found
        obtain ⟨others, rest, tail⟩ := found
        rw [rest]
        exact ⟨element :: others, rfl, .cons shows tail⟩

/--
The page renders the history, one element for each message in the order of the answer, exactly when
every message has a time within the range of a `Date`; otherwise rendering throws.
-/
theorem history_rendered_iff (library : JsonC) (browser : Browser) (messages : List ChatMessage) :
    (getMessages library messages).body = serializeJson library (messagesDocument messages) ∧
      ((∃ list, refreshMessages format localNodeId browser (messagesDocument messages) = some list ∧
          List.Forall₂ (Shows browser) (sortedMessages messages) list.elements) ↔
        ∀ message ∈ messages, message.createdAtMs.toInt.natAbs ≤ 8640000000000000) := by
  refine ⟨rfl, ?_⟩
  have sorted : ∀ message, message ∈ sortedMessages messages ↔ message ∈ messages :=
    fun message => List.mem_mergeSort
  have loop : (∃ elements, createElements format localNodeId
      ((sortedMessages messages).map (·.scripted browser)) = some elements ∧
        List.Forall₂ (Shows browser) (sortedMessages messages) elements) ↔ _ :=
    createElements_scripted browser (sortedMessages messages)
  simp only [isValidDate, decide_eq_true_eq, sorted] at loop
  rw [← loop, refreshMessages, scriptMessages_messagesDocument, Option.bind_some, renderMessages,
    List.length_map]
  -- An empty history shows the placeholder, and no element.
  split
  · rename_i none
    rw [List.length_eq_zero_iff.mp none]
    simp [createElements]
  · simp

/-- A message one millisecond too late is accepted, and rendering the history throws. -/
theorem history_thrown :
    let message : ChatMessage := ⟨1, ascii "a:1", ascii "a", ascii "Alice", defaultChannel,
      8640000000000001, ascii "hello"⟩
    (∃ object, parseMessage object = some message) ∧
      refreshMessages (fun _ => []) [] plainBrowser (messagesDocument [message]) = none := by
  -- The time is one millisecond beyond what a date can hold.
  intro message
  have read : parseMessage (messageToJson message) = some message := by decide +kernel
  have sorted : sortedMessages [message] = [message] := List.mergeSort_singleton message
  have late : isValidTime (message.scripted plainBrowser).createdAtMs = false := by decide +kernel
  refine ⟨⟨messageToJson message, read⟩, ?_⟩
  rw [refreshMessages, scriptMessages_messagesDocument, sorted]
  simp [renderMessages, createElements, createMessageElement, late]

end Script

end LesChat.HistoryPage
