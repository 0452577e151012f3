import LesChat.Foundation.Feed
import LesChat.Foundation.Run
import LesChat.Http.HttpApi
import LesChat.Web.EventStream

/-! The standalone page: a snapshot of the messages, and the stream of events that follows it. -/

namespace LesChat

open Foundation

/-- The one request for the messages, and how far its response has come. -/
inductive Snapshot where
  /-- The server has not handled the request. -/
  | requested
  /-- The response is on its way. -/
  | answered (messages : List ChatMessage)
  /-- The response was rendered. -/
  | rendered
  /-- Rendering the response threw. -/
  | failed
deriving DecidableEq

/-- A page and the daemon it was loaded from. -/
structure Page where
  /-- The service behind the daemon. -/
  service : MessageService
  /-- The request for the messages. -/
  snapshot : Snapshot
  /-- Whether the event stream of the daemon has a request of the page. -/
  subscribed : Bool
  /-- The events that were sent to the page and not processed yet. -/
  inFlight : List ChatMessage
  /-- The message list, each element as the message it was created from. -/
  displayed : List ChatMessage

/-- One thing that happens to a page or its daemon. -/
inductive PageAction where
  /-- The server handles the request for the messages. -/
  | handleMessages
  /-- The server handles a request for the events, the first one or one to reconnect. -/
  | handleEvents
  /-- The server stores and publishes messages. -/
  | serve (call : ServiceCall)
  /-- The page receives the response with the messages. -/
  | deliverSnapshot
  /-- The page processes the next event. -/
  | deliverEvent
  /-- The stream breaks: nothing published from now on reaches the page. -/
  | disconnect

section Script

variable {τ : Type*} [DecidableEq τ] (text : Bytes → τ)

/--
What the script finds an element by: the `id` member of its message, as the browser reads it.

The member is written as a C string.
-/
def elementId (message : ChatMessage) : τ := text (cString message.messageId)

/-- A `Date` can hold the time, so `toISOString` does not throw. -/
def isValidDate (createdAtMs : Int64) : Bool := createdAtMs.toInt.natAbs ≤ 8640000000000000

/-- `createMessageElement`, up to an exception. -/
def createMessageElement (message : ChatMessage) : Option ChatMessage :=
  if isValidDate message.createdAtMs then some message else none

/-- `renderMessages`: the elements that replace the list, unless one of them cannot be created. -/
def renderMessages (messages : List ChatMessage) : Option (List ChatMessage) :=
  messages.mapM createMessageElement

/-- `appendMessage`. -/
def appendMessage (displayed : List ChatMessage) (message : ChatMessage) : List ChatMessage :=
  -- An element with the identifier is there already.
  if ∃ other ∈ displayed, elementId text other = elementId text message then displayed
  else
    match createMessageElement message with
    | some element => displayed ++ [element]
    -- The listener logs the exception.
    | none => displayed

end Script

namespace Page

/-- `EventStream::subscribe`, with nothing left of an earlier stream. -/
def subscribe (page : Page) : Page :=
  -- Nothing is replayed: the stream begins with what is published next.
  if page.subscribed then page else { page with subscribed := true, inFlight := [] }

/-- `EventStream::publish`, as far as this page is concerned. -/
def publish (events : List ChatMessage) (page : Page) : Page :=
  -- A page whose stream is down is not among the subscribers.
  if page.subscribed then { page with inFlight := page.inFlight ++ events } else page

/-- A page that was just loaded. -/
def initial (service : MessageService) : Page := ⟨service, .requested, false, [], []⟩

/-- The snapshot is shown, the stream is connected, and nothing is on its way to the page. -/
structure Settled (page : Page) : Prop where
  /-- The snapshot was rendered. -/
  rendered : page.snapshot = .rendered
  /-- The stream is connected. -/
  connected : page.subscribed = true
  /-- No event is on its way. -/
  quiet : page.inFlight = []

/-- The page shows what its daemon has. -/
structure MissesNothing (page : Page) : Prop where
  /-- Every stored message is displayed exactly once. -/
  once : ∀ message ∈ page.service.store.database.rows, page.displayed.count message = 1
  /-- The stored messages are displayed in the order of `get_messages`. -/
  ordered : page.displayed.filter (· ∈ page.service.store.messages) =
    sortedMessages page.service.store.messages

/-- The list the page will start from: the response on its way, or what it displays. -/
def base (page : Page) : Option (List ChatMessage) :=
  match page.snapshot with
  | .answered messages => some messages
  | .rendered => some page.displayed
  | _ => none

/-- Publishing does not touch the daemon. -/
@[simp] theorem service_publish (page : Page) (events : List ChatMessage) :
    (page.publish events).service = page.service := by
  -- Publishing reaches the stream, and not the service.
  unfold publish
  split <;> rfl

/-- Publishing does not touch the list the page starts from. -/
@[simp] theorem base_publish (page : Page) (events : List ChatMessage) :
    (page.publish events).base = page.base := by
  -- The list the page starts from does not depend on the stream.
  unfold publish
  split <;> rfl

end Page

section Steps

variable (library : JsonC) {τ : Type*} [DecidableEq τ] (text : Bytes → τ)

/-- A page and its daemon after one action. -/
def pageStep (page : Page) : PageAction → Page
  | .handleMessages =>
    match page.snapshot with
    -- `refreshMessages` makes one request, so it is handled once.
    | .requested => { page with snapshot := .answered (sortedMessages page.service.store.messages) }
    | _ => page
  | .handleEvents => page.subscribe
  | .serve call =>
    { page with service := call.after library page.service }.publish
      (call.event library page.service).toList
  | .deliverSnapshot =>
    match page.snapshot with
    | .answered messages =>
      match renderMessages messages with
      -- `replaceChildren`: what the stream had appended so far is gone.
      | some elements => { page with snapshot := .rendered, displayed := elements }
      -- The exception leaves the list as it was.
      | none => { page with snapshot := .failed }
    | _ => page
  | .deliverEvent =>
    match page.inFlight with
    | [] => page
    | event :: rest =>
      -- Events arrive in the order they were sent, and may come before the snapshot.
      { page with displayed := appendMessage text page.displayed event, inFlight := rest }
  -- What was already sent can still be processed.
  | .disconnect => { page with subscribed := false }

/--
A message is published where it belongs: to the page, as the last one in the order of
`get_messages`.

Its time can be shown, and the page does not have its identifier yet.
-/
def ReachesPage (page : Page) (after : MessageService) (base : List ChatMessage)
    (message : ChatMessage) : Prop :=
  page.subscribed = true ∧ isValidDate message.createdAtMs = true ∧
    ¬Feed.Shows (elementId text) (base ++ page.inFlight) message ∧
    ∀ row ∈ after.store.database.rows, row ≠ message → messageLess row message = true

/-- What the page will display once everything on its way has arrived. -/
def Page.view (page : Page) (base : List ChatMessage) : List ChatMessage :=
  page.inFlight.foldl (appendMessage text) base

/--
A message the page has already, or will have, is in its place there.

It was displayed while it was stored before. Of the rows from before the call that are left, the
page has before it those that `get_messages` puts before it.
-/
def InPlace (page : Page) (after : MessageService) (base : List ChatMessage)
    (message : ChatMessage) : Prop :=
  (page.view text base).count message = 1 ∧
    ∀ row ∈ page.service.store.database.rows, row ∈ after.store.database.rows → row ≠ message →
      (row ∈ (page.view text base).takeWhile (· != message) ↔ messageLess row message = true)

/-- An event may be lost: its message is not stored any more, or the list has it already. -/
def Spared (page : Page) (list : List ChatMessage) (event : ChatMessage) : Prop :=
  event ∈ page.service.store.database.rows → Feed.Shows (elementId text) list event

/--
An action in time.

The server handles the request for the messages with every row in its cache. From then on, whatever
is stored is published where it belongs or is in its place already, and no event is lost to a
reconnection, or overwritten by the snapshot, that could not be spared.
-/
def InTime (page : Page) : PageAction → Prop
  | .handleMessages => page.snapshot = .requested →
    ∀ row ∈ page.service.store.database.rows, row ∈ page.service.store.messages
  | .handleEvents => page.subscribed = false →
    ∀ base ∈ page.base, ∀ event ∈ page.inFlight, Spared text page base event
  | .serve call => ∀ base ∈ page.base, ∀ message ∈ call.event library page.service,
    NewlyStored message page.service (call.after library page.service) →
      ReachesPage text page (call.after library page.service) base message ∨
        InPlace text page (call.after library page.service) base message
  | .deliverSnapshot => True
  | .deliverEvent => page.snapshot ≠ .rendered →
    ∀ base ∈ page.base, ∀ event ∈ page.inFlight.head?, Spared text page base event
  | .disconnect => True

/-- Whether a message is published where it belongs can be seen from the state. -/
instance (page : Page) (after : MessageService) (base : List ChatMessage) (message : ChatMessage) :
    Decidable (ReachesPage text page after base message) :=
  inferInstanceAs (Decidable (_ ∧ _))

/-- Whether a message is in its place can be seen from the state. -/
instance (page : Page) (after : MessageService) (base : List ChatMessage) (message : ChatMessage) :
    Decidable (InPlace text page after base message) :=
  inferInstanceAs (Decidable (_ ∧ _))

/-- Whether an event may be lost can be seen from the state. -/
instance (page : Page) (list : List ChatMessage) (event : ChatMessage) :
    Decidable (Spared text page list event) :=
  inferInstanceAs (Decidable (_ → _))

/-- Whether an action is in time can be seen from the state before it. -/
instance decidableInTime (page : Page) : ∀ action, Decidable (InTime library text page action)
  | .handleMessages => inferInstanceAs (Decidable (_ → _))
  | .handleEvents => inferInstanceAs (Decidable (_ → ∀ base ∈ page.base, _))
  | .serve call => inferInstanceAs (Decidable (∀ base ∈ page.base,
      ∀ message ∈ call.event library page.service, _))
  | .deliverSnapshot => isTrue trivial
  | .deliverEvent => inferInstanceAs (Decidable (_ → ∀ base ∈ page.base, _))
  | .disconnect => isTrue trivial

end Steps

end LesChat
