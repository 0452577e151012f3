import Mathlib.Data.List.DropRight
import LesChat.Web.ChatPage

/-! The composer of the LuCI page: a message is typed, sent, and looked up when no reply comes. -/

namespace LesChat.ChatPage

open Foundation

/-- `\s` in a regular expression: white space and the ends of lines. -/
def isScriptSpace (character : Char) : Bool :=
  let code := character.toNat
  (0x09 ≤ code && code ≤ 0x0D) || code == 0x20 || code == 0xA0 || code == 0x1680 ||
    (0x2000 ≤ code && code ≤ 0x200A) || code == 0x2028 || code == 0x2029 || code == 0x202F ||
    code == 0x205F || code == 0x3000 || code == 0xFEFF

/-- A text without the white space at its ends. -/
def trimmed (text : List Char) : List Char :=
  (text.dropWhile isScriptSpace).rdropWhile isScriptSpace

/-- What the line below the box says. -/
inductive Hint where
  /-- Nothing. -/
  | blank
  /-- `Enter a message.` -/
  | enterMessage
  /-- `Sending…` -/
  | sending
  /-- `Sent` -/
  | sent
  /-- `Could not send the message.` -/
  | couldNotSend
deriving DecidableEq

/-- The call a submission waits for. -/
inductive Waiting where
  /-- `callSend`. -/
  | send
  /-- `callMessages`, after the send failed. -/
  | messages
deriving DecidableEq

/-- A submission that is not settled yet. -/
structure Submission where
  /-- The text that was submitted. -/
  body : List Char
  /-- The identifiers that were known before. -/
  knownBeforeSend : List JsString
  /-- What it waits for. -/
  waiting : Waiting
deriving DecidableEq

/-- The page around its message list. -/
structure Composer where
  /-- The view with the message list. -/
  view : ChatView
  /-- Whether the daemon was running when it was last asked. -/
  liveRunning : Bool
  /-- The text in the box. -/
  value : List Char
  /-- Whether the box and the button are disabled. -/
  disabled : Bool
  /-- Whether an input method composes a character. -/
  composing : Bool
  /-- Whether a message is being sent. -/
  sending : Bool
  /-- The line below the box. -/
  hint : Hint
  /-- The submission that is waited for. -/
  submission : Option Submission

section Answers

variable (parseText : Bytes → Option Json)

/-- The loop of `normalizeRpcResult`: an array with one item is its item. -/
def unwrapResult : Json → Json
  | .array [value] => unwrapResult value
  | value => value

/-- `normalizeRpcResult`, given `JSON.parse`. -/
def normalizeRpcResult (result : Json) : Json :=
  let value :=
    match unwrapResult result with
    -- A text that is no JSON counts as an empty object.
    | .string text => (parseText text).getD (.object [])
    | value => value
  match value with
  | .object _ | .array _ => value
  | _ => .object []

end Answers

section Script

variable (format : Double → JsString) (browser : Browser) (parseText : Bytes → Option Json)

/-- Whether `response.error` counts as true. -/
def hasError (response : Json) : Bool :=
  match response.get? (ascii "error") with
  | none | some .null => false
  | some (.bool value) => value
  | some (.int value) => value != 0
  -- The error of a daemon or of the bridge is a text.
  | some (.string text) => browser.decode text ≠ []
  | some (.double _) | some (.array _) | some (.object _) => true

namespace Composer

/-- `render`: the page as it is loaded. -/
def render (nodeId : JsString) (liveRunning : Bool) (messages : List ScriptMessage) : Composer where
  view := fillMessages format nodeId messages
  liveRunning
  value := []
  disabled := !liveRunning
  composing := false
  sending := false
  hint := .blank
  submission := none

/-- The handler of `submit`, up to the call of `callSend`. -/
def submit (composer : Composer) : Composer :=
  if composer.composing || composer.sending then composer
  else
    let body := trimmed composer.value
    if body = [] then { composer with hint := .enterMessage }
    else { composer with
      disabled := true
      sending := true
      hint := .sending
      submission := some ⟨body, composer.view.knownIds, .send⟩ }

/-- `markSent`, once the response is known to have no error. -/
def noteSent (message : Option ScriptMessage) (composer : Composer) : Composer :=
  { composer with
    view :=
      match message with
      | some message => (appendMessage format composer.view message).2
      | none => composer.view
    value := []
    hint := .sent }

/-- `markSent`, absent when it throws. -/
def markSent (result : Json) (composer : Composer) : Option Composer :=
  let response := normalizeRpcResult parseText result
  if hasError browser response then none
  else some (composer.noteSent format
    ((response.get? (ascii "message")).bind (scriptMessage browser)))

/-- `finally`: the submission is settled. -/
def settled (composer : Composer) : Composer :=
  { composer with
    sending := false
    submission := none
    disabled := if composer.liveRunning then false else composer.disabled }

/-- The message `confirmStored` takes for the submitted one, if the history has one. -/
def storedMessage (submission : Submission) (history : Json) (composer : Composer) :
    Option ScriptMessage :=
  let messages := (scriptMessages browser (normalizeRpcResult parseText history)).getD []
  -- The last one that qualifies.
  messages.reverse.find? fun message =>
    message.body = encodeUtf16 submission.body ∧
      (composer.view.localNodeId = [] ∨ message.origin = composer.view.localNodeId) ∧
      message.id ≠ [] ∧
      ¬isKnown { composer.view with knownIds := submission.knownBeforeSend } message.id

/-- The promise of `callSend` is settled, with a result unless it was rejected. -/
def sendSettled (outcome : Option Json) (composer : Composer) : Composer :=
  match composer.submission with
  | some ⟨body, knownBeforeSend, .send⟩ =>
    match outcome.bind fun result => composer.markSent format browser parseText result with
    | some composer => composer.settled
    -- `confirmStored` asks for the history before anything is reported.
    | none => { composer with submission := some ⟨body, knownBeforeSend, .messages⟩ }
  | _ => composer

/-- The promise of `callMessages` is settled, with a result unless it was rejected. -/
def messagesSettled (outcome : Option Json) (composer : Composer) : Composer :=
  match composer.submission with
  | some submission =>
    if submission.waiting = .messages then
      match outcome.bind fun history =>
          composer.storedMessage browser parseText submission history with
      | some message => (composer.noteSent format (some message)).settled
      | none => { composer with hint := .couldNotSend }.settled
    else composer
  | none => composer

/-- The poll, with what the daemon was found to be and the messages it sent. -/
def poll (nodeId : JsString) (liveRunning : Bool) (incoming : List ScriptMessage)
    (composer : Composer) : Composer :=
  let polled := { composer with
    view := chatStep format composer.view (.poll nodeId incoming)
    liveRunning }
  -- A submission that is not settled keeps the box as it is.
  if polled.sending then polled else { polled with disabled := !liveRunning }

end Composer

/-- One thing that happens to the composer. -/
inductive ComposerEvent where
  /-- The text in the box is changed. -/
  | write (text : List Char)
  /-- An input method begins or ends composing. -/
  | compose (composing : Bool)
  /-- The form is submitted. -/
  | submit
  /-- A poll is answered. -/
  | poll (nodeId : JsString) (liveRunning : Bool) (incoming : List ScriptMessage)
  /-- The send is answered, or fails. -/
  | sendSettled (outcome : Option Json)
  /-- The request for the history is answered, or fails. -/
  | messagesSettled (outcome : Option Json)

/-- The composer after one event. -/
def composerStep (composer : Composer) : ComposerEvent → Composer
  -- A browser lets nobody write into a disabled box, or press a disabled button.
  | .write text => if composer.disabled then composer else { composer with value := text }
  | .compose composing => { composer with composing }
  | .submit => if composer.disabled then composer else composer.submit
  | .poll nodeId liveRunning incoming => composer.poll format nodeId liveRunning incoming
  | .sendSettled outcome => composer.sendSettled format browser parseText outcome
  | .messagesSettled outcome => composer.messagesSettled format browser parseText outcome

/-- What always holds of the composer. -/
structure Composer.Consistent (composer : Composer) : Prop where
  /-- The flag tells whether there is a submission. -/
  sending : composer.sending = composer.submission.isSome
  /-- Without one, the box is enabled exactly when the daemon runs. -/
  free : composer.submission = none → composer.disabled = !composer.liveRunning
  /-- With one, the box is disabled and still holds the text that was submitted. -/
  busy : ∀ submission ∈ composer.submission, composer.disabled = true ∧
    composer.hint = .sending ∧ submission.body = trimmed composer.value ∧ submission.body ≠ []

variable {format browser parseText}

/-- A message is only noted as sent when the result has no error. -/
theorem Composer.markSent_eq_some {result : Json} {composer after : Composer} :
    composer.markSent format browser parseText result = some after ↔
      hasError browser (normalizeRpcResult parseText result) = false ∧
        composer.noteSent format (((normalizeRpcResult parseText result).get?
          (ascii "message")).bind (scriptMessage browser)) = after := by
  -- The only way out is the error of the response.
  unfold Composer.markSent
  cases failed : hasError browser (normalizeRpcResult parseText result) <;>
    simp [failed]

/-- What `confirmStored` takes is in the history, has the text, and was not known before. -/
theorem Composer.storedMessage_eq_some {submission : Submission} {history : Json}
    {composer : Composer} {message : ScriptMessage}
    (found : composer.storedMessage browser parseText submission history = some message) :
    message ∈ (scriptMessages browser (normalizeRpcResult parseText history)).getD [] ∧
      message.body = encodeUtf16 submission.body ∧
      (composer.view.localNodeId = [] ∨ message.origin = composer.view.localNodeId) ∧
      message.id ∉ submission.knownBeforeSend := by
  -- What the search returns is an item of the list, and passed the test.
  have member := List.mem_reverse.mp (List.mem_of_find?_eq_some found)
  have qualifies := List.find?_some found
  simp only [isKnown, decide_eq_true_eq, not_or] at qualifies
  obtain ⟨body, origin, _, _, unknown⟩ := qualifies
  exact ⟨member, body, origin, unknown⟩

/-- When `confirmStored` finds nothing, no message of the history qualifies. -/
theorem Composer.storedMessage_eq_none {submission : Submission} {history : Json}
    {composer : Composer}
    (absent : composer.storedMessage browser parseText submission history = none)
    {message : ScriptMessage}
    (member : message ∈ (scriptMessages browser (normalizeRpcResult parseText history)).getD [])
    (body : message.body = encodeUtf16 submission.body)
    (origin : message.origin = composer.view.localNodeId)
    (nonempty : message.id ≠ []) (ordinary : message.id ∉ inheritedNames) :
    message.id ∈ submission.knownBeforeSend := by
  -- The search failed, so the test failed on this message, and only for being known.
  have rejected := List.find?_eq_none.mp absent message (List.mem_reverse.mpr member)
  simp only [isKnown, decide_eq_true_eq, body, origin, nonempty, ordinary, true_and, or_true, ne_eq,
    not_false_eq_true, false_or, not_not] at rejected
  exact rejected

variable (format browser parseText)

/-- A poll touches the list, and whether the daemon runs, but not the submission. -/
theorem Composer.poll_fields (nodeId : JsString) (liveRunning : Bool)
    (incoming : List ScriptMessage) (composer : Composer) :
    (composer.poll format nodeId liveRunning incoming).view =
        chatStep format composer.view (.poll nodeId incoming) ∧
      (composer.poll format nodeId liveRunning incoming).liveRunning = liveRunning ∧
      (composer.poll format nodeId liveRunning incoming).value = composer.value ∧
      (composer.poll format nodeId liveRunning incoming).submission = composer.submission := by
  -- Whether a submission is waited for decides about the box alone.
  simp only [Composer.poll]
  split <;> exact ⟨rfl, rfl, rfl, rfl⟩

/-- A form that is submitted is left alone, asks for a message, or is sent. -/
theorem Composer.submit_cases (composer : Composer) :
    composerStep format browser parseText composer .submit = composer ∨
      (composer.sending = false ∧ composerStep format browser parseText composer .submit =
        { composer with hint := .enterMessage }) ∨
      composer.disabled = false ∧ composer.sending = false ∧ trimmed composer.value ≠ [] ∧
        composerStep format browser parseText composer .submit = { composer with
          disabled := true
          sending := true
          hint := .sending
          submission := some ⟨trimmed composer.value, composer.view.knownIds, .send⟩ } := by
  -- The cases follow the handler: disabled, busy, empty, and sent.
  simp only [composerStep, Composer.submit]
  split
  · exact .inl rfl
  · rename_i enabled
    split
    · exact .inl rfl
    · rename_i idle
      simp only [Bool.or_eq_true, not_or, Bool.not_eq_true] at idle enabled
      split
      · exact .inr (.inl ⟨idle.2, rfl⟩)
      · rename_i nonempty
        exact .inr (.inr ⟨enabled, idle.2, nonempty, rfl⟩)

/-- A settled send was not waited for, leads to a request for the history, or noted a message. -/
theorem Composer.sendSettled_cases (outcome : Option Json) (composer : Composer) :
    composer.sendSettled format browser parseText outcome = composer ∨
      ∃ submission, composer.submission = some submission ∧ submission.waiting = .send ∧
        (composer.sendSettled format browser parseText outcome =
            { composer with submission := some { submission with waiting := .messages } } ∨
          ∃ result, outcome = some result ∧
            hasError browser (normalizeRpcResult parseText result) = false ∧
            composer.sendSettled format browser parseText outcome =
              (composer.noteSent format (((normalizeRpcResult parseText result).get?
                (ascii "message")).bind (scriptMessage browser))).settled) := by
  -- Only a submission that waits for its send is touched.
  unfold Composer.sendSettled
  split
  · rename_i body knownBeforeSend pending
    refine .inr ⟨_, pending, rfl, ?_⟩
    split
    · rename_i after marked
      obtain ⟨result, same, noted⟩ := Option.bind_eq_some_iff.mp marked
      obtain ⟨noError, rfl⟩ := Composer.markSent_eq_some.mp noted
      exact .inr ⟨result, same, noError, rfl⟩
    · exact .inl rfl
  · exact .inl rfl

/-- A settled request for the history was not waited for, found nothing, or noted a message. -/
theorem Composer.messagesSettled_cases (outcome : Option Json) (composer : Composer) :
    composer.messagesSettled format browser parseText outcome = composer ∨
      ∃ submission, composer.submission = some submission ∧ submission.waiting = .messages ∧
        ((outcome.bind fun history => composer.storedMessage browser parseText submission
            history) = none ∧
          composer.messagesSettled format browser parseText outcome =
            { composer with hint := .couldNotSend }.settled ∨
          ∃ history message, outcome = some history ∧
            composer.storedMessage browser parseText submission history = some message ∧
            composer.messagesSettled format browser parseText outcome =
              (composer.noteSent format (some message)).settled) := by
  -- Only a submission that waits for the history is touched.
  unfold Composer.messagesSettled
  split
  · rename_i submission pending
    split
    · rename_i waiting
      refine .inr ⟨submission, pending, waiting, ?_⟩
      split
      · rename_i message found
        obtain ⟨history, same, stored⟩ := Option.bind_eq_some_iff.mp found
        exact .inr ⟨history, message, same, stored, rfl⟩
      · rename_i found
        exact .inl ⟨found, rfl⟩
    · exact .inl rfl
  · exact .inl rfl

variable {format browser parseText}

/-- A settled submission leaves a consistent composer. -/
theorem Composer.Consistent.settled {composer : Composer} (disabled : composer.disabled = true) :
    composer.settled.Consistent where
  sending := rfl
  free := by
    -- The buttons are free again exactly when the daemon runs.
    intro _
    show (if composer.liveRunning then false else composer.disabled) = !composer.liveRunning
    cases live : composer.liveRunning <;> simp [disabled]
  busy := by simp [Composer.settled]

variable (format browser parseText)

/-- Every event keeps the composer consistent. -/
theorem composerStep_consistent (composer : Composer) (event : ComposerEvent)
    (consistent : composer.Consistent) :
    (composerStep format browser parseText composer event).Consistent := by
  obtain ⟨sending, free, busy⟩ := consistent
  cases event with
  | write text =>
    simp only [composerStep]
    split
    · exact ⟨sending, free, busy⟩
    · rename_i enabled
      refine ⟨sending, free, fun submission pending => ?_⟩
      exact absurd (busy submission pending).1 enabled
  | compose composing => exact ⟨sending, free, busy⟩
  | submit =>
    rcases composer.submit_cases format browser parseText with
      same | ⟨idle, asked⟩ | ⟨_, _, nonempty, sent⟩
    · rw [same]
      exact ⟨sending, free, busy⟩
    · rw [asked]
      refine ⟨sending, free, fun submission pending => ?_⟩
      -- Nothing is waited for without the flag.
      have waiting : composer.submission = some submission := pending
      rw [waiting, idle] at sending
      simp at sending
    · rw [sent]
      refine ⟨rfl, by simp, fun submission pending => ?_⟩
      obtain rfl := Option.some.inj pending
      exact ⟨rfl, rfl, rfl, nonempty⟩
  | poll nodeId liveRunning incoming =>
    simp only [composerStep, Composer.poll]
    split
    · rename_i waiting
      refine ⟨sending, fun absent => ?_, busy⟩
      -- Nothing is waited for without the flag.
      have idle : composer.submission = none := absent
      rw [idle] at sending
      exact absurd (waiting.symm.trans sending) (by simp)
    · rename_i idle
      refine ⟨sending, fun _ => rfl, fun submission pending => ?_⟩
      have waiting : composer.submission = some submission := pending
      rw [waiting] at sending
      exact absurd sending idle
  | sendSettled outcome =>
    show (composer.sendSettled format browser parseText outcome).Consistent
    rcases composer.sendSettled_cases format browser parseText outcome with
      same | ⟨submission, pending, _, asked | ⟨result, _, _, noted⟩⟩
    · rw [same]
      exact ⟨sending, free, busy⟩
    · rw [asked]
      refine ⟨?_, by simp, fun other waiting => ?_⟩
      · rw [sending, pending]
        rfl
      · obtain rfl := Option.some.inj waiting
        exact busy submission pending
    · rw [noted]
      exact .settled (busy submission pending).1
  | messagesSettled outcome =>
    show (composer.messagesSettled format browser parseText outcome).Consistent
    rcases composer.messagesSettled_cases format browser parseText outcome with
      same | ⟨submission, pending, _, ⟨_, failed⟩ | ⟨history, message, _, _, noted⟩⟩
    · rw [same]
      exact ⟨sending, free, busy⟩
    · rw [failed]
      exact .settled (busy submission pending).1
    · rw [noted]
      exact .settled (busy submission pending).1

end Script

section Texts

/-- Nothing is added to a text that is trimmed. -/
theorem trimmed_subset (text : List Char) : trimmed text ⊆ text := by
  -- Characters are dropped at both ends only.
  intro character member
  have inMiddle := (List.rdropWhile_prefix isScriptSpace
    (text.dropWhile isScriptSpace)).subset member
  exact (List.dropWhile_suffix isScriptSpace).subset inMiddle

end Texts

section Known

variable {format : Double → JsString}

/-- Appending a message to the list notes its identifier, and no other. -/
theorem mem_knownIds_appendMessage {view : ChatView} {message : ScriptMessage} {id : JsString}
    (member : id ∈ (appendMessage format view message).2.knownIds) :
    id ∈ view.knownIds ∨ id = message.id := by
  -- A message that is skipped leaves the list as it is.
  unfold appendMessage at member
  split at member
  · exact .inl member
  · exact (List.mem_cons.mp member).symm

/-- Appending a message forgets no identifier. -/
theorem knownIds_subset_appendMessage (view : ChatView) (message : ScriptMessage) :
    view.knownIds ⊆ (appendMessage format view message).2.knownIds := by
  -- A message that is skipped leaves the set, and any other adds to it.
  unfold appendMessage
  split
  · exact fun id member => member
  · exact fun id member => List.mem_cons_of_mem _ member

/-- A message with an ordinary identifier is known once it was appended. -/
theorem id_mem_knownIds_appendMessage (view : ChatView) {message : ScriptMessage}
    (nonempty : message.id ≠ []) (ordinary : message.id ∉ inheritedNames) :
    message.id ∈ (appendMessage format view message).2.knownIds := by
  -- It is skipped only when it is known already.
  unfold appendMessage
  split
  · rename_i skipped
    simpa [isKnown, nonempty, ordinary] using skipped
  · exact List.mem_cons_self

/-- Appending a message does not touch the identifier of the node. -/
@[simp] theorem localNodeId_appendMessage (view : ChatView) (message : ScriptMessage) :
    (appendMessage format view message).2.localNodeId = view.localNodeId := by
  -- Appending touches the list and the identifiers.
  unfold appendMessage
  split <;> rfl

/-- Appending messages notes their identifiers, and no others. -/
theorem mem_knownIds_appendMessages {messages : List ScriptMessage} {view : ChatView}
    {id : JsString} (member : id ∈ (appendMessages format view messages).knownIds) :
    id ∈ view.knownIds ∨ ∃ message ∈ messages, id = message.id := by
  -- The induction follows the messages, each of which may add one identifier.
  induction messages generalizing view with
  | nil => exact .inl member
  | cons message rest ih =>
    rcases ih member with before | ⟨other, inRest, same⟩
    · rcases mem_knownIds_appendMessage before with old | same
      · exact .inl old
      · exact .inr ⟨message, by simp, same⟩
    · exact .inr ⟨other, by simp [inRest], same⟩

/-- Appending messages forgets no identifier, and does not touch the identifier of the node. -/
theorem appendMessages_keeps (messages : List ScriptMessage) (view : ChatView) :
    view.knownIds ⊆ (appendMessages format view messages).knownIds ∧
      (appendMessages format view messages).localNodeId = view.localNodeId := by
  -- The induction follows the messages, each of which adds at most its own identifier.
  induction messages generalizing view with
  | nil => exact ⟨fun id member => member, rfl⟩
  | cons message rest ih =>
    obtain ⟨known, named⟩ := ih (appendMessage format view message).2
    exact ⟨fun id member => known (knownIds_subset_appendMessage view message member),
      named.trans (localNodeId_appendMessage view message)⟩

/-- A poll forgets no identifier, notes those of its messages, and may name the node. -/
theorem chatStep_poll_keeps (nodeId : JsString) (incoming : List ScriptMessage)
    (view : ChatView) :
    view.knownIds ⊆ (chatStep format view (.poll nodeId incoming)).knownIds ∧
      (∀ id ∈ (chatStep format view (.poll nodeId incoming)).knownIds,
        id ∈ view.knownIds ∨ ∃ message ∈ incoming, id = message.id) ∧
      (chatStep format view (.poll nodeId incoming)).localNodeId =
        if nodeId ≠ [] then nodeId else view.localNodeId := by
  -- The node may be named first; the messages are appended after that.
  obtain ⟨kept, named⟩ := @appendMessages_keeps format incoming { view with
    localNodeId := if nodeId ≠ [] then nodeId else view.localNodeId }
  exact ⟨kept, fun id member => @mem_knownIds_appendMessages format incoming { view with
    localNodeId := if nodeId ≠ [] then nodeId else view.localNodeId } id member, named⟩

/-- Filling the list notes identifiers of its messages only. -/
theorem mem_knownIds_fillMessages {localNodeId : JsString} {messages : List ScriptMessage}
    {id : JsString} (member : id ∈ (fillMessages format localNodeId messages).knownIds) :
    ∃ message ∈ messages, id = message.id := by
  -- An empty list has no identifiers, and sorting adds none.
  simp only [fillMessages] at member
  split at member
  · simp at member
  · obtain ⟨message, sorted, same⟩ := List.mem_map.mp (List.mem_filter.mp member).1
    exact ⟨message, List.mem_mergeSort.mp sorted, same.symm⟩

/-- Filling the list takes the identifier of the node. -/
@[simp] theorem localNodeId_fillMessages (localNodeId : JsString)
    (messages : List ScriptMessage) :
    (fillMessages format localNodeId messages).localNodeId = localNodeId := by
  -- Filling puts the list and the identifiers in place.
  simp only [fillMessages]
  split <;> rfl

end Known

end LesChat.ChatPage
