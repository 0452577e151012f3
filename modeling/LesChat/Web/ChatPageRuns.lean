import Mathlib.Data.List.Dedup
import Mathlib.Data.Prod.Lex
import LesChat.Foundation.Sorting
import LesChat.Web.ChatPage

/-! The LuCI list after any run, compared with the list that would be filled at once. -/

namespace LesChat.ChatPage

open Foundation

section Comparing

/-- What the comparator looks at, in its order. -/
def objectKey (message : ChatObject) : Lex (Int × Lex (List Nat × Lex (Int × List Nat))) :=
  toLex ((messageTime message).value,
    toLex ((originOrCallsign message.origin message.callsign).map UInt16.toNat,
      toLex ((messageSequence message).value, message.id.map UInt16.toNat)))

/-- A string is determined by its code units. -/
theorem map_unit_injective : Function.Injective (List.map UInt16.toNat) :=
  -- A code unit is its number.
  List.map_injective_iff.mpr fun _ _ same => UInt16.toNat_inj.mp same

/-- The two results of a deciding field. -/
theorem sign_iff (less : Prop) [Decidable less] :
    ((if less then (-1 : Int) else 1) < 0 ↔ less) ∧
      ((if less then (-1 : Int) else 1) ≤ 0 ↔ less) := by
  -- The comparator answers one of two numbers.
  by_cases decided : less
  · simp [decided]
  · simp [decided]

/-- The comparator compares keys, field by field. -/
theorem compareMessages_key (left right : ChatObject) :
    (compareMessages left right < 0 ↔ objectKey left < objectKey right) ∧
      (compareMessages left right ≤ 0 ↔ objectKey left ≤ objectKey right) := by
  -- Each field decides only when the ones before it agree.
  simp only [objectKey, Prod.Lex.toLex_lt_toLex, Prod.Lex.toLex_le_toLex]
  unfold compareMessages
  dsimp only
  by_cases time : (messageTime left).value = (messageTime right).value
  · by_cases origin : originOrCallsign left.origin left.callsign =
        originOrCallsign right.origin right.callsign
    · by_cases sequence : (messageSequence left).value = (messageSequence right).value
      · by_cases id : left.id = right.id
        · simp [time, origin, sequence, id]
        · have different : left.id.map UInt16.toNat ≠ right.id.map UInt16.toNat :=
            fun same => id (map_unit_injective same)
          simp only [time, origin, sequence, id, ne_eq, not_true_eq_false, if_false,
            lt_self_iff_false, true_and, false_or, different.le_iff_lt]
          exact sign_iff (unitsLess left.id right.id)
      · simp only [time, origin, sequence, ne_eq, not_true_eq_false, not_false_eq_true, if_false,
          if_true, lt_self_iff_false, true_and, false_or, false_and, or_false, sign_iff, and_self]
    · have different : (originOrCallsign left.origin left.callsign).map UInt16.toNat ≠
          (originOrCallsign right.origin right.callsign).map UInt16.toNat :=
        fun same => origin (map_unit_injective same)
      simp only [time, origin, different, ne_eq, not_true_eq_false, not_false_eq_true, if_false,
        if_true, lt_self_iff_false, true_and, false_or, false_and, or_false]
      exact sign_iff (unitsLess _ _)
  · simp only [time, ne_eq, not_false_eq_true, if_true, false_and, or_false, sign_iff, and_self]

/-- What the comparator looks at in a message. -/
def chatKey (message : ScriptMessage) : Lex (Int × Lex (List Nat × Lex (Int × List Nat))) :=
  objectKey (objectOf message)

/-- A key names the identifier of its message. -/
theorem chatKey_id {left right : ScriptMessage} (same : chatKey left = chatKey right) :
    left.id = right.id := by
  -- The identifier is the last part of the key.
  simp only [chatKey, objectKey, toLex_inj, Prod.mk.injEq] at same
  exact map_unit_injective same.2.2.2

/-- The list sorted by the comparator is the list sorted by key. -/
theorem sortMessages_eq (messages : List ScriptMessage) :
    sortMessages messages = sortBy chatKey messages := by
  -- The comparator orders two messages as their keys are ordered.
  have comparator :
      (fun left right => decide (compareMessages (objectOf left) (objectOf right) ≤ 0)) =
        fun left right => decide (chatKey left ≤ chatKey right) := by
    funext left right
    exact decide_eq_decide.mpr (compareMessages_key _ _).2
  rw [sortMessages, sortBy, comparator]

/-- What is put together from the attributes of an element compares like its message. -/
theorem objectKey_existingMessage (format : Double → JsString) {node : MessageNode}
    {message : ScriptMessage} (shows : node.content = nodeContent format message) :
    objectKey (existingMessage node) = chatKey message := by
  -- Numbers are read back from their texts, and the origin attribute holds the fallback already.
  have numeral : ∀ number : Double, (textNumber (if numberText number = [] then
      asciiUnits (ascii "0") else numberText number)).getD (.ofInt 0) = number := by
    intro number
    have nonempty : numberText number ≠ [] := by
      unfold numberText
      split
      · exact (asciiUnits_decimal _).1
      · simp
    rw [if_neg nonempty, textNumber_numberText]
    rfl
  have origin : originOrCallsign (originOrCallsign message.origin message.callsign) [] =
      originOrCallsign message.origin message.callsign := by
    unfold originOrCallsign
    split <;> simp_all
  simp only [chatKey, objectKey, existingMessage, objectOf, messageTime, messageSequence,
    scriptNumberOf, shows, nodeContent, numeral, origin, Option.getD_some]

end Comparing

section Displaying

variable (format : Double → JsString)

/-- The list shows exactly certain messages, in the order of the comparator, and knows them all. -/
structure Displays (view : ChatView) (shown : List ScriptMessage) : Prop where
  /-- The elements are those of the sorted messages. -/
  contents : view.list.map MessageNode.content =
    (sortBy chatKey shown).map (nodeContent format)
  /-- The identifiers that were noted are those of the messages. -/
  known : ∀ id, id ∈ view.knownIds ↔ ∃ message ∈ shown, message.id = id
  /-- No message is shown twice. -/
  distinct : shown.Nodup

/-- Messages that share an identifier are the same message. -/
def Identified (messages : List ScriptMessage) : Prop :=
  ∀ first ∈ messages, ∀ second ∈ messages, first.id = second.id → first = second

/-- Fewer messages are identified as well. -/
theorem Identified.mono {fewer messages : List ScriptMessage} (identified : Identified messages)
    (included : ∀ message ∈ fewer, message ∈ messages) : Identified fewer :=
  -- Two messages of the part are two messages of the whole.
  fun first firstMember second secondMember =>
    identified first (included first firstMember) second (included second secondMember)

/-- The key identifies messages that their identifiers identify. -/
theorem Identified.chatKey_injOn {messages : List ScriptMessage} (identified : Identified messages) :
    ∀ first ∈ messages, ∀ second ∈ messages, chatKey first = chatKey second → first = second :=
  -- The key contains the identifier.
  fun first firstMember second secondMember same =>
    identified first firstMember second secondMember (chatKey_id same)

variable {format}

/-- Filling the list shows the messages it is filled with. -/
theorem fillMessages_displays (localNodeId : JsString) {messages : List ScriptMessage}
    (named : ∀ message ∈ messages, message.id ≠ []) (distinct : messages.Nodup) :
    Displays format (fillMessages format localNodeId messages) messages := by
  have sorted := sortMessages_eq messages
  have members : ∀ message, message ∈ sortBy chatKey messages ↔ message ∈ messages :=
    fun message => (sortBy_perm chatKey messages).mem_iff
  unfold fillMessages
  dsimp only
  split
  · -- Nothing is shown of no messages.
    rename_i none
    have empty : messages = [] := by
      rw [sorted, (sortBy_perm chatKey messages).length_eq] at none
      exact List.length_eq_zero_iff.mp none
    subst empty
    exact ⟨by simp [sortBy], by simp, distinct⟩
  · refine ⟨?_, ?_, distinct⟩
    · rw [sorted, List.map_map]
      rfl
    · intro id
      simp only [sorted, List.mem_filter, List.mem_map, members, decide_eq_true_eq]
      constructor
      · intro found
        exact found.1
      · intro found
        obtain ⟨message, member, same⟩ := found
        exact ⟨⟨message, member, same⟩, same ▸ named message member⟩

/-- The loop inserts an element where the key of its message belongs. -/
theorem insertNode_contents {message : ScriptMessage} {node : MessageNode}
    (own : node.content = nodeContent format message) {list : List MessageNode}
    {shown : List ScriptMessage}
    (contents : list.map MessageNode.content = shown.map (nodeContent format)) :
    (insertNode message node list).map MessageNode.content =
      (insertBy chatKey message shown).map (nodeContent format) := by
  -- The induction is on the elements that are passed over.
  induction list generalizing shown with
  | nil =>
    have none : shown = [] := by simpa using contents.symm
    subst none
    simp [insertNode, insertBy, own]
  | cons existing rest ih =>
    cases shown with
    | nil => simp at contents
    | cons other later =>
      simp only [List.map_cons, List.cons.injEq] at contents
      obtain ⟨shows, restContents⟩ := contents
      have compared : compareMessages (objectOf message) (existingMessage existing) < 0 ↔
          chatKey message < chatKey other := by
        rw [(compareMessages_key _ _).1, objectKey_existingMessage format shows]
        rfl
      rw [insertNode, insertBy]
      by_cases before : chatKey message < chatKey other
      · rw [if_pos before, if_pos (compared.mpr before)]
        simp [own, shows, restContents]
      · rw [if_neg before, if_neg fun less => before (compared.mp less), List.map_cons, List.map_cons,
          ih restContents, shows]

/-- The messages shown after one more was handed over. -/
def showMessage (shown : List ScriptMessage) (message : ScriptMessage) : List ScriptMessage :=
  if message.id ∈ inheritedNames ∨ message ∈ shown then shown else message :: shown

/-- Appending a message shows it, unless it is shown already or its identifier is inherited. -/
theorem appendMessage_displays {view : ChatView} {shown : List ScriptMessage}
    (displays : Displays format view shown) {message : ScriptMessage} (named : message.id ≠ [])
    (identified : Identified (message :: shown)) :
    Displays format (appendMessage format view message).2 (showMessage shown message) := by
  -- A message with the same identifier is the same message.
  have noted : message.id ∈ view.knownIds ↔ message ∈ shown := by
    rw [displays.known]
    constructor
    · intro found
      obtain ⟨other, member, same⟩ := found
      exact identified other (by simp [member]) message (by simp) same ▸ member
    · intro member
      exact ⟨message, member, rfl⟩
  have passed : (message.id = [] ∨ isKnown view message.id = true) ↔
      (message.id ∈ inheritedNames ∨ message ∈ shown) := by
    simp [named, isKnown, noted]
  unfold appendMessage showMessage
  by_cases skipped : message.id ∈ inheritedNames ∨ message ∈ shown
  · rw [if_pos skipped, if_pos (passed.mpr skipped)]
    exact displays
  · rw [if_neg skipped, if_neg fun known => skipped (passed.mp known)]
    have fresh : message ∉ shown := fun member => skipped (.inr member)
    refine ⟨?_, ?_, List.nodup_cons.mpr ⟨fresh, displays.distinct⟩⟩
    · rw [← insertBy_sortBy chatKey message shown identified.chatKey_injOn]
      exact insertNode_contents rfl displays.contents
    · intro id
      simp only [List.mem_cons, displays.known, exists_eq_or_imp]
      exact or_congr_left eq_comm

/-- What is shown after several messages were handed over. -/
def showMessages (shown messages : List ScriptMessage) : List ScriptMessage :=
  messages.foldl showMessage shown

/-- After messages were handed over, those are shown that were, or that have a name of their own. -/
theorem mem_showMessages {message : ScriptMessage} {shown messages : List ScriptMessage} :
    message ∈ showMessages shown messages ↔
      message ∈ shown ∨ message ∈ messages ∧ message.id ∉ inheritedNames := by
  -- The induction is on the messages handed over, the first one first.
  induction messages generalizing shown with
  | nil => simp [showMessages]
  | cons first rest ih =>
    have step : message ∈ showMessage shown first ↔
        message ∈ shown ∨ message = first ∧ first.id ∉ inheritedNames := by
      unfold showMessage
      split
      · rename_i skipped
        constructor
        · exact .inl
        · intro either
          rcases either with old | ⟨same, own⟩
          · exact old
          · exact same ▸ skipped.resolve_left own
      · rename_i fresh
        simp only [not_or] at fresh
        simp [fresh.1, or_comm]
    have later : message ∈ showMessages (showMessage shown first) rest ↔ _ := ih
    rw [showMessages, List.foldl_cons, ← showMessages, later, step, List.mem_cons, or_assoc]
    refine or_congr_right ?_
    constructor
    · intro either
      rcases either with ⟨same, own⟩ | ⟨member, own⟩
      · exact ⟨.inl same, same ▸ own⟩
      · exact ⟨.inr member, own⟩
    · intro both
      rcases both with ⟨same | member, own⟩
      · exact .inl ⟨same, same ▸ own⟩
      · exact .inr ⟨member, own⟩

/-- Several messages, appended in order, are shown as they are handed over. -/
theorem appendMessages_displays {view : ChatView} {shown messages : List ScriptMessage}
    (displays : Displays format view shown) (named : ∀ message ∈ messages, message.id ≠ [])
    (identified : Identified (messages ++ shown)) :
    Displays format (appendMessages format view messages) (showMessages shown messages) := by
  induction messages generalizing view shown with
  | nil => exact displays
  | cons message rest ih =>
    have next := appendMessage_displays displays (named message (by simp))
      (identified.mono fun other member => by
        rcases List.mem_cons.mp member with same | old
        · simp [same]
        · simp [old])
    refine ih next (fun other member => named other (by simp [member]))
      (identified.mono fun other member => ?_)
    -- What is shown then was shown before, or was just handed over.
    rcases List.mem_append.mp member with later | old
    · simp [later]
    · have either : other ∈ shown ∨ other ∈ [message] ∧ other.id ∉ inheritedNames :=
        mem_showMessages.mp old
      rcases either with before | ⟨new, _⟩
      · simp [before]
      · simp [List.mem_singleton.mp new]

/-- An action shows the messages it hands over, whatever the node calls itself. -/
theorem chatStep_displays {view : ChatView} {shown : List ScriptMessage}
    (displays : Displays format view shown) (action : ChatAction)
    (named : ∀ message ∈ action.messages, message.id ≠ [])
    (identified : Identified (action.messages ++ shown)) :
    Displays format (chatStep format view action) (showMessages shown action.messages) := by
  -- A poll may name the node first, which displays nothing.
  cases action with
  | poll nodeId incoming =>
    have renamed : Displays format { view with
        localNodeId := if nodeId ≠ [] then nodeId else view.localNodeId } shown :=
      ⟨displays.contents, displays.known, displays.distinct⟩
    exact appendMessages_displays renamed named identified
  | sent message => exact appendMessages_displays displays named identified

/-- The messages a sequence of actions hands over. -/
def handedOver (actions : List ChatAction) : List ScriptMessage :=
  actions.flatMap ChatAction.messages

/-- After any actions, the list shows what it was filled with and what was handed over since. -/
theorem run_displays {view : ChatView} {shown : List ScriptMessage} {actions : List ChatAction}
    (displays : Displays format view shown)
    (named : ∀ message ∈ handedOver actions, message.id ≠ [])
    (identified : Identified (handedOver actions ++ shown)) :
    Displays format (run (chatStep format) view actions)
      (showMessages shown (handedOver actions)) := by
  -- The induction is on the actions, each of which keeps the list complete.
  induction actions generalizing view shown with
  | nil => exact displays
  | cons action rest ih =>
    have parts : handedOver (action :: rest) = action.messages ++ handedOver rest :=
      List.flatMap_cons
    rw [parts] at named identified ⊢
    have next := chatStep_displays displays action
      (fun message member => named message (by simp [member]))
      (identified.mono fun other member => by
        rcases List.mem_append.mp member with now | old
        · simp [now]
        · simp [old])
    have later := ih next (fun message member => named message (by simp [member]))
      (identified.mono fun other member => by
        rcases List.mem_append.mp member with later | old
        · simp [later]
        · rcases mem_showMessages.mp old with before | ⟨new, _⟩
          · simp [before]
          · simp [new])
    rw [run_cons, showMessages, List.foldl_append]
    exact later

/-- Lists that show the same messages have the same contents. -/
theorem Displays.contents_eq {left right : ChatView} {first second : List ScriptMessage}
    (leftDisplays : Displays format left first) (rightDisplays : Displays format right second)
    (identified : Identified first) (same : ∀ message, message ∈ first ↔ message ∈ second) :
    left.list.map MessageNode.content = right.list.map MessageNode.content := by
  -- The same messages in another order are sorted into the same list.
  have rearranged :=
    (List.perm_ext_iff_of_nodup leftDisplays.distinct rightDisplays.distinct).mpr same
  rw [leftDisplays.contents, rightDisplays.contents,
    sortBy_eq_of_perm chatKey rearranged identified.chatKey_injOn]

/-- A message is shown exactly when its content is listed. -/
theorem Displays.mem_contents_iff {view : ChatView} {shown : List ScriptMessage}
    (displays : Displays format view shown) {message : ScriptMessage}
    (identified : Identified (message :: shown)) :
    nodeContent format message ∈ view.list.map MessageNode.content ↔ message ∈ shown := by
  rw [displays.contents]
  constructor
  · intro listed
    obtain ⟨other, member, same⟩ := List.mem_map.mp listed
    have inShown := (sortBy_perm chatKey shown).mem_iff.mp member
    -- The content has the identifier of the message it was made of.
    have sameId : other.id = message.id := congrArg NodeContent.messageId same
    exact identified other (by simp [inShown]) message (by simp) sameId ▸ inShown
  · intro member
    exact List.mem_map_of_mem ((sortBy_perm chatKey shown).mem_iff.mpr member)

variable (format)

/-- The list shows what it would show if it were filled at once with all messages seen so far. -/
def FilledAtOnce (view : ChatView) (seen : List ScriptMessage) : Prop :=
  ∀ localNodeId, view.list.map MessageNode.content =
    (fillMessages format localNodeId seen.dedup).list.map MessageNode.content

/--
A list that shows the history and what was handed over is filled at once exactly when nothing was
dropped for its identifier.
-/
theorem Displays.filled_iff {view : ChatView} {history handed : List ScriptMessage}
    (displays : Displays format view (showMessages history handed))
    (named : ∀ message ∈ history ++ handed, message.id ≠ [])
    (identified : Identified (history ++ handed)) :
    FilledAtOnce format view (history ++ handed) ↔
      ∀ message ∈ handed, message ∈ history ∨ message.id ∉ inheritedNames := by
  have atOnce : ∀ nodeId, Displays format
      (fillMessages format nodeId (history ++ handed).dedup) (history ++ handed).dedup :=
    fun nodeId => fillMessages_displays nodeId
      (fun message member => named message (List.mem_dedup.mp member)) (List.nodup_dedup _)
  have shownSeen : ∀ message ∈ showMessages history handed, message ∈ history ++ handed := by
    intro message member
    rcases mem_showMessages.mp member with old | ⟨new, _⟩
    · exact List.mem_append_left _ old
    · exact List.mem_append_right _ new
  constructor
  · -- A dropped message would be listed in one list and not in the other.
    intro same message member
    have seen : message ∈ history ++ handed := List.mem_append_right _ member
    have listed := ((atOnce []).mem_contents_iff (identified.mono fun other inSeen => by
      rcases List.mem_cons.mp inSeen with new | old
      · exact new ▸ seen
      · exact List.mem_dedup.mp old)).mpr (List.mem_dedup.mpr seen)
    rw [← same []] at listed
    have shown := (displays.mem_contents_iff (identified.mono fun other inShown => by
      rcases List.mem_cons.mp inShown with new | old
      · exact new ▸ seen
      · exact shownSeen other old)).mp listed
    exact (mem_showMessages.mp shown).imp_right And.right
  · -- Nothing is dropped, so the same messages are shown.
    intro own nodeId
    refine displays.contents_eq (atOnce nodeId) (identified.mono shownSeen) fun message => ?_
    rw [List.mem_dedup]
    refine ⟨shownSeen message, fun seen => mem_showMessages.mpr ?_⟩
    rcases List.mem_append.mp seen with old | new
    · exact .inl old
    · exact (own message new).imp_right fun named => ⟨new, named⟩

/--
After every step, the list shows all messages seen so far as if it were filled with them at once,
exactly when each message that is handed over was in the history or has an identifier that object
literals do not inherit.
-/
theorem filledAtOnce_iff (localNodeId : JsString) {history : List ScriptMessage}
    {actions : List ChatAction}
    (named : ∀ message ∈ history ++ handedOver actions, message.id ≠ []) (distinct : history.Nodup)
    (identified : Identified (history ++ handedOver actions)) :
    (∀ count, FilledAtOnce format
        (run (chatStep format) (fillMessages format localNodeId history) (actions.take count))
        (history ++ handedOver (actions.take count))) ↔
      ∀ message ∈ handedOver actions, message ∈ history ∨ message.id ∉ inheritedNames := by
  have filled : Displays format (fillMessages format localNodeId history) history :=
    fillMessages_displays localNodeId (fun message member => named message (by simp [member]))
      distinct
  -- What a beginning of the run has handed over, the whole run has.
  have begun : ∀ count,
      ∀ message ∈ handedOver (actions.take count), message ∈ handedOver actions := by
    intro count message member
    obtain ⟨action, inTaken, inAction⟩ := List.mem_flatMap.mp member
    exact List.mem_flatMap.mpr ⟨action, List.mem_of_mem_take inTaken, inAction⟩
  have seen : ∀ count, ∀ message ∈ history ++ handedOver (actions.take count),
      message ∈ history ++ handedOver actions := by
    intro count message member
    rcases List.mem_append.mp member with old | new
    · exact List.mem_append_left _ old
    · exact List.mem_append_right _ (begun count message new)
  have step : ∀ count, FilledAtOnce format
      (run (chatStep format) (fillMessages format localNodeId history) (actions.take count))
      (history ++ handedOver (actions.take count)) ↔
        ∀ message ∈ handedOver (actions.take count),
          message ∈ history ∨ message.id ∉ inheritedNames := by
    intro count
    have shown : Displays format
        (run (chatStep format) (fillMessages format localNodeId history) (actions.take count))
        (showMessages history (handedOver (actions.take count))) := by
      refine run_displays filled
        (fun message member => named message (seen count message (by simp [member])))
        (identified.mono fun message member => seen count message ?_)
      rcases List.mem_append.mp member with new | old
      · exact List.mem_append_right _ new
      · exact List.mem_append_left _ old
    exact shown.filled_iff format
      (fun message member => named message (seen count message member))
      (identified.mono (seen count))
  constructor
  · -- The end of the run decides about every message.
    intro always
    have whole := (step actions.length).mp (always actions.length)
    rwa [List.take_length] at whole
  · intro own count
    exact (step count).mpr fun message member => own message (begun count message member)

/-- A poll that brings an older message inserts it in front. -/
theorem filledAtOnce_poll :
    let first : ScriptMessage := ⟨asciiUnits (ascii "a:1"), asciiUnits (ascii "a"),
      asciiUnits (ascii "Alice"), asciiUnits (ascii "hi"), .ofInt 1, .ofInt 5⟩
    let second : ScriptMessage := ⟨asciiUnits (ascii "b:1"), asciiUnits (ascii "b"),
      asciiUnits (ascii "Bob"), asciiUnits (ascii "ho"), .ofInt 1, .ofInt 3⟩
    ∀ count, FilledAtOnce (fun _ => [])
      (run (chatStep fun _ => []) (fillMessages (fun _ => []) [] [first])
        ([.poll [] [second, first]].take count))
      ([first] ++ handedOver ([.poll [] [second, first]].take count)) := by
  -- The second poll brings a message that sorts before the one displayed.
  intro first second
  have named : ∀ message ∈ [first] ++ handedOver [.poll [] [second, first]], message.id ≠ [] := by
    decide +kernel
  have identified : Identified ([first] ++ handedOver [.poll [] [second, first]]) := by
    unfold Identified
    decide +kernel
  exact (filledAtOnce_iff (fun _ => []) [] named (List.nodup_singleton first) identified).mpr
    (by decide +kernel)

/-- A message called `constructor` is never shown when a poll brings it. -/
theorem filledAtOnce_dropped :
    let message : ScriptMessage := ⟨asciiUnits (ascii "constructor"), asciiUnits (ascii "a"),
      asciiUnits (ascii "Alice"), asciiUnits (ascii "hi"), .ofInt 1, .ofInt 5⟩
    ¬FilledAtOnce (fun _ => [])
      (run (chatStep fun _ => []) (fillMessages (fun _ => []) [] []) [.poll [] [message]])
      (handedOver [.poll [] [message]]) := by
  -- The identifier is the name of a property every object inherits.
  intro message same
  have sorted : sortMessages [message] = [message] := List.mergeSort_singleton message
  have none : sortMessages [] = [] := List.mergeSort_nil
  have seen : (handedOver [.poll [] [message]]).dedup = [message] := by decide +kernel
  have lengths := congrArg List.length (same [])
  rw [seen] at lengths
  simp only [fillMessages, sorted, none] at lengths
  exact absurd lengths (by decide +kernel)

end Displaying

end LesChat.ChatPage
