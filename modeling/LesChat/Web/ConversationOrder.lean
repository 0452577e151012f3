import LesChat.Foundation.UnicodeOrder
import LesChat.Http.DeliveryOrder
import LesChat.Store.UsedNumbers
import LesChat.Web.ChatPageRuns

/-! The order of the LuCI list, compared with the order of the daemon's answer. -/

namespace LesChat.ChatPage

open Foundation

section Orders

variable (browser : Browser)

/-- What the script compares as the origin: everything before a NUL, or else the callsign. -/
def shownOrigin (message : ChatMessage) : JsString :=
  originOrCallsign (browser.decode (cString message.origin))
    (browser.decode (cString message.callsign))

/-- The order of the identifiers, as strings of the script. -/
def IdOrder (left right : ChatMessage) : Prop :=
  unitsLess (browser.decode (cString left.messageId)) (browser.decode (cString right.messageId))

/-- The order of the sequences, or of the identifiers where the sequences round to one number. -/
def SequenceOrder (left right : ChatMessage) : Prop :=
  if roundInt left.sequence ≠ roundInt right.sequence then left.sequence < right.sequence
  else IdOrder browser left right

/-- The order of the shown origins, or of what follows where these are the same. -/
def OriginOrder (left right : ChatMessage) : Prop :=
  if shownOrigin browser left ≠ shownOrigin browser right then
    unitsLess (shownOrigin browser left) (shownOrigin browser right)
  else SequenceOrder browser left right

/--
When the page and the daemon put one message before another alike.

Each field states it for messages that the daemon tells apart by that field, and whose origins
consist of the given characters.
-/
structure OrderedAlike (left right : ChatMessage) (leftChars rightChars : List Char) : Prop where
  /-- Clocks round to different numbers, or what the page goes on to happens to agree. -/
  clocks : left.createdAtMs ≠ right.createdAtMs →
    roundInt left.createdAtMs.toInt ≠ roundInt right.createdAtMs.toInt ∨
      (OriginOrder browser left right ↔ left.createdAtMs < right.createdAtMs)
  /-- Origins first differ in characters that are not mixed, unless a NUL or callsign interferes. -/
  origins : left.createdAtMs = right.createdAtMs → left.origin ≠ right.origin →
    if cString left.origin ≠ cString right.origin ∧ cString left.origin ≠ [] ∧
        cString right.origin ≠ [] then
      ∀ low high, firstDifference leftChars rightChars = some (low, high) → ¬Mixed low high
    else OriginOrder browser left right ↔ bytesLess left.origin right.origin
  /-- Sequences round to different numbers, unless callsigns stand for empty origins. -/
  sequences : left.createdAtMs = right.createdAtMs → left.origin = right.origin →
    left.sequence ≠ right.sequence →
    if shownOrigin browser left = shownOrigin browser right then
      roundInt left.sequence ≠ roundInt right.sequence ∨
        (IdOrder browser left right ↔ left.sequence < right.sequence)
    else unitsLess (shownOrigin browser left) (shownOrigin browser right) ↔
      left.sequence < right.sequence

/-- What the script compares of a message the daemon sends. -/
theorem chatKey_scripted {message : ChatMessage} (inRange : message.sequence ≤ maxInt64) :
    chatKey (message.scripted browser) =
      toLex (roundInt message.createdAtMs.toInt,
        toLex ((shownOrigin browser message).map UInt16.toNat, toLex (roundInt message.sequence,
          (browser.decode (cString message.messageId)).map UInt16.toNat))) := by
  -- A sequence in range is not negative in the document.
  rw [← toInt_ofNat_of_le inRange]
  rfl

/-- The script compares rounded clocks, origins, rounded sequences, and identifiers last. -/
theorem compareMessages_scripted {left right : ChatMessage} (leftRange : left.sequence ≤ maxInt64)
    (rightRange : right.sequence ≤ maxInt64) :
    compareMessages (objectOf (left.scripted browser)) (objectOf (right.scripted browser)) < 0 ↔
      if roundInt left.createdAtMs.toInt ≠ roundInt right.createdAtMs.toInt then
        left.createdAtMs < right.createdAtMs
      else OriginOrder browser left right := by
  have keys := (compareMessages_key (objectOf (left.scripted browser))
    (objectOf (right.scripted browser))).1
  rw [keys]
  change chatKey _ < chatKey _ ↔ _
  rw [chatKey_scripted browser leftRange, chatKey_scripted browser rightRange]
  simp only [Prod.Lex.toLex_lt_toLex]
  -- Numbers that stay different keep their order.
  by_cases clock : roundInt left.createdAtMs.toInt = roundInt right.createdAtMs.toInt
  · simp only [clock, lt_self_iff_false, false_or, true_and, ne_eq, not_true_eq_false, if_false,
      OriginOrder]
    by_cases origin : shownOrigin browser left = shownOrigin browser right
    · simp only [origin, lt_self_iff_false, false_or, true_and, not_true_eq_false, if_false,
        SequenceOrder, ne_eq]
      by_cases sequence : roundInt (left.sequence : Int) = roundInt (right.sequence : Int)
      · simp only [sequence, lt_self_iff_false, false_or, true_and, not_true_eq_false, if_false]
        rfl
      · simp only [sequence, false_and, or_false, not_false_eq_true, if_true,
          roundInt_lt_iff sequence, Int.ofNat_lt]
    · have different : (shownOrigin browser left).map UInt16.toNat ≠
          (shownOrigin browser right).map UInt16.toNat :=
        fun same => origin (map_unit_injective same)
      simp only [origin, different, false_and, or_false, not_false_eq_true, if_true]
      rfl
  · simp only [clock, false_and, or_false, ne_eq, not_false_eq_true, if_true, roundInt_lt_iff clock,
      Int64.lt_iff_toInt_lt]

/-- An origin with anything before its first NUL is shown as what stands there. -/
theorem shownOrigin_eq {browser : Browser} (lawful : browser.Lawful) {message : ChatMessage}
    {chars : List Char} (text : message.origin = encodeUtf8 chars)
    (nonempty : cString message.origin ≠ []) :
    shownOrigin browser message = encodeUtf16 (untilNul chars) := by
  -- The origin is not empty, so it is shown instead of the callsign.
  rw [text, cString_encodeUtf8] at nonempty
  have units : encodeUtf16 (untilNul chars) ≠ [] := by
    intro empty
    have none : untilNul chars = [] := encodeUtf16_injective empty
    exact nonempty (by rw [none]; rfl)
  rw [shownOrigin, text, cString_encodeUtf8, lawful.decode_encodeUtf8, originOrCallsign,
    if_pos units]

/-- Origins that differ before a NUL are ordered alike unless their first difference is mixed. -/
theorem unitsLess_shownOrigin {browser : Browser} (lawful : browser.Lawful)
    {left right : ChatMessage} {leftChars rightChars : List Char}
    (leftText : left.origin = encodeUtf8 leftChars)
    (rightText : right.origin = encodeUtf8 rightChars)
    (apart : cString left.origin ≠ cString right.origin) (leftNonempty : cString left.origin ≠ [])
    (rightNonempty : cString right.origin ≠ []) :
    shownOrigin browser left ≠ shownOrigin browser right ∧
      ((unitsLess (shownOrigin browser left) (shownOrigin browser right) ↔
          bytesLess left.origin right.origin) ↔
        ∀ low high, firstDifference leftChars rightChars = some (low, high) → ¬Mixed low high) := by
  -- Both are read up to a NUL byte, where the first difference of the texts is found.
  rw [← bytesLess_cString apart, shownOrigin_eq lawful leftText leftNonempty,
    shownOrigin_eq lawful rightText rightNonempty]
  rw [leftText, rightText, cString_encodeUtf8, cString_encodeUtf8] at apart ⊢
  have charsApart : untilNul leftChars ≠ untilNul rightChars := fun same => apart (congrArg _ same)
  refine ⟨fun same => charsApart (encodeUtf16_injective same), ?_⟩
  rw [← firstDifference_untilNul _ _ charsApart]
  exact encodeUtf16_lt_alike_iff _ _

/-- Messages with different clocks. -/
theorem orderedAlike_clocks {left right : ChatMessage} {leftChars rightChars : List Char}
    (clocks : left.createdAtMs ≠ right.createdAtMs) :
    ((if roundInt left.createdAtMs.toInt ≠ roundInt right.createdAtMs.toInt then
        left.createdAtMs < right.createdAtMs
      else OriginOrder browser left right) ↔ messageLess left right = true) ↔
      OrderedAlike browser left right leftChars rightChars := by
  -- The daemon decides by the clocks.
  have daemon : messageLess left right = true ↔ left.createdAtMs < right.createdAtMs := by
    simp [messageLess, clocks]
  have fields : OrderedAlike browser left right leftChars rightChars ↔
      (roundInt left.createdAtMs.toInt ≠ roundInt right.createdAtMs.toInt ∨
        (OriginOrder browser left right ↔ left.createdAtMs < right.createdAtMs)) :=
    ⟨fun alike => alike.clocks clocks,
      fun alike => ⟨fun _ => alike, fun same => absurd same clocks, fun same => absurd same clocks⟩⟩
  rw [daemon, fields]
  by_cases rounded : roundInt left.createdAtMs.toInt = roundInt right.createdAtMs.toInt
  · simp [rounded]
  · simp [rounded]

/-- Messages with the same clock and different origins. -/
theorem orderedAlike_origins {browser : Browser} (lawful : browser.Lawful)
    {left right : ChatMessage} {leftChars rightChars : List Char}
    (leftText : left.origin = encodeUtf8 leftChars)
    (rightText : right.origin = encodeUtf8 rightChars)
    (clocks : left.createdAtMs = right.createdAtMs) (origins : left.origin ≠ right.origin) :
    (OriginOrder browser left right ↔ messageLess left right = true) ↔
      OrderedAlike browser left right leftChars rightChars := by
  -- The daemon decides by the bytes of the origins.
  have daemon : messageLess left right = true ↔ bytesLess left.origin right.origin := by
    simp [messageLess, clocks, origins]
  rw [daemon]
  constructor
  · intro alike
    refine ⟨fun different => absurd clocks different, fun _ _ => ?_,
      fun _ same => absurd same origins⟩
    split
    · rename_i plain
      obtain ⟨shown, ordered⟩ :=
        unitsLess_shownOrigin lawful leftText rightText plain.1 plain.2.1 plain.2.2
      rw [OriginOrder, if_pos shown] at alike
      exact ordered.mp alike
    · exact alike
  · intro alike
    have field := alike.origins clocks origins
    split at field
    · rename_i plain
      obtain ⟨shown, ordered⟩ :=
        unitsLess_shownOrigin lawful leftText rightText plain.1 plain.2.1 plain.2.2
      rw [OriginOrder, if_pos shown]
      exact ordered.mpr field
    · exact field

/-- Messages with the same clock and origin and different sequences. -/
theorem orderedAlike_sequences {left right : ChatMessage} {leftChars rightChars : List Char}
    (clocks : left.createdAtMs = right.createdAtMs) (origins : left.origin = right.origin)
    (sequences : left.sequence ≠ right.sequence) :
    (OriginOrder browser left right ↔ messageLess left right = true) ↔
      OrderedAlike browser left right leftChars rightChars := by
  -- The daemon decides by the sequences.
  have daemon : messageLess left right = true ↔ left.sequence < right.sequence := by
    simp [messageLess, clocks, origins, sequences]
  have fields : OrderedAlike browser left right leftChars rightChars ↔
      if shownOrigin browser left = shownOrigin browser right then
        roundInt left.sequence ≠ roundInt right.sequence ∨
          (IdOrder browser left right ↔ left.sequence < right.sequence)
      else unitsLess (shownOrigin browser left) (shownOrigin browser right) ↔
        left.sequence < right.sequence :=
    ⟨fun alike => alike.sequences clocks origins sequences,
      fun alike => ⟨fun different => absurd clocks different,
        fun _ different => absurd origins different, fun _ _ _ => alike⟩⟩
  rw [daemon, fields, OriginOrder]
  by_cases shown : shownOrigin browser left = shownOrigin browser right
  · by_cases rounded : roundInt (left.sequence : Int) = roundInt (right.sequence : Int)
    · simp [shown, SequenceOrder, rounded]
    · simp [shown, SequenceOrder, rounded]
  · simp [shown]

/-- A message whose numbers are exact in the script, with an origin that is not cut. -/
structure Plain (message : ChatMessage) : Prop where
  /-- The clock has at most 53 bits. -/
  clock : message.createdAtMs.toInt.natAbs ≤ 2 ^ 53
  /-- So has the sequence. -/
  sequence : message.sequence ≤ 2 ^ 53
  /-- There is an origin. -/
  nonempty : message.origin ≠ []
  /-- It has no NUL byte. -/
  terminated : 0 ∉ message.origin

/-- Plain messages are ordered alike when their origins do not first differ in mixed characters. -/
theorem Plain.orderedAlike {browser : Browser} (lawful : browser.Lawful) {left right : ChatMessage}
    (leftPlain : Plain left) (rightPlain : Plain right) {leftChars rightChars : List Char}
    (leftText : left.origin = encodeUtf8 leftChars)
    (unmixed : ∀ low high, firstDifference leftChars rightChars = some (low, high) →
      ¬Mixed low high) : OrderedAlike browser left right leftChars rightChars := by
  have leftWhole := cString_of_noNul leftPlain.terminated
  have rightWhole := cString_of_noNul rightPlain.terminated
  constructor
  · intro clocks
    left
    rw [roundInt_of_le leftPlain.clock, roundInt_of_le rightPlain.clock]
    exact fun same => clocks (Int64.toInt_inj.mp same)
  · intro _ origins
    rw [leftWhole, rightWhole, if_pos ⟨origins, leftPlain.nonempty, rightPlain.nonempty⟩]
    exact unmixed
  · intro _ origins sequences
    -- The same origin is shown, whatever the callsigns are.
    have shown : shownOrigin browser left = shownOrigin browser right := by
      rw [shownOrigin_eq lawful leftText (by rw [leftWhole]; exact leftPlain.nonempty),
        shownOrigin_eq lawful (origins ▸ leftText) (by rw [rightWhole]; exact rightPlain.nonempty)]
    rw [if_pos shown]
    left
    rw [roundInt_of_le (by simpa using leftPlain.sequence),
      roundInt_of_le (by simpa using rightPlain.sequence)]
    exact fun same => sequences (Int.ofNat_inj.mp same)

/--
The page puts one of two messages that a store holds together before the other exactly when the
daemon does, if and only if rounding, surrogates, NUL bytes and callsigns do not interfere.
-/
theorem orderedAlike_iff {browser : Browser} (lawful : browser.Lawful) (calls : List StoreCall)
    {left right : ChatMessage} (leftStored : left ∈ (run storeStep .empty calls).database.rows)
    (rightStored : right ∈ (run storeStep .empty calls).database.rows)
    {leftChars rightChars : List Char} (leftText : left.origin = encodeUtf8 leftChars)
    (rightText : right.origin = encodeUtf8 rightChars) :
    (compareMessages (objectOf (left.scripted browser)) (objectOf (right.scripted browser)) < 0 ↔
        messageLess left right = true) ↔
      OrderedAlike browser left right leftChars rightChars := by
  have consistent := run_consistent calls
  have leftRange := consistent.inRange left (consistent.committed_of_mem leftStored)
  have rightRange := consistent.inRange right (consistent.committed_of_mem rightStored)
  rw [compareMessages_scripted browser leftRange rightRange]
  -- The first field the daemon tells the messages apart by says which condition matters.
  by_cases clocks : left.createdAtMs = right.createdAtMs
  · rw [if_neg (not_not.mpr (congrArg (fun clock => roundInt clock.toInt) clocks))]
    by_cases origins : left.origin = right.origin
    · by_cases sequences : left.sequence = right.sequence
      · -- Stored messages with the same origin and sequence are the same message.
        have same : left = right := List.inj_on_of_nodup_map
          (run storeStep .empty calls).database.messages.nodup_second leftStored rightStored
          (Prod.ext origins sequences)
        subst same
        refine iff_of_true ?_ ⟨fun different => absurd rfl different,
          fun _ different => absurd rfl different, fun _ _ different => absurd rfl different⟩
        simp [OriginOrder, SequenceOrder, IdOrder, unitsLess, messageLess, bytesLess]
      · exact orderedAlike_sequences browser clocks origins sequences
    · exact orderedAlike_origins lawful leftText rightText clocks origins
  · exact orderedAlike_clocks browser clocks

/-- Two messages of one minute, from nodes with plain names. -/
theorem orderedAlike_plain :
    let left : ChatMessage :=
      ⟨1, ascii "b:1", ascii "b", ascii "Bob", defaultChannel, 5, ascii "hi"⟩
    let right : ChatMessage :=
      ⟨2, ascii "a:2", ascii "a", ascii "Alice", defaultChannel, 6, ascii "ho"⟩
    compareMessages (objectOf (left.scripted plainBrowser))
      (objectOf (right.scripted plainBrowser)) < 0 ↔ messageLess left right = true := by
  -- Both messages have small numbers and ASCII names.
  intro left right
  have leftPlain : Plain left := ⟨by decide, by decide, by decide +kernel, by decide +kernel⟩
  have rightPlain : Plain right := ⟨by decide, by decide, by decide +kernel, by decide +kernel⟩
  have leftText : left.origin = encodeUtf8 ['b'] := by decide +kernel
  have rightText : right.origin = encodeUtf8 ['a'] := by decide +kernel
  have unmixed : ∀ low high, firstDifference ['b'] ['a'] = some (low, high) → ¬Mixed low high := by
    intro low high differ
    cases differ
    decide
  exact (orderedAlike_iff plainBrowser_lawful [.add {} left, .add {} right] (by decide +kernel)
    (by decide +kernel) leftText rightText).mpr
    (leftPlain.orderedAlike plainBrowser_lawful rightPlain leftText unmixed)

/-- A full-width letter is sent before an emoji as an origin, and shown behind it. -/
theorem conversation_reordered :
    let left : ChatMessage :=
      ⟨1, ascii "1", encodeUtf8 ['Ａ'], ascii "Alice", defaultChannel, 5, ascii "hi"⟩
    let right : ChatMessage :=
      ⟨1, ascii "2", encodeUtf8 ['😀'], ascii "Bob", defaultChannel, 5, ascii "ho"⟩
    let store := run storeStep .empty [.add {} left, .add {} right]
    left ∈ store.messages ∧ right ∈ store.messages ∧
      (∃ object, parseMessage object = some left) ∧ (∃ object, parseMessage object = some right) ∧
      ¬(compareMessages (objectOf (left.scripted plainBrowser))
          (objectOf (right.scripted plainBrowser)) < 0 ↔ messageLess left right = true) := by
  intro left right store
  have leftRead : parseMessage (messageToJson left) = some left := by decide +kernel
  have rightRead : parseMessage (messageToJson right) = some right := by decide +kernel
  refine ⟨by decide +kernel, by decide +kernel, ⟨_, leftRead⟩, ⟨_, rightRead⟩, ?_⟩
  rw [compareMessages_scripted plainBrowser (by decide) (by decide), if_neg (by decide +kernel)]
  intro alike
  have apart : left.origin ≠ right.origin := by decide +kernel
  have clocks : left.createdAtMs = right.createdAtMs := rfl
  have leftText : left.origin = encodeUtf8 ['Ａ'] := rfl
  have rightText : right.origin = encodeUtf8 ['😀'] := rfl
  have ordered :=
    (orderedAlike_origins plainBrowser_lawful leftText rightText clocks apart).mp alike
  -- One character is above the surrogates as a code unit, and below as a code point.
  have unmixed := ordered.origins clocks apart
  rw [if_pos (by decide +kernel)] at unmixed
  exact unmixed 'Ａ' '😀' rfl (by decide)

end Orders

end LesChat.ChatPage
