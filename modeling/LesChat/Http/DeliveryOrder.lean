import LesChat.Foundation.Sorting
import LesChat.Http.HttpApiLaws
import LesChat.Service.NodeRuns
import Mathlib.Data.List.Lex
import Mathlib.Data.List.Pairwise
import Mathlib.Data.Prod.Lex

/-! Deliveries in any order leave the same messages, the same marks and the same list behind. -/

namespace LesChat

open Foundation

/-- What `get_messages` sorts by: the clock, the origin, the sequence and the identifier. -/
def sortKey (message : ChatMessage) : Lex (Int × Lex (List Nat × Lex (Nat × List Nat))) :=
  toLex (message.createdAtMs.toInt, toLex (message.origin.map UInt8.toNat,
    toLex (message.sequence, message.messageId.map UInt8.toNat)))

/-- The comparator compares keys, field by field. -/
theorem messageLess_iff (left right : ChatMessage) :
    messageLess left right = true ↔ sortKey left < sortKey right := by
  -- Each field decides only when the ones before it agree.
  simp only [sortKey, Prod.Lex.toLex_lt_toLex, Int64.toInt_inj]
  unfold messageLess
  by_cases clock : left.createdAtMs = right.createdAtMs
  · by_cases origin : left.origin = right.origin
    · by_cases sequence : left.sequence = right.sequence
      · simp only [clock, origin, sequence, bytesLess, ne_eq, not_true_eq_false, if_false,
          lt_self_iff_false, true_and, false_or]
        exact decide_eq_true_iff
      · simp [clock, origin, sequence]
    · have different : left.origin.map UInt8.toNat ≠ right.origin.map UInt8.toNat :=
        fun same => origin (map_toNat_injective same)
      simp only [clock, origin, different, bytesLess, ne_eq, not_true_eq_false, not_false_eq_true,
        if_false, if_true, lt_self_iff_false, true_and, false_or, false_and, or_false]
      exact decide_eq_true_iff
  · simp [clock, Int64.lt_iff_toInt_lt]

/-- The list `get_messages` sends is the list sorted by key. -/
theorem sortedMessages_eq (messages : List ChatMessage) :
    sortedMessages messages = sortBy sortKey messages := by
  -- A message may stand before another when the comparator does not put it behind.
  have comparator : (fun left right => !messageLess right left) =
      fun left right => decide (sortKey left ≤ sortKey right) := by
    funext left right
    rw [Bool.eq_iff_iff, decide_eq_true_eq, ← not_lt, ← messageLess_iff]
    simp
  rw [sortedMessages, sortBy, comparator]

/-- A key names the origin, the sequence and the identifier of its message. -/
theorem sortKey_messageId {left right : ChatMessage} (same : sortKey left = sortKey right) :
    left.messageId = right.messageId := by
  -- The identifier is the last part of the key.
  simp only [sortKey, toLex_inj, Prod.mk.injEq] at same
  exact map_toNat_injective same.2.2.2

/-- One delivery of a message to a running service. -/
inductive Delivery where
  /-- Through `ingest_replica`. -/
  | replica (lookup : SqliteResult) (results : AddResults) (message : ChatMessage)
  /-- Through `ingest_sync`. -/
  | sync (results : AddResults) (message : ChatMessage)

/-- The message delivered. -/
def Delivery.message : Delivery → ChatMessage
  | .replica _ _ message => message
  | .sync _ message => message

/-- How the calls of the `add` of a delivery end, if it is made. -/
def Delivery.results : Delivery → AddResults
  | .replica _ results _ => results
  | .sync results _ => results

/-- The service after a delivery. -/
def deliver (library : JsonC) (service : MessageService) : Delivery → MessageService
  | .replica lookup results message => (ingestReplica library lookup results message service).2
  | .sync results message => (ingestSync library results message service).2

/-- A set of messages in which any two are apart. -/
def Conflictless (messages : List ChatMessage) : Prop := messages.Pairwise Apart

/-- Whether messages conflict can be checked. -/
instance (messages : List ChatMessage) : Decidable (Conflictless messages) :=
  inferInstanceAs (Decidable (messages.Pairwise Apart))

/--
Deliveries of a set of messages, each at least once without a failing call.

Other deliveries may fail, but none of them finds the database full.
-/
structure Delivers (messages : List ChatMessage) (deliveries : List Delivery) : Prop where
  /-- Nothing else is delivered. -/
  only : ∀ delivery ∈ deliveries, delivery.message ∈ messages
  /-- No insert hits the size limit. -/
  neverFull : ∀ delivery ∈ deliveries, delivery.results.first.NeverFull
  /-- Every message is delivered. -/
  each : ∀ message ∈ messages, ∃ delivery ∈ deliveries,
    delivery.message = message ∧ delivery.results.first = {}

/-- Messages that agree on a unique key are the same message. -/
theorem Conflictless.eq_of_same {messages : List ChatMessage} (conflictless : Conflictless messages)
    {left right : ChatMessage} (leftMember : left ∈ messages) (rightMember : right ∈ messages)
    (same : left.messageId = right.messageId ∨
      (left.origin, left.sequence) = (right.origin, right.sequence)) : left = right := by
  by_contra different
  -- Different members would stand in the pairwise relation, one way or the other.
  have apart := List.Pairwise.forall conflictless leftMember rightMember different
  rcases same with sameId | sameKey
  · exact apart.1 sameId
  · exact apart.2 sameKey

/-- A member of a conflict-free set that is not stored yet collides with nothing stored. -/
theorem Conflictless.fresh {messages : List ChatMessage} (conflictless : Conflictless messages)
    {database : Database} (within : ∀ row ∈ database.rows, row ∈ messages) {message : ChatMessage}
    (member : message ∈ messages) (absent : message ∉ database.rows) :
    database.messages.Fresh message := by
  -- A row that shared one of the two keys would be the message itself.
  intro row stored
  refine ⟨fun sameId => ?_, fun sameKey => ?_⟩
  · exact absent (conflictless.eq_of_same (within row stored) member (.inl sameId) ▸ stored)
  · exact absent (conflictless.eq_of_same (within row stored) member (.inr sameKey) ▸ stored)

/-- What holds of a store into which only such messages were delivered. -/
structure MessageStore.Collects (messages : List ChatMessage) (store : MessageStore) : Prop where
  /-- The store is sound. -/
  sound : store.Sound
  /-- Every row is cached. -/
  cached : store.messages = store.database.rows
  /-- Nothing was pruned. -/
  unpruned : store.database.committed = store.database.rows
  /-- Every row is one of the messages. -/
  within : ∀ row ∈ store.database.rows, row ∈ messages

/-- Adding one of the messages collects it, or leaves the store alone. -/
theorem MessageStore.Collects.add {messages : List ChatMessage} {store : MessageStore}
    (collects : store.Collects messages) {message : ChatMessage} (member : message ∈ messages)
    {results : AddResults} (neverFull : results.first.NeverFull) :
    (add results message store).2.Collects messages ∧
      ∀ row ∈ store.messages, row ∈ (LesChat.add results message store).2.messages := by
  have sound := (add_added results message store).sound collects.sound
  rcases add_neverFull neverFull message store with
    ⟨error, outcome⟩ | ⟨fresh, outcome⟩ | ⟨collides, outcome⟩
  · rw [outcome]
    exact ⟨collects, fun row stored => stored⟩
  · -- The message is appended to the rows, to the cache and to the history.
    rw [outcome] at sound ⊢
    refine ⟨⟨sound, ?_, ?_, ?_⟩, fun row stored => List.mem_append_left _ stored⟩
    · simp [collects.cached]
    · simp [collects.unpruned]
    · intro row stored
      rw [Database.rows_store] at stored
      rcases List.mem_append.mp stored with old | new
      · exact collects.within row old
      · rw [List.mem_singleton.mp new]
        exact member
  · rw [outcome]
    exact ⟨collects, fun row stored => stored⟩

/-- Adding one of the messages without a failing call leaves it stored. -/
theorem MessageStore.Collects.mem_add {messages : List ChatMessage}
    (conflictless : Conflictless messages) {store : MessageStore} (collects : store.Collects messages)
    {message : ChatMessage} (member : message ∈ messages) (inRange : message.sequence ≤ maxInt64)
    {results : AddResults} (clean : results.first = {}) :
    message ∈ (LesChat.add results message store).2.messages := by
  have neverFull : results.first.NeverFull := clean ▸ InsertResults.neverFull_default
  obtain ⟨inserted, returned⟩ := add_returns clean inRange store
  rcases add_neverFull neverFull message store with
    ⟨error, outcome⟩ | ⟨fresh, outcome⟩ | ⟨collides, outcome⟩
  · simp [outcome] at returned
  · simp [outcome]
  · -- Only the message itself can be what it collided with.
    rw [outcome, collects.cached]
    by_contra absent
    exact collides (conflictless.fresh collects.within member absent)

/-- A message whose identifier is found is the stored one. -/
theorem MessageStore.Collects.mem_of_contains {messages : List ChatMessage}
    (conflictless : Conflictless messages) {store : MessageStore} (collects : store.Collects messages)
    {message : ChatMessage} (member : message ∈ messages) {lookup : SqliteResult}
    (known : contains lookup message.messageId store = true) : message ∈ store.messages := by
  -- The row that was found has the identifier of the message, so it is the message.
  simp only [contains, Bool.and_eq_true, List.any_eq_true, beq_iff_eq] at known
  obtain ⟨_, row, stored, sameId⟩ := known
  rw [collects.cached, ← conflictless.eq_of_same (collects.within row stored) member (.inl sameId)]
  exact stored

/-- A delivery collects its message or leaves the store alone, by either path. -/
theorem deliver_collects (library : JsonC) {messages : List ChatMessage} {service : MessageService}
    {delivery : Delivery} (collects : service.store.Collects messages)
    (member : delivery.message ∈ messages) (neverFull : delivery.results.first.NeverFull) :
    (deliver library service delivery).store.Collects messages ∧
      ∀ row ∈ service.store.messages, row ∈ (deliver library service delivery).store.messages := by
  cases delivery with
  | replica lookup results message =>
    simp only [deliver, ingestReplica_store]
    -- A message that is found changes nothing.
    split
    · exact ⟨collects, fun row stored => stored⟩
    · exact collects.add member neverFull
  | sync results message =>
    simp only [deliver, ingestSync_store]
    exact collects.add member neverFull

/-- A delivery without a failing call leaves its message stored, by either path. -/
theorem deliver_mem (library : JsonC) {messages : List ChatMessage}
    (conflictless : Conflictless messages) {service : MessageService} {delivery : Delivery}
    (collects : service.store.Collects messages) (member : delivery.message ∈ messages)
    (inRange : delivery.message.sequence ≤ maxInt64) (clean : delivery.results.first = {}) :
    delivery.message ∈ (deliver library service delivery).store.messages := by
  cases delivery with
  | replica lookup results message =>
    simp only [deliver, ingestReplica_store]
    split
    · -- What is found is there already.
      rename_i known
      exact collects.mem_of_contains conflictless member known
    · exact collects.mem_add conflictless member inRange clean
  | sync results message =>
    simp only [deliver, ingestSync_store]
    exact collects.mem_add conflictless member inRange clean

/-- A run of deliveries collects everything it was given, and loses nothing on the way. -/
theorem run_deliver (library : JsonC) {messages : List ChatMessage}
    (conflictless : Conflictless messages)
    (inRange : ∀ message ∈ messages, message.sequence ≤ maxInt64) (deliveries : List Delivery)
    (only : ∀ delivery ∈ deliveries, delivery.message ∈ messages)
    (neverFull : ∀ delivery ∈ deliveries, delivery.results.first.NeverFull)
    {service : MessageService} (collects : service.store.Collects messages) :
    (run (deliver library) service deliveries).store.Collects messages ∧
      ∀ message, message ∈ service.store.messages ∨ (∃ delivery ∈ deliveries,
        delivery.message = message ∧ delivery.results.first = {}) →
      message ∈ (run (deliver library) service deliveries).store.messages := by
  -- The induction follows the deliveries: what is stored stays, and each one may add its message.
  induction deliveries generalizing service with
  | nil =>
    refine ⟨collects, fun message stored => ?_⟩
    simpa using stored
  | cons delivery rest ih =>
    have here := only delivery (by simp)
    obtain ⟨next, kept⟩ := deliver_collects library collects here (neverFull delivery (by simp))
    obtain ⟨final, stored⟩ := ih (fun other member => only other (by simp [member]))
      (fun other member => neverFull other (by simp [member])) next
    refine ⟨final, fun message given => stored message ?_⟩
    rcases given with before | ⟨other, member, named, clean⟩
    · exact .inl (kept message before)
    · rcases List.mem_cons.mp member with rfl | later
      · subst named
        exact .inl (deliver_mem library conflictless collects here (inRange _ here) clean)
      · exact .inr ⟨other, later, named, clean⟩

/-- Deliveries of a set of messages end with exactly that set. -/
theorem Delivers.mem_iff {messages : List ChatMessage} {deliveries : List Delivery}
    (delivers : Delivers messages deliveries) (library : JsonC) (identity : NodeIdentity)
    (conflictless : Conflictless messages)
    (inRange : ∀ message ∈ messages, message.sequence ≤ maxInt64) :
    let store := (run (deliver library) (MessageService.initial identity) deliveries).store
    store.Collects messages ∧ ∀ message, message ∈ store.messages ↔ message ∈ messages := by
  have empty : (MessageService.initial identity).store.Collects messages :=
    ⟨MessageStore.sound_empty, rfl, rfl, by simp [MessageService.initial, MessageStore.empty,
      Database.empty, Database.rows]⟩
  -- Whatever is delivered is one of the messages, and each of them is at least once.
  obtain ⟨collects, stored⟩ := run_deliver library conflictless inRange deliveries delivers.only
    delivers.neverFull empty
  refine ⟨collects, fun message => ⟨fun member => ?_, fun member => ?_⟩⟩
  · rw [collects.cached] at member
    exact collects.within message member
  · exact stored message (.inr (delivers.each message member))

/-- The mark of an origin depends only on which messages were committed. -/
theorem Database.Consistent.mark_congr {left right : Database} (leftConsistent : left.Consistent)
    (rightConsistent : right.Consistent)
    (same : ∀ message, message ∈ left.committed ↔ message ∈ right.committed) (origin : Bytes) :
    left.sequences.get? origin = right.sequences.get? origin := by
  have value : left.sequences.value origin = right.sequences.value origin := by
    rw [leftConsistent.mark_eq, rightConsistent.mark_eq]
    exact highWater_congr _ _ same origin
  -- Whether there is a mark, and then which, is the same on both sides.
  have present : (left.sequences.get? origin).isSome ↔ (right.sequences.get? origin).isSome := by
    rw [leftConsistent.marked, rightConsistent.marked]
    simp only [same]
  simp only [Marks.value] at value
  cases leftMark : left.sequences.get? origin <;> cases rightMark : right.sequences.get? origin <;>
    simp_all

/--
Delivery order does not matter.

Two services that were delivered the same messages, in any order and by any path, end with the
same messages, the same marks and the same answer, which lists the messages sorted by key.
-/
theorem deliveries_commute (library : JsonC) (identity : NodeIdentity)
    {messages : List ChatMessage} (conflictless : Conflictless messages)
    (inRange : ∀ message ∈ messages, message.sequence ≤ maxInt64)
    {first second : List Delivery} (firstDelivers : Delivers messages first)
    (secondDelivers : Delivers messages second) :
    let left := (run (deliver library) (MessageService.initial identity) first).store
    let right := (run (deliver library) (MessageService.initial identity) second).store
    (∀ message, message ∈ left.messages ↔ message ∈ right.messages) ∧
      (∀ message, message ∈ left.database.rows ↔ message ∈ right.database.rows) ∧
      (sequenceSummary left.database).Perm (sequenceSummary right.database) ∧
      getMessages library left.messages = getMessages library right.messages ∧
      getMessages library left.messages = okResponse (serializeJson library (.object [
        (ascii "messages", .array ((sortedMessages left.messages).map messageToJson)),
        (ascii "count", .int (sortedMessages left.messages).length)])) ∧
      (sortedMessages left.messages).Perm messages ∧
      (sortedMessages left.messages).Pairwise fun earlier later => sortKey earlier < sortKey later := by
  intro left right
  obtain ⟨leftCollects, leftMem⟩ := firstDelivers.mem_iff library identity conflictless inRange
  obtain ⟨rightCollects, rightMem⟩ := secondDelivers.mem_iff library identity conflictless inRange
  have same : ∀ message, message ∈ left.messages ↔ message ∈ right.messages := fun message =>
    (leftMem message).trans (rightMem message).symm
  -- The cached lists have no duplicates, so they are rearrangements of the set and of each other.
  have leftOnce : left.messages.Nodup := List.Nodup.of_map _ leftCollects.sound.nodup_messageId
  have rightOnce : right.messages.Nodup := List.Nodup.of_map _ rightCollects.sound.nodup_messageId
  have once : messages.Nodup := List.Pairwise.imp
    (fun apart same => apart.1 (congrArg ChatMessage.messageId same)) conflictless
  have rearranged : left.messages.Perm right.messages :=
    (List.perm_ext_iff_of_nodup leftOnce rightOnce).mpr same
  have identifies : ∀ earlier ∈ left.messages, ∀ later ∈ left.messages,
      sortKey earlier = sortKey later → earlier = later := by
    intro earlier earlierMember later laterMember sameKey
    exact List.inj_on_of_nodup_map leftCollects.sound.nodup_messageId earlierMember laterMember
      (sortKey_messageId sameKey)
  have sorted : sortedMessages left.messages = sortedMessages right.messages := by
    rw [sortedMessages_eq, sortedMessages_eq]
    exact sortBy_eq_of_perm sortKey rearranged identifies
  have arranged : (sortedMessages left.messages).Perm left.messages := by
    rw [sortedMessages_eq]
    exact sortBy_perm sortKey _
  refine ⟨same, ?_, ?_, ?_, ?_, ?_, ?_⟩
  · rw [← leftCollects.cached, ← rightCollects.cached]
    exact same
  · -- Each table lists every mark once, and the marks agree.
    have committed : ∀ message,
        message ∈ left.database.committed ↔ message ∈ right.database.committed := by
      rw [leftCollects.unpruned, rightCollects.unpruned, ← leftCollects.cached,
        ← rightCollects.cached]
      exact same
    refine (List.perm_ext_iff_of_nodup (List.Nodup.of_map _ left.database.sequences.unique)
      (List.Nodup.of_map _ right.database.sequences.unique)).mpr ?_
    intro both
    obtain ⟨origin, rank⟩ := both
    rw [Marks.mem_entries_iff, Marks.mem_entries_iff,
      leftCollects.sound.consistent.mark_congr rightCollects.sound.consistent committed]
  · simp only [getMessages, sorted]
  · rw [getMessages_eq, messagesDocument_eq]
  · exact arranged.trans ((List.perm_ext_iff_of_nodup leftOnce once).mpr leftMem)
  · -- The order is strict, since no two listed messages share a key.
    have ordered := sortBy_ordered sortKey left.messages
    rw [← sortedMessages_eq] at ordered
    have distinct : (sortedMessages left.messages).Nodup := arranged.nodup_iff.mpr leftOnce
    refine (ordered.and distinct).imp_of_mem ?_
    intro earlier later earlierMember laterMember ⟨le, different⟩
    refine lt_of_le_of_ne le fun sameKey => different ?_
    exact identifies earlier (arranged.mem_iff.mp earlierMember) later
      (arranged.mem_iff.mp laterMember) sameKey

/-- Two messages in either order, one of them twice, are listed alike. -/
theorem deliveries_commute_pair :
    let message (origin : String) (clock : Int64) : ChatMessage :=
      ⟨1, ascii origin ++ ascii ":1", ascii origin, ascii "Alice", defaultChannel, clock, ascii "hi"⟩
    let deliver (deliveries : List Delivery) : MessageStore :=
      (run (deliver plainJsonC) (MessageService.initial ⟨ascii "c", ascii "Carol"⟩) deliveries).store
    let left := deliver [.replica .ok {} (message "a" 7), .sync {} (message "b" 5),
      .sync {} (message "a" 7)]
    let right := deliver [.sync {} (message "b" 5), .replica .error {} (message "a" 7)]
    getMessages plainJsonC left.messages = getMessages plainJsonC right.messages ∧
      left.messages.map ChatMessage.origin = [ascii "a", ascii "b"] ∧
      right.messages.map ChatMessage.origin = [ascii "b", ascii "a"] := by
  intro message deliver left right
  have delivers : ∀ deliveries : List Delivery,
      (∀ delivery ∈ deliveries, delivery.message ∈ [message "a" 7, message "b" 5] ∧
        delivery.results.first = {}) →
      (∀ expected ∈ [message "a" 7, message "b" 5], ∃ delivery ∈ deliveries,
        delivery.message = expected ∧ delivery.results.first = {}) →
      Delivers [message "a" 7, message "b" 5] deliveries := by
    intro deliveries clean each
    refine ⟨fun delivery member => (clean delivery member).1, fun delivery member => ?_, each⟩
    rw [(clean delivery member).2]
    exact InsertResults.neverFull_default
  -- One order delivers a message twice, the other misses it in a failing lookup.
  have commute := deliveries_commute plainJsonC ⟨ascii "c", ascii "Carol"⟩
    (by decide +kernel) (by decide +kernel)
    (delivers [.replica .ok {} (message "a" 7), .sync {} (message "b" 5), .sync {} (message "a" 7)]
      (by decide +kernel) (by decide +kernel))
    (delivers [.sync {} (message "b" 5), .replica .error {} (message "a" 7)]
      (by decide +kernel) (by decide +kernel))
  exact ⟨commute.2.2.2.1, by decide +kernel, by decide +kernel⟩

end LesChat
