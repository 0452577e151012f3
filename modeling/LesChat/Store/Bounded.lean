import Mathlib.Algebra.Order.BigOperators.Group.List
import LesChat.Message.Codec
import LesChat.Store.Attempts
import LesChat.Store.StoreRuns

/-! The bounded store: a database that is full by the size of its rows, and what pruning frees. -/

namespace LesChat

open Foundation

/-- The most text bytes a row of an accepted message takes. -/
def maxRowBytes : Nat := 64 + 160 + 64 + defaultChannel.length + maxMessageBytes

/-- How the database accounts for its rows, and the size it may reach. -/
structure SizeLimit where
  /-- What a row takes besides the bytes of its text columns. -/
  overhead : Nat
  /-- Every row takes something. -/
  overhead_pos : 0 < overhead
  /-- The total size all rows may have. -/
  budget : Nat
  /-- A hundred and one messages of the largest size fit with their marks. -/
  roomy : 101 * (overhead + maxRowBytes + (overhead + 64)) ≤ budget

namespace SizeLimit

variable (limit : SizeLimit)

/-- The size of a row of `messages`. -/
def rowSize (message : ChatMessage) : Nat :=
  limit.overhead + message.origin.length + message.messageId.length + message.callsign.length +
    message.channel.length + message.body.length

/-- The size of a row of `sequences`. -/
def markSize (origin : Bytes) : Nat := limit.overhead + origin.length

/-- The size of all the rows of both tables. -/
def size (database : Database) : Nat :=
  (database.rows.map limit.rowSize).sum +
    ((database.sequences.entries.map Prod.fst).map limit.markSize).sum

/-- How much the insert into `messages` adds: nothing when the row is ignored. -/
def rowGrowth (message : ChatMessage) (database : Database) : Nat :=
  if database.messages.Fresh message then limit.rowSize message else 0

/-- How much the upsert into `sequences` adds: nothing when the origin has a mark. -/
def markGrowth (message : ChatMessage) (database : Database) : Nat :=
  if message.origin ∈ database.sequences.entries.map Prod.fst then 0
  else limit.markSize message.origin

/-- A statement that leaves the rows with a total size is refused when that is over the budget. -/
def resultAt (total : Nat) : SqliteResult := if total ≤ limit.budget then .ok else .full

/-- The results of one attempt: a statement fails exactly when the rows would outgrow the budget. -/
def attempt (message : ChatMessage) (database : Database) : InsertResults where
  insert := limit.resultAt (limit.size database + limit.rowGrowth message database)
  updateMark := limit.resultAt
    (limit.size database + limit.rowGrowth message database + limit.markGrowth message database)

/-- The results of an `add`, whose second attempt finds the rows that pruning leaves. -/
def results (store : MessageStore) (message : ChatMessage) : AddResults where
  first := limit.attempt message store.database
  second := limit.attempt message store.database.prune

/-- Offering a message to a store. -/
def offer (store : MessageStore) (message : ChatMessage) : MessageStore :=
  (add (limit.results store message) message store).2

/-- The store takes a message: `add` returns true, and `messages()` then ends with it. -/
def Takes (store : MessageStore) (message : ChatMessage) : Prop :=
  (add (limit.results store message) message store).1 = .ok true ∧
    (limit.offer store message).messages.getLast? = some message

/-- A message fits once the oldest rows are gone. -/
def Fits (store : MessageStore) (message : ChatMessage) : Prop :=
  limit.size store.database.prune + limit.rowSize message +
    limit.markGrowth message store.database ≤ limit.budget

/-- Whether a message fits can be computed. -/
instance (store : MessageStore) (message : ChatMessage) : Decidable (limit.Fits store message) :=
  inferInstanceAs (Decidable (_ ≤ _))

/-- Storing a message adds its row, and a mark when its origin has none. -/
theorem size_store (database : Database) (message : ChatMessage)
    (fresh : database.messages.Fresh message) :
    limit.size (database.store message fresh) =
      limit.size database + limit.rowSize message + limit.markGrowth message database := by
  -- A new row adds its size, and its origin an entry when it has none yet.
  by_cases known : message.origin ∈ database.sequences.entries.map Prod.fst
  · -- Raising an existing mark leaves the keys, and with them the sizes, as they are.
    have keys : (database.store message fresh).sequences.entries.map Prod.fst =
        database.sequences.entries.map Prod.fst := (Keyed.keys_upsert _ _ _).trans (if_pos known)
    simp only [size, keys, Database.rows_store, markGrowth, if_pos known, List.map_append,
      List.sum_append, List.map_cons, List.map_nil, List.sum_singleton]
    omega
  · have keys : (database.store message fresh).sequences.entries.map Prod.fst =
        database.sequences.entries.map Prod.fst ++ [message.origin] :=
      (Keyed.keys_upsert _ _ _).trans (if_neg known)
    simp only [size, keys, Database.rows_store, markGrowth, if_neg known, List.map_append,
      List.sum_append, List.map_cons, List.map_nil, List.sum_singleton]
    omega

/-- Pruning frees the rows it deletes and no mark. -/
theorem size_prune_le (database : Database) : limit.size database.prune ≤ limit.size database := by
  -- What is left of the rows is a part of them.
  have part : ((database.rows.drop 100).map limit.rowSize).Sublist (database.rows.map limit.rowSize) :=
    (List.drop_sublist 100 database.rows).map _
  have less := part.sum_le_sum fun size _ => Nat.zero_le size
  simp only [size, Database.rows_prune, Database.sequences_prune]
  omega

/-- An attempt on a fresh message in range goes through exactly when both rows fit. -/
theorem attempt_outcome {message : ChatMessage} {database : Database}
    (inRange : message.sequence ≤ maxInt64) (fresh : database.messages.Fresh message) :
    (limit.attempt message database).outcome message database =
      limit.resultAt (limit.size database + limit.rowSize message +
        limit.markGrowth message database) := by
  have low : ¬message.sequence > maxInt64 := Nat.not_lt.mpr inRange
  -- A fresh row grows the table, so both statements are charged for it.
  simp only [InsertResults.outcome, attempt, rowGrowth, low, resultAt, fresh, true_and]
  -- A row that does not fit is over the budget with a mark as well.
  by_cases row : limit.size database + limit.rowSize message ≤ limit.budget
  · by_cases mark : limit.size database + limit.rowSize message +
        limit.markGrowth message database ≤ limit.budget
    · simp [row, mark]
    · simp [row, mark]
  · have mark : ¬limit.size database + limit.rowSize message +
        limit.markGrowth message database ≤ limit.budget := by omega
    simp [row, mark]

/-- A result under the limit is a success or a full database. -/
theorem resultAt_eq_ok (total : Nat) : limit.resultAt total = .ok ↔ total ≤ limit.budget := by
  -- Within the budget there is room, and beyond it the database is full.
  simp [resultAt]

/-- A store that accepts a fresh message answers true and ends with it. -/
theorem accept_of_fresh {store : MessageStore} {message : ChatMessage}
    (fresh : store.database.messages.Fresh message) :
    (store.accept message).1 = true ∧
      (store.accept message).2.messages.getLast? = some message ∧
      (store.accept message).2.database = store.database.store message fresh := by
  -- A fresh message is inserted, and cached behind the others.
  simp [MessageStore.accept, fresh]

/-- The rows of a represented store can be read back after pruning. -/
theorem reloads_pruned {store : MessageStore} (represented : store.Represented) :
    Reloads none store.database.prune.rows :=
  -- The rows that are left had positive sequences before.
  ⟨by simp, fun row member => represented.positive_rows row (Database.mem_rows_prune member)⟩

/--
What offering a fresh message does: it is accepted as the store is, or after pruning, or refused.

The size of what is left tells which.
-/
theorem offer_cases {store : MessageStore} (represented : store.Represented)
    {message : ChatMessage} (inRange : message.sequence ≤ maxInt64)
    (apart : ∀ row ∈ store.database.rows, Apart row message) :
    (limit.size store.database + limit.rowSize message +
        limit.markGrowth message store.database ≤ limit.budget ∧
      add (limit.results store message) message store =
        (.ok (store.accept message).1, (store.accept message).2)) ∨
    (limit.Fits store message ∧ add (limit.results store message) message store =
      (.ok (store.pruned.accept message).1, (store.pruned.accept message).2)) ∨
    (¬limit.Fits store message ∧
      ∃ error, (add (limit.results store message) message store).1 = .error error) := by
  -- The first attempt decides, unless the file is full and pruning makes room.
  have fresh : store.database.messages.Fresh message := apart
  have later : store.database.prune.messages.Fresh message := fun row member =>
    apart row (Database.mem_rows_prune member)
  have first := limit.attempt_outcome inRange fresh
  have second := limit.attempt_outcome inRange later
  by_cases room : limit.size store.database + limit.rowSize message +
      limit.markGrowth message store.database ≤ limit.budget
  · exact .inl ⟨room, add_of_first (first.trans ((limit.resultAt_eq_ok _).mpr room))⟩
  · -- The first attempt finds the database full, and pruning always succeeds.
    have full : limit.resultAt (limit.size store.database + limit.rowSize message +
        limit.markGrowth message store.database) = .full := if_neg room
    have read := reloads_pruned represented
    by_cases fits : limit.Fits store message
    · have done := second.trans ((limit.resultAt_eq_ok _).mpr fits)
      exact .inr (.inl ⟨fits, add_of_retry (first.trans full) rfl read done⟩)
    · refine .inr (.inr ⟨fits, ?_⟩)
      have refused : limit.resultAt (limit.size store.database.prune + limit.rowSize message +
          limit.markGrowth message store.database.prune) = .full := if_neg fits
      have ended := add_ended (limit.results store message) message store
      generalize add (limit.results store message) message store = call at ended ⊢
      obtain ⟨result, after⟩ := call
      cases ended with
      | returned done => exact absurd (first.symm.trans done) (by simp [full])
      | failed error failing => exact absurd (first.symm.trans failing) (by simp [full])
      | unpruned error full unpruned => exact ⟨error, rfl⟩
      | unloaded error loaded full pruned unread read => exact ⟨error, rfl⟩
      | retried full pruned read done => exact absurd (second.symm.trans done) (by simp [refused])
      | refused error full pruned read failing => exact ⟨error, rfl⟩

/-- A fresh message is taken exactly when it fits once the oldest rows are gone. -/
theorem takes_iff_fits {store : MessageStore} (represented : store.Represented)
    {message : ChatMessage} (inRange : message.sequence ≤ maxInt64)
    (apart : ∀ row ∈ store.database.rows, Apart row message) :
    limit.Takes store message ↔ limit.Fits store message := by
  -- A message is taken when it fits, before or after pruning.
  unfold Takes offer
  rcases limit.offer_cases represented inRange apart with
    ⟨room, call⟩ | ⟨fits, call⟩ | ⟨tight, error, call⟩
  · -- What fits beside all the rows fits beside some of them.
    -- The first attempt goes through, and pruning would have left even more room.
    have freed := limit.size_prune_le store.database
    have accepted := accept_of_fresh (show store.database.messages.Fresh message from apart)
    rw [call]
    refine iff_of_true ⟨by simp [accepted.1], accepted.2.1⟩ ?_
    unfold Fits
    omega
  · have later : store.pruned.database.messages.Fresh message := fun row member =>
      apart row (Database.mem_rows_prune member)
    have accepted := accept_of_fresh later
    rw [call]
    exact iff_of_true ⟨by simp [accepted.1], accepted.2.1⟩ fits
  · simp [call, tight]

/-- A store that took a message is within the budget, and has a mark for its origin. -/
theorem Takes.size_le {limit : SizeLimit} {store : MessageStore} {message : ChatMessage}
    (takes : limit.Takes store message) (represented : store.Represented)
    (inRange : message.sequence ≤ maxInt64)
    (apart : ∀ row ∈ store.database.rows, Apart row message) :
    limit.size (limit.offer store message).database ≤ limit.budget := by
  have fits := (limit.takes_iff_fits represented inRange apart).mp takes
  unfold offer
  rcases limit.offer_cases represented inRange apart with
    ⟨room, call⟩ | ⟨_, call⟩ | ⟨tight, _⟩
  · -- There is room as it is.
    rw [call, (accept_of_fresh (show store.database.messages.Fresh message from apart)).2.2,
      limit.size_store]
    exact room
  · -- Pruning makes room, and a message that was fresh is so afterwards.
    have later : store.pruned.database.messages.Fresh message := fun row member =>
      apart row (Database.mem_rows_prune member)
    rw [call, (accept_of_fresh later).2.2, limit.size_store]
    exact fits
  · exact absurd fits tight

/-- Offering a message keeps the store represented, whatever comes of it. -/
theorem offer_represented {store : MessageStore} (represented : store.Represented)
    {message : ChatMessage} (positive : 1 ≤ message.sequence) :
    (limit.offer store message).Represented :=
  -- An offer is an `add`, whatever its calls return.
  (add_added _ message store).represented represented positive rfl

/-- A row of the store after an offer was a row before, or it is the message offered. -/
theorem mem_rows_offer {store : MessageStore} {message row : ChatMessage}
    (member : row ∈ (limit.offer store message).database.rows) :
    row ∈ store.database.rows ∨ row = message :=
  -- An offer is an `add`, whatever its calls return.
  (add_added _ message store).mem_rows member

/-- Messages that are apart from all rows and from each other stay so when one is offered. -/
theorem apart_offer {store : MessageStore} {message : ChatMessage} {rest : List ChatMessage}
    (apart : ∀ row ∈ store.database.rows, ∀ other ∈ message :: rest, Apart row other)
    (pairwise : (message :: rest).Pairwise Apart) :
    ∀ row ∈ (limit.offer store message).database.rows, ∀ other ∈ rest, Apart row other := by
  -- A row is an old one, or the message that was offered.
  intro row member other later
  rcases limit.mem_rows_offer member with old | rfl
  · exact apart row old other (List.mem_cons_of_mem _ later)
  · exact (List.pairwise_cons.mp pairwise).1 other later

/-- From a represented store, every message is taken exactly when each fits as its turn comes. -/
theorem guarded_takes_iff {messages : List ChatMessage}
    (valid : ∀ message ∈ messages, message.Valid) (pairwise : messages.Pairwise Apart) :
    ∀ store : MessageStore, store.Represented →
      (∀ row ∈ store.database.rows, ∀ message ∈ messages, Apart row message) →
      (Guarded limit.offer limit.Takes store messages ↔
        Guarded limit.offer limit.Fits store messages) := by
  -- The induction follows the offers, and no row ever collides with a message still to come.
  induction messages with
  | nil => exact fun store _ _ => Iff.rfl
  | cons message rest ih =>
    intro store represented apart
    -- The first message is taken when it fits, and leaves a store of the same kind.
    have first := valid message (by simp)
    have here := limit.takes_iff_fits represented first.sequence_le fun row member =>
      apart row member message (by simp)
    have later := ih (fun other member => valid other (by simp [member]))
      (List.pairwise_cons.mp pairwise).2 (limit.offer store message)
      (limit.offer_represented represented first.sequence_pos) (limit.apart_offer apart pairwise)
    exact and_congr here later

/-- The origins that have a mark. -/
def marked (database : Database) : List Bytes := database.sequences.entries.map Prod.fst

/-- Every mark takes its overhead, whatever else there is. -/
theorem overhead_mul_marked_le (database : Database) :
    limit.overhead * (marked database).length ≤ limit.size database := by
  -- Every mark takes at least its overhead.
  have each : ∀ size ∈ (marked database).map limit.markSize, limit.overhead ≤ size := by
    intro size member
    obtain ⟨origin, _, rfl⟩ := List.mem_map.mp member
    exact Nat.le_add_right _ _
  have total : ((marked database).map limit.markSize).length * limit.overhead ≤ _ :=
    List.card_nsmul_le_sum _ limit.overhead each
  rw [List.length_map, Nat.mul_comm] at total
  exact Nat.le_trans total (Nat.le_add_left _ _)

/-- A message of a new origin that is taken leaves one mark more. -/
theorem Takes.marked_eq {limit : SizeLimit} {store : MessageStore} {message : ChatMessage}
    (takes : limit.Takes store message) (unmarked : message.origin ∉ marked store.database) :
    marked (limit.offer store message).database = marked store.database ++ [message.origin] := by
  -- The mark of an origin is raised when its message is stored, and pruning removes none.
  have raised := (add_added (limit.results store message) message store).sequences_eq
  rw [takes.1, if_pos rfl] at raised
  unfold marked offer
  rw [raised]
  exact (Keyed.keys_upsert _ _ _).trans (if_neg unmarked)

/-- A store that takes messages of ever new origins keeps all their marks within the budget. -/
theorem overhead_mul_origins_le {messages : List ChatMessage}
    (valid : ∀ message ∈ messages, message.Valid) (pairwise : messages.Pairwise Apart)
    (distinct : (messages.map ChatMessage.origin).Nodup) :
    ∀ store : MessageStore, store.Represented → limit.size store.database ≤ limit.budget →
      (∀ row ∈ store.database.rows, ∀ message ∈ messages, Apart row message) →
      (∀ message ∈ messages, message.origin ∉ marked store.database) →
      Guarded limit.offer limit.Takes store messages →
      limit.overhead * ((marked store.database).length + messages.length) ≤ limit.budget := by
  -- The induction follows the offers, each of which adds a mark that is never removed.
  induction messages with
  | nil =>
    intro store _ within _ _ _
    have marks := limit.overhead_mul_marked_le store.database
    simp only [List.length_nil, Nat.add_zero]
    omega
  | cons message rest ih =>
    intro store represented _ apart unmarked guarded
    have first := valid message (by simp)
    rw [List.map_cons, List.nodup_cons] at distinct
    have marks := guarded.1.marked_eq (unmarked message (by simp))
    have within := guarded.1.size_le represented first.sequence_le fun row member =>
      apart row member message (by simp)
    -- No later message is from the origin that was just marked.
    have fresh : ∀ other ∈ rest,
        other.origin ∉ marked (limit.offer store message).database := by
      intro other later
      rw [marks, List.mem_append, List.mem_singleton]
      intro either
      rcases either with old | same
      · exact unmarked other (List.mem_cons_of_mem _ later) old
      · exact distinct.1 (List.mem_map.mpr ⟨other, later, same⟩)
    have bounded := ih (fun other member => valid other (by simp [member]))
      (List.pairwise_cons.mp pairwise).2 distinct.2 (limit.offer store message)
      (limit.offer_represented represented first.sequence_pos) within
      (limit.apart_offer apart pairwise) fresh guarded.2
    rw [marks, List.length_append, List.length_singleton] at bounded
    rw [List.length_cons]
    rwa [Nat.add_assoc, Nat.add_comm 1] at bounded

end SizeLimit

/--
The bounded store takes every message of a run exactly when each of them fits, as its turn comes, in
what is left after deleting the hundred oldest rows.
-/
theorem takesAll_iff (limit : SizeLimit) {messages : List ChatMessage}
    (accepted : ∀ message ∈ messages, ∃ object, parseMessage object = some message)
    (pairwise : messages.Pairwise Apart) :
    Guarded limit.offer limit.Takes MessageStore.empty messages ↔
      Guarded limit.offer limit.Fits MessageStore.empty messages := by
  -- Messages that were accepted are valid, and the empty store has no rows to collide with.
  have valid : ∀ message ∈ messages, message.Valid := by
    intro message member
    obtain ⟨object, parsed⟩ := accepted message member
    exact parseMessage_valid parsed
  have noRows : ∀ row ∈ MessageStore.empty.database.rows, ∀ message ∈ messages,
      Apart row message := by simp [MessageStore.empty, Database.empty, Database.rows]
  exact limit.guarded_takes_iff valid pairwise MessageStore.empty
    MessageStore.represented_empty noRows

/--
Whatever the budget, a new file takes no more messages of ever new origins than there is room for
their marks.
-/
theorem overhead_mul_length_le (limit : SizeLimit) {messages : List ChatMessage}
    (valid : ∀ message ∈ messages, message.Valid) (pairwise : messages.Pairwise Apart)
    (distinct : (messages.map ChatMessage.origin).Nodup)
    (taken : Guarded limit.offer limit.Takes MessageStore.empty messages) :
    limit.overhead * messages.length ≤ limit.budget := by
  -- At the start nothing is marked, so every message brings an origin of its own.
  have empty : limit.size MessageStore.empty.database = 0 := rfl
  have bounded := limit.overhead_mul_origins_le valid pairwise distinct MessageStore.empty
    MessageStore.represented_empty (by rw [empty]; exact Nat.zero_le _)
    (by simp [MessageStore.empty, Database.empty, Database.rows])
    (by simp [SizeLimit.marked, MessageStore.empty, Database.empty, Marks.empty]) taken
  have unmarked : (SizeLimit.marked MessageStore.empty.database).length = 0 := rfl
  rwa [unmarked, Nat.zero_add] at bounded

/-- A limit that is just large enough, with rows that take 64 bytes besides their texts. -/
def smallLimit : SizeLimit := ⟨64, by decide, 256237, by decide⟩

/-- A short message from the author of a number. -/
def strangerMessage (author : Nat) : ChatMessage :=
  ⟨1, decimal author, decimal author, ascii "Alice", defaultChannel, 0, ascii "hello"⟩

/-- The greetings of two strangers are both taken. -/
theorem takesAll_strangers :
    Guarded smallLimit.offer smallLimit.Takes MessageStore.empty
      [strangerMessage 0, strangerMessage 1] :=
  -- Two messages fit the small limit.
  (takesAll_iff smallLimit
    (fun message member => ⟨messageToJson message, by
      simp only [List.mem_cons, List.not_mem_nil, or_false] at member
      rcases member with rfl | rfl <;> decide +kernel⟩)
    (by decide +kernel)).mpr (by decide +kernel)

/-- A stranger's message is accepted when the author's number has at most four digits. -/
theorem strangerMessage_accepted {author : Nat} (small : author < 10 ^ 4) :
    (strangerMessage author).Valid ∧
      parseMessage (messageToJson (strangerMessage author)) = some (strangerMessage author) := by
  -- A number below the bound has few digits, none of which is a NUL byte.
  have short := decimal_length_le (by decide) small
  have nonempty := List.length_pos_iff.mpr (decimal_ne_nil author)
  have noNul : 0 ∉ decimal author := fun member =>
    absurd (isDigit_of_mem_decimal member) (by decide)
  have valid : (strangerMessage author).Valid := {
    sequence_pos := Nat.le_refl 1
    sequence_le := by show 1 ≤ maxInt64; decide
    messageId_length := ⟨nonempty, Nat.le_trans short (by decide)⟩
    origin_length := ⟨nonempty, Nat.le_trans short (by decide)⟩
    callsign_length := by
      show 0 < (ascii "Alice").length ∧ (ascii "Alice").length ≤ 64
      decide
    channel_eq := rfl
    body_length := by
      show 0 < (ascii "hello").length ∧ (ascii "hello").length ≤ maxMessageBytes
      decide
    body_utf8 := by show isValidUtf8 (ascii "hello") = true; decide }
  have named : 0 ∉ (strangerMessage author).callsign := by show 0 ∉ ascii "Alice"; decide
  exact ⟨valid, parseMessage_messageToJson valid noNul noNul named⟩

/-- The short messages of enough strangers are not all taken, since marks are never trimmed. -/
theorem strangers_not_taken (limit : SizeLimit) {count : Nat} (small : count ≤ 10 ^ 4)
    (many : limit.budget < limit.overhead * count) :
    (∀ message ∈ (List.range count).map strangerMessage,
        ∃ object, parseMessage object = some message) ∧
      ((List.range count).map strangerMessage).Pairwise Apart ∧
      ¬Guarded limit.offer limit.Takes MessageStore.empty
        ((List.range count).map strangerMessage) := by
  have accepted : ∀ message ∈ (List.range count).map strangerMessage, message.Valid ∧
      parseMessage (messageToJson message) = some message := by
    intro message member
    obtain ⟨author, inRange, rfl⟩ := List.mem_map.mp member
    exact strangerMessage_accepted (Nat.lt_of_lt_of_le (List.mem_range.mp inRange) small)
  -- A number is told from another by its numeral.
  have pairwise : ((List.range count).map strangerMessage).Pairwise Apart := by
    refine List.pairwise_map.mpr (List.nodup_range.imp ?_)
    intro left right different
    have numerals : decimal left ≠ decimal right := fun same => different (decimal_injective same)
    exact ⟨numerals, fun same => numerals (Prod.mk.inj same).1⟩
  have distinct : (((List.range count).map strangerMessage).map ChatMessage.origin).Nodup := by
    rw [List.map_map]
    exact List.nodup_range.map decimal_injective
  refine ⟨fun message member => ⟨_, (accepted message member).2⟩, pairwise, fun taken => ?_⟩
  have bounded := overhead_mul_length_le limit (fun message member => (accepted message member).1)
    pairwise distinct taken
  rw [List.length_map, List.length_range] at bounded
  omega

/-- A store with room for a hundred and one of the largest messages is wedged by 4004 strangers. -/
theorem takesAll_wedged :
    (∀ message ∈ (List.range 4004).map strangerMessage,
        ∃ object, parseMessage object = some message) ∧
      ((List.range 4004).map strangerMessage).Pairwise Apart ∧
      ¬Guarded smallLimit.offer smallLimit.Takes MessageStore.empty
        ((List.range 4004).map strangerMessage) :=
  -- After enough strangers the marks alone fill the database.
  strangers_not_taken smallLimit (by decide) (by decide)

end LesChat
