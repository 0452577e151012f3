import LesChat.Network.Agreement
import LesChat.Sync.SyncRound
import Mathlib.Data.Fintype.Basic

/-! Recovery: when whatever a node has missed is still left out by its summary. -/

namespace LesChat

open Foundation

section Taken

variable (library : JsonC) (results : Nat → AddResults)

/-- The messages of a batch whose `add` returns: those before the first exception. -/
def takenMessages : List ChatMessage → (index : Nat) → MessageService → List ChatMessage
  | [], _, _ => []
  | message :: rest, index, service =>
    match (ingestSync library (results index) message service).1 with
    -- The exception ends the handler, and with it the batch.
    | .error _ => []
    | .ok _ => message ::
        takenMessages rest (index + 1) (ingestSync library (results index) message service).2

/-- The messages of a request a running service takes. -/
def Post.taken (lookup : SqliteResult) (service : MessageService) : Post → List ChatMessage
  | .replicate payload =>
    (replicatedMessages library (jsonRequest payload)).filter fun message =>
      -- A duplicate is taken as well: the node has it.
      (ingestReplica library lookup (results 0) message service).1.isOk
  | .syncMessages batch =>
    takenMessages library results (synchronizedMessages library (jsonRequest batch)) 0 service

/-- The messages taken are the first ones of the batch. -/
theorem takenMessages_prefix (messages : List ChatMessage) (index : Nat)
    (service : MessageService) :
    takenMessages library results messages index service <+: messages := by
  -- The induction follows the batch until an exception cuts it off.
  induction messages generalizing index service with
  | nil => exact List.prefix_refl []
  | cons message rest ih =>
    unfold takenMessages
    split
    · exact List.nil_prefix
    · exact (List.prefix_cons_inj message).mpr (ih (index + 1) _)

/-- When no `add` throws, the whole batch is taken. -/
theorem takenMessages_of_addsReturn {messages : List ChatMessage} {index : Nat}
    {service : MessageService} (returns : AddsReturn library results messages index service) :
    takenMessages library results messages index service = messages := by
  -- The induction follows the batch, whose every message is answered.
  induction messages generalizing index service with
  | nil => rfl
  | cons message rest ih =>
    obtain ⟨⟨inserted, returned⟩, later⟩ := returns
    unfold takenMessages
    rw [returned]
    exact congrArg _ (ih later)

/-- A request to replicate carries one message, or none that is accepted. -/
theorem replicatedMessages_cases (request : HttpRequest) :
    replicatedMessages library request = [] ∨
      ∃ message, replicatedMessages library request = [message] := by
  -- A request that is refused carries none.
  unfold replicatedMessages
  split
  · exact .inl rfl
  · rename_i parsed reading
    cases parseMessage parsed with
    | none => exact .inl rfl
    | some message => exact .inr ⟨message, rfl⟩

/-- The messages taken are the first ones of the request. -/
theorem Post.taken_prefix (lookup : SqliteResult) (service : MessageService) (post : Post) :
    post.taken library results lookup service <+: post.received library := by
  cases post with
  | syncMessages batch => exact takenMessages_prefix library results _ 0 service
  | replicate payload =>
    -- Of one message, all or nothing is taken.
    simp only [Post.taken, Post.received]
    rcases replicatedMessages_cases library (jsonRequest payload) with empty | ⟨message, single⟩
    · rw [empty]
      exact List.nil_prefix
    · rw [single, List.filter_singleton]
      cases (ingestReplica library lookup (results 0) message service).1.isOk with
      | true => exact List.prefix_refl _
      | false => exact List.nil_prefix

/-- Only messages that are received are taken. -/
theorem Post.received_of_taken {lookup : SqliteResult} {service : MessageService} {post : Post}
    {message : ChatMessage} (member : message ∈ post.taken library results lookup service) :
    message ∈ post.received library :=
  -- They are the first ones of the request.
  (Post.taken_prefix library results lookup service post).subset member

/-- What taking some messages does to a file: they are all committed, and nothing else appears. -/
structure Takes (before after : Database) (taken : List ChatMessage) : Prop where
  /-- Exactly the messages taken are committed anew. -/
  committed : ∀ row, row ∈ after.committed ↔ row ∈ before.committed ∨ row ∈ taken
  /-- Only they can become rows. -/
  rows : ∀ row ∈ after.rows, row ∈ before.rows ∨ row ∈ taken

/-- Taking nothing changes nothing. -/
theorem Takes.refl (database : Database) : Takes database database [] :=
  -- No row is new.
  ⟨fun row => by simp, fun row member => .inl member⟩

/-- Messages taken one after the other are all taken. -/
theorem Takes.trans {before middle after : Database} {first second : List ChatMessage}
    (early : Takes before middle first) (late : Takes middle after second) :
    Takes before after (first ++ second) := by
  constructor
  · intro row
    -- What is committed in the end was there before, or taken by the one or by the other.
    rw [late.committed, early.committed, List.mem_append, or_assoc]
  · intro row member
    rw [List.mem_append]
    rcases late.rows row member with old | new
    · rcases early.rows row old with older | recent
      · exact .inl older
      · exact .inr (.inl recent)
    · exact .inr (.inr new)

/-- An `add` that throws takes nothing. -/
theorem Added.takes_nothing {results : AddResults} {message : ChatMessage}
    {store after : MessageStore} {error : StoreError}
    (added : Added results message store (.error error) after) :
    Takes store.database after.database [] := by
  -- Even when rows were pruned, no row is new.
  refine ⟨fun row => by simp [added.committed_eq], fun row member => ?_⟩
  cases added with
  | failed error => exact .inl member
  | failedAfterPruning error loaded read complete => exact .inl (Database.mem_rows_prune member)

/-- An `add` that returns takes its message, when nothing else is stored under its identity. -/
theorem Added.takes {results : AddResults} {message : ChatMessage} {store after : MessageStore}
    {inserted : Bool} (added : Added results message store (.ok inserted) after)
    (consistent : store.database.Consistent)
    (unique : ∀ row ∈ store.database.rows, ¬Apart row message → row = message) :
    Takes store.database after.database [message] := by
  have rows : ∀ row ∈ after.database.rows, row ∈ store.database.rows ∨ row ∈ [message] := by
    intro row member
    simpa using added.mem_rows member
  cases added with
  | stored base cleared inRange fresh =>
    exact ⟨fun row => by simp [cleared.committed_eq], rows⟩
  | ignored base cleared inRange collides =>
    -- The row it collided with is the message itself, which was committed before.
    have known : message ∈ store.database.committed := by
      by_contra absent
      refine collides fun row member => ?_
      by_contra overlap
      have stored := cleared.mem_rows member
      have same := unique row stored overlap
      exact absent (same ▸ consistent.committed_of_mem stored)
    refine ⟨fun row => ?_, rows⟩
    rw [cleared.committed_eq, List.mem_singleton]
    constructor
    · exact .inl
    · intro either
      rcases either with old | rfl
      · exact old
      · exact known

variable {library results}

/-- Messages no two of which share an identity, as all created messages of a network are. -/
def Unambiguous (created : ChatMessage → Prop) : Prop :=
  ∀ left right, created left → created right → ¬Apart left right → left = right

/-- A service whose store holds nothing but created messages. -/
structure MessageService.StoresOnly (created : ChatMessage → Prop) (service : MessageService) :
    Prop where
  /-- The file is consistent. -/
  consistent : service.store.database.Consistent
  /-- Everything ever committed was created. -/
  only : ∀ row ∈ service.store.database.committed, created row

/-- Adding a created message takes it, unless the `add` throws. -/
theorem MessageService.StoresOnly.takes {created : ChatMessage → Prop}
    (unambiguous : Unambiguous created) {service : MessageService}
    (storesOnly : service.StoresOnly created) {results : AddResults} {message : ChatMessage}
    (own : created message) {outcome : Except StoreError Bool} {after : MessageStore}
    (added : Added results message service.store outcome after) :
    Takes service.store.database after.database (if outcome.isOk then [message] else []) := by
  cases outcome with
  | error error => exact added.takes_nothing
  | ok inserted =>
    -- A stored row that overlaps with the message was created as well, so it is the message.
    refine added.takes storesOnly.consistent fun row member overlap => ?_
    have committed := storesOnly.consistent.committed_of_mem member
    exact unambiguous row message (storesOnly.only row committed) own overlap

/-- Ingesting a created message by synchronization takes it, unless the `add` throws. -/
theorem ingestSync_takes {created : ChatMessage → Prop} (unambiguous : Unambiguous created)
    {service : MessageService} (storesOnly : service.StoresOnly created) (results : AddResults)
    {message : ChatMessage} (own : created message) :
    let after := (ingestSync library results message service).2
    after.StoresOnly created ∧ Takes service.store.database after.store.database
      (if (ingestSync library results message service).1.isOk then [message] else []) := by
  intro after
  -- The effect of `add`, read through the service.
  have added := add_added results message service.store
  rw [← ingestSync_result library, ← ingestSync_store library] at added
  have takes := storesOnly.takes unambiguous own added
  -- Whatever is committed afterwards was committed before, or is the message.
  refine ⟨⟨added.consistent storesOnly.consistent, fun row member => ?_⟩, takes⟩
  rcases (takes.committed row).mp member with old | new
  · exact storesOnly.only row old
  · split at new
    · rw [List.mem_singleton.mp new]
      exact own
    · simp at new

/-- The loop over a batch of created messages takes those before the first exception. -/
theorem ingestItems_takes {created : ChatMessage → Prop} (unambiguous : Unambiguous created)
    {items : List Json} {index accepted : Nat} {service : MessageService}
    (storesOnly : service.StoresOnly created)
    (own : ∀ message ∈ acceptedItems items, created message) :
    Takes service.store.database
      (ingestItems library results items index accepted service).2.store.database
      (takenMessages library results (acceptedItems items) index service) := by
  -- The induction follows the items until one is no message or its `add` throws.
  induction items generalizing index accepted service with
  | nil => exact Takes.refl _
  | cons item rest ih =>
    cases parsed : parseMessage item with
    | none =>
      simp only [ingestItems, acceptedItems, parsed, takenMessages]
      exact Takes.refl _
    | some message =>
      simp only [acceptedItems, parsed] at own
      -- The rest of the batch meets the service that this message left.
      obtain ⟨storesOnlyAfter, takes⟩ := @ingestSync_takes library _ unambiguous _ storesOnly
        (results index) _ (own message (by simp))
      simp only [ingestItems, acceptedItems, parsed, takenMessages]
      cases call : ingestSync library (results index) message service with
      | mk outcome after =>
        rw [call] at takes storesOnlyAfter
        cases outcome with
        | error error => exact takes
        | ok inserted =>
          exact takes.trans (ih storesOnlyAfter fun other member => own other (by simp [member]))

/-- A lookup that hits has found a row with the identifier. -/
theorem contains_row {lookup : SqliteResult} {messageId : Bytes} {store : MessageStore}
    (known : contains lookup messageId store = true) :
    ∃ row ∈ store.database.rows, row.messageId = messageId := by
  -- The search goes over the rows.
  simp only [contains, Bool.and_eq_true, List.any_eq_true, beq_iff_eq] at known
  exact known.2

/-- Ingesting a created message by replication takes it, unless the `add` throws. -/
theorem ingestReplica_takes {created : ChatMessage → Prop} (unambiguous : Unambiguous created)
    {service : MessageService} (storesOnly : service.StoresOnly created) (lookup : SqliteResult)
    (results : AddResults) {message : ChatMessage} (own : created message) :
    Takes service.store.database
      (ingestReplica library lookup results message service).2.store.database
      (if (ingestReplica library lookup results message service).1.isOk then [message] else []) := by
  by_cases known : contains lookup message.messageId service.store = true
  · -- A row with the identifier is the message itself, so nothing has to be stored.
    obtain ⟨row, stored, sameId⟩ := contains_row known
    have committed := storesOnly.consistent.committed_of_mem stored
    have same : row = message :=
      unambiguous row message (storesOnly.only row committed) own fun apart => apart.1 sameId
    subst same
    have unchanged : ingestReplica library lookup results row service = (.ok false, service) := by
      rw [ingestReplica, if_pos known]
    have returned : (ingestReplica library lookup results row service).1.isOk = true := by
      rw [unchanged]
      rfl
    rw [if_pos returned, unchanged]
    refine ⟨fun other => ?_, fun other member => .inl member⟩
    rw [List.mem_singleton]
    constructor
    · exact .inl
    · intro either
      rcases either with old | rfl
      · exact old
      · exact committed
  -- A miss goes on to `add`, and the handler returns exactly when `add` does.
  · have added := add_added results message service.store
    have stored : (ingestReplica library lookup results message service).2.store =
        (add results message service.store).2 := by rw [ingestReplica_store, if_neg known]
    have returned : (ingestReplica library lookup results message service).1.isOk =
        (add results message service.store).1.isOk := by
      rw [ingestReplica, if_neg known]
      split <;> (rename_i call; rw [call])
      all_goals rfl
    rw [stored, returned]
    exact storesOnly.takes unambiguous own added

/-- A running daemon takes from a request of created messages exactly what it is said to take. -/
theorem daemonStep_takes {created : ChatMessage → Prop} (unambiguous : Unambiguous created)
    (identity : NodeIdentity) {node : Node} {service : MessageService}
    (running : node.process = .running service) (storesOnly : service.StoresOnly created)
    (lookup : SqliteResult) {post : Post} (own : ∀ message ∈ post.received library, created message) :
    Takes node.process.database
      (daemonStep library identity node (post.action lookup results)).process.database
      (post.taken library results lookup service) := by
  cases post with
  -- The request carries one message, or is refused and takes nothing.
  | replicate payload =>
    simp only [Post.received, replicatedMessages] at own
    simp only [daemonStep, Post.action, running, Process.database, Post.taken, replicatedMessages,
      replicateMessage]
    cases reading : readJsonObject library (jsonRequest payload) maxRequestBytes true
        (errorBody "invalid_message") with
    | error response => exact Takes.refl _
    | ok parsed =>
      simp only [reading] at own ⊢
      cases read : parseMessage parsed with
      | none => exact Takes.refl _
      | some message =>
        have takes := @ingestReplica_takes library _ unambiguous _ storesOnly lookup (results 0) _
          (own message (by simp [read]))
        simp only [Option.toList_some, List.filter_cons, List.filter_nil]
        split <;> (rename_i call; rw [call] at takes ⊢; exact takes)
  -- The request carries the items of its batch, or is refused and takes nothing.
  | syncMessages batch =>
    simp only [Post.received, synchronizedMessages] at own
    simp only [daemonStep, Post.action, running, Process.database, Post.taken, synchronizedMessages,
      syncMessages]
    cases reading : readJsonObject library (jsonRequest batch) maxSyncRequestBytes true
        (errorBody "invalid_sync_messages") with
    | error response => exact Takes.refl _
    | ok parsed =>
      simp only [reading] at own ⊢
      cases items : batchItems parsed with
      | none => exact Takes.refl _
      | some items =>
        simp only [items, Option.map_some, Option.getD_some] at own
        exact ingestItems_takes unambiguous storesOnly own

end Taken

section Recovery

variable {ι : Type*} (library : JsonC)

/-- What a node takes from a request: nothing while it is not running. -/
def Node.taken (lookup : SqliteResult) (results : Nat → AddResults) (post : Post) (node : Node) :
    List ChatMessage :=
  match node.process with
  | .stopped _ => []
  | .running service => post.taken library results lookup service

/--
Everything a node has missed is above its mark.

A message that some node stores, and another has never stored, has a sequence larger than the mark
the other has for its origin.
-/
def Network.Recoverable (network : Network ι) : Prop :=
  ∀ holder peer, ∀ message ∈ (network.nodes holder).process.database.rows,
    message ∉ (network.nodes peer).process.database.committed →
    (network.nodes peer).process.database.sequences.value message.origin < message.sequence

/-- Messages that are taken without leaving anything behind. -/
structure Network.Gapless (network : Network ι) (receiver : ι) (taken : List ChatMessage) :
    Prop where
  /-- What any node stores of an origin from before a new message was stored, or is taken too. -/
  earlier : ∀ message ∈ taken,
    message ∉ (network.nodes receiver).process.database.committed →
    ∀ holder, ∀ earlier ∈ (network.nodes holder).process.database.rows,
    earlier.origin = message.origin → earlier.sequence < message.sequence →
    earlier ∈ (network.nodes receiver).process.database.committed ∨ earlier ∈ taken
  /-- No other node's mark has passed a message the other never stored. -/
  unpassed : ∀ message ∈ taken, ∀ other, other ≠ receiver →
    message ∈ (network.nodes other).process.database.committed ∨
    (network.nodes other).process.database.sequences.value message.origin < message.sequence

/-- Counters do not wrap around, restarts read their marks, and deliveries leave no gaps. -/
def NetworkAction.Gapless (network : Network ι) : NetworkAction ι → Prop
  | .deliver index receiver lookup results => ∀ post ∈ network.posts[index]?,
    network.Gapless receiver ((network.nodes receiver).taken library lookup results post)
  | action => action.Unwrapped network

/-- Whether messages are taken without a gap can be checked in a network of finitely many nodes. -/
instance [Fintype ι] [DecidableEq ι] (network : Network ι) (receiver : ι)
    (taken : List ChatMessage) : Decidable (network.Gapless receiver taken) :=
  decidable_of_iff (_ ∧ _) ⟨fun both => ⟨both.1, both.2⟩, fun gapless =>
    ⟨gapless.earlier, gapless.unpassed⟩⟩

/-- Whether a step leaves no gap can be checked in a network of finitely many nodes. -/
instance [Fintype ι] [DecidableEq ι] (network : Network ι) :
    DecidablePred (NetworkAction.Gapless library network)
  | .deliver index receiver lookup results => inferInstanceAs (Decidable
      (∀ post ∈ network.posts[index]?, network.Gapless receiver
        ((network.nodes receiver).taken library lookup results post)))
  | .create node now results parsed => inferInstanceAs (Decidable
      (NetworkAction.Unwrapped network (.create node now results parsed)))
  | .sendMissing _ _ => isTrue trivial
  | .restart node reload lookup => inferInstanceAs (Decidable
      (NetworkAction.Unwrapped network (.restart node reload lookup)))

variable {library} {mesh : Mesh ι} {network : Network ι}

/-- Created messages of an agreeing network are unambiguous. -/
theorem Network.Agreeing.unambiguous (agreeing : network.Agreeing library mesh) :
    Unambiguous network.Created := by
  intro left right leftCreated rightCreated overlap
  refine agreeing.eq_of_same leftCreated rightCreated ?_
  -- Messages that are not apart share an identifier or a key.
  rcases not_and_or.mp overlap with sameId | sameKey
  · exact .inl (not_not.mp sameId)
  · exact .inr (not_not.mp sameKey)

/-- Every row was created. -/
theorem Network.Genuine.created_of_row (genuine : network.Genuine library mesh) {node : ι}
    {row : ChatMessage} (member : row ∈ (network.nodes node).process.database.rows) :
    network.Created row :=
  -- A row was committed, and what is committed was created.
  genuine.stored node row ((genuine.sound node).consistent.committed_of_mem member)

/-- A created message that names a node as its origin was acknowledged by that node. -/
theorem Network.Genuine.acknowledged_of_origin (genuine : network.Genuine library mesh)
    {message : ChatMessage} (created : network.Created message) {node : ι}
    (named : message.origin = (mesh.identity node).nodeId) :
    message ∈ (network.nodes node).acknowledged := by
  -- The identifier names its author, and no two nodes share one.
  obtain ⟨author, member⟩ := created
  have origin := (genuine.built author message member).origin
  have same : author = node := mesh.distinct (origin.symm.trans named)
  rwa [← same]

/-- A mark that reaches a sequence was raised by a committed message of the origin. -/
theorem Database.Consistent.exists_of_le_mark {database : Database}
    (consistent : database.Consistent) {origin : Bytes} {sequence : Nat} (positive : 0 < sequence)
    (reached : sequence ≤ database.sequences.value origin) :
    ∃ row ∈ database.committed, row.origin = origin ∧ sequence ≤ row.sequence := by
  -- In a consistent file the mark is the highest sequence ever committed.
  rw [consistent.mark_eq, Database.highest] at reached
  have raised : 0 < highWater ChatMessage.origin ChatMessage.sequence database.committed origin := by
    omega
  obtain ⟨row, member, named, highest⟩ :=
    exists_of_highWater_pos ChatMessage.origin ChatMessage.sequence raised
  exact ⟨row, member, named, by omega⟩

/-- What holds of a network in which nothing was taken with a gap. -/
structure Network.Recovering (library : JsonC) (mesh : Mesh ι) (network : Network ι) : Prop where
  /-- Created messages are stored by their authors, under identities used once. -/
  agreeing : network.Agreeing library mesh
  /-- Counters have not wrapped around. -/
  counting : ∀ node service, (network.nodes node).process = .running service →
    1 ≤ service.nextSequence
  /-- Sequences start at one. -/
  positive : ∀ author, ∀ message ∈ (network.nodes author).acknowledged, 1 ≤ message.sequence
  /-- Everything missed is above its mark. -/
  recoverable : network.Recoverable

/-- New networks have missed nothing. -/
theorem Network.initial_recovering (library : JsonC) (mesh : Mesh ι) :
    (Network.initial mesh).Recovering library mesh where
  agreeing := Network.initial_agreeing library mesh
  counting := by
    intro node _ same
    cases same
    exact Nat.le_refl 1
  positive := by simp [Network.initial, Node.initial]
  recoverable := by
    -- No row is stored anywhere.
    intro holder peer message stored
    simp [Network.initial, Node.initial, Process.database, MessageService.initial,
      MessageStore.empty, Database.rows, Database.empty, Table.empty, Table.values] at stored

/-- The guard of recovery is stronger than that of agreement. -/
theorem NetworkAction.Gapless.unwrapped {action : NetworkAction ι}
    (gapless : action.Gapless library network) : action.Unwrapped network := by
  -- Only a delivery asks for anything else.
  cases action with
  | deliver => trivial
  | _ => exact gapless

/-- The next message of a running node has the node as its origin. -/
theorem Network.Genuine.nextMessage_origin (genuine : network.Genuine library mesh) {node : ι}
    {service : MessageService} (running : (network.nodes node).process = .running service)
    (now : Int64) (body : Bytes) :
    (service.nextMessage now body).origin = (mesh.identity node).nodeId := by
  -- The service runs under the identity of its node.
  have sound := genuine.sound node
  rw [running] at sound
  rw [← MessageService.Sound.named sound]
  rfl

/-- Sequences of stored messages start at one. -/
theorem Network.Recovering.rows_positive (recovering : network.Recovering library mesh)
    (holder : ι) : ∀ row ∈ (network.nodes holder).process.database.rows, 0 < row.sequence := by
  -- Every row was created, and what is created counts from one.
  intro row member
  obtain ⟨author, created⟩ := recovering.agreeing.genuine.created_of_row member
  exact recovering.positive author row created

variable [DecidableEq ι]

/--
A network stays recoverable when one node takes messages without a gap.

Nothing older is left behind at the acting node, and nothing taken has been passed elsewhere.
-/
theorem Network.Recoverable.updated (recoverable : network.Recoverable) {acting : ι} {after : Node}
    {posts : List Post} (taken : List ChatMessage)
    (before : (network.nodes acting).process.database.Consistent)
    (later : after.process.database.Consistent)
    (takes : Takes (network.nodes acting).process.database after.process.database taken)
    (positive : ∀ holder, ∀ row ∈ (network.nodes holder).process.database.rows, 0 < row.sequence)
    (earlier : ∀ message ∈ taken, message ∉ (network.nodes acting).process.database.committed →
      ∀ holder, ∀ earlier ∈ (network.nodes holder).process.database.rows,
      earlier.origin = message.origin → earlier.sequence ≤ message.sequence →
      earlier ∈ (network.nodes acting).process.database.committed ∨ earlier ∈ taken)
    (unpassed : ∀ message ∈ taken, ∀ other, other ≠ acting →
      message ∈ (network.nodes other).process.database.committed ∨
      (network.nodes other).process.database.sequences.value message.origin < message.sequence) :
    Network.Recoverable ⟨Function.update network.nodes acting after, posts⟩ := by
  -- Who acts can be the peer, the holder, both, or neither.
  intro holder peer message stored missed
  simp only at stored missed ⊢
  by_cases receives : peer = acting
  · subst receives
    rw [Function.update_self] at missed ⊢
    by_cases holds : holder = peer
    · -- A node has not missed what it stores itself.
      subst holds
      rw [Function.update_self] at stored
      exact absurd (later.committed_of_mem stored) missed
    · rw [Function.update_of_ne holds] at stored
      by_contra reached
      -- Whatever raised the mark that far was there before, or was taken with a gap.
      obtain ⟨row, committed, sameOrigin, above⟩ :=
        later.exists_of_le_mark (positive holder message stored) (Nat.le_of_not_lt reached)
      have unseen : message ∉ (network.nodes peer).process.database.committed :=
        fun old => missed ((takes.committed message).mpr (.inl old))
      have below := recoverable holder peer message stored unseen
      by_cases old : row ∈ (network.nodes peer).process.database.committed
      · have bounded := before.le_mark old
        rw [sameOrigin] at bounded
        omega
      · have new : row ∈ taken := ((takes.committed row).mp committed).resolve_left old
        rcases earlier row new old holder message stored sameOrigin.symm above with known | both
        · exact unseen known
        · exact missed ((takes.committed message).mpr (.inr both))
  · rw [Function.update_of_ne receives] at missed ⊢
    by_cases holds : holder = acting
    · subst holds
      rw [Function.update_self] at stored
      -- What the holder has only just taken was not passed by this peer's mark.
      rcases takes.rows message stored with old | new
      · exact recoverable holder peer message old missed
      · exact (unpassed message new peer receives).resolve_left missed
    · rw [Function.update_of_ne holds] at stored
      exact recoverable holder peer message stored missed

/-- A local call under an unclaimed identity takes the message it returns. -/
theorem createLocal_takes {service : MessageService} (unclaimed : service.Unclaimed)
    (consistent : service.store.database.Consistent) (now : Int64) (results : AddResults)
    (body : Bytes) :
    Takes service.store.database
      (createLocal library now results body service).2.store.database
      (match (createLocal library now results body service).1 with
        | .ok message => [message]
        | .error _ => []) := by
  have added := add_added results (service.nextMessage now body) service.store
  rw [createLocal_store]
  cases outcome : (add results (service.nextMessage now body) service.store).1 with
  | error error =>
    rw [outcome] at added
    rw [createLocal_result, outcome]
    exact added.takes_nothing
  | ok inserted =>
    rw [outcome] at added
    rw [createLocal_result, outcome]
    -- No row has the next identity, so none overlaps with the message.
    exact added.takes consistent fun row member overlap =>
      absurd (unclaimed.2 row member) overlap

/-- What a local call takes is at most the message with the next identity. -/
theorem eq_nextMessage_of_taken {service : MessageService} {now : Int64} {results : AddResults}
    {body : Bytes} {message : ChatMessage}
    (taken : message ∈ (match (createLocal library now results body service).1 with
      | .ok message => [message]
      | .error _ => [])) : message = service.nextMessage now body := by
  -- A call that fails takes nothing.
  cases outcome : (createLocal library now results body service).1 with
  | ok other =>
    rw [outcome, List.mem_singleton] at taken
    rw [taken, (createLocal_ok library outcome).1]
  | error error => simp [outcome] at taken

/-- No step without a gap lets a counter wrap around. -/
theorem Stepped.counting {action : NetworkAction ι} {after : Network ι}
    (stepped : Stepped library mesh network action after)
    (recovering : network.Recovering library mesh) (gapless : action.Gapless library network) :
    ∀ node service, (after.nodes node).process = .running service → 1 ≤ service.nextSequence := by
  have genuine := recovering.agreeing.genuine
  cases stepped with
  | idle => exact recovering.counting
  | created node now results parsed service body running accepted =>
    refine forall_update (fun _ state => ∀ service, state.process = .running service →
      1 ≤ service.nextSequence) recovering.counting ?_
    intro moved after
    rw [Node.process_afterCreate, Process.running.injEq] at after
    rw [← after, createLocal_nextSequence]
    -- The counter is below its limit, and it was not the last number.
    have unwrapped : service.nextSequence ≠ 2 ^ 64 - 1 := gapless service (by rw [running]; rfl)
    have sound := genuine.sound node
    rw [running] at sound
    have bounded := MessageService.Sound.counted sound
    omega
  | delivered index receiver lookup results post listed =>
    have unaffected := daemonStep_unaffected library (mesh.identity receiver)
      (network.nodes receiver) lookup results post
    refine forall_update (fun _ state => ∀ service, state.process = .running service →
      1 ≤ service.nextSequence) recovering.counting ?_
    intro service running
    cases process : (network.nodes receiver).process with
    | stopped database => simp [unaffected.stopped database process] at running
    | running old =>
      -- A request leaves the counter alone.
      obtain ⟨new, same, counter, _⟩ := unaffected.service old process
      rw [same, Process.running.injEq] at running
      rw [← running, counter]
      exact recovering.counting receiver old process
  | sent node summary service running => exact recovering.counting
  | restarted node reload lookup =>
    refine forall_update (fun _ state => ∀ service, state.process = .running service →
      1 ≤ service.nextSequence) recovering.counting ?_
    intro service running
    obtain ⟨_, _, reading⟩ := openService_ok (startProcess_running running)
    exact (nextSequence_le (genuine.sound node).consistent reading).1

/-- Every step acknowledges only messages with positive sequences. -/
theorem Stepped.positive {action : NetworkAction ι} {after : Network ι}
    (stepped : Stepped library mesh network action after)
    (recovering : network.Recovering library mesh) :
    ∀ author, ∀ message ∈ (after.nodes author).acknowledged, 1 ≤ message.sequence := by
  cases stepped with
  | idle => exact recovering.positive
  | created node now results parsed service body running accepted =>
    refine forall_update (fun _ state => ∀ message ∈ state.acknowledged, 1 ≤ message.sequence)
      recovering.positive ?_
    intro message member
    rcases Node.mem_acknowledged_afterCreate.mp member with old | outcome
    · exact recovering.positive node message old
    · -- A returned message has taken the counter as its sequence.
      rw [(createLocal_ok library outcome).1]
      exact recovering.counting node service running
  | delivered index receiver lookup results post listed =>
    have unaffected := daemonStep_unaffected library (mesh.identity receiver)
      (network.nodes receiver) lookup results post
    refine forall_update (fun _ state => ∀ message ∈ state.acknowledged, 1 ≤ message.sequence)
      recovering.positive ?_
    rw [unaffected.acknowledged]
    exact recovering.positive receiver
  | sent node summary service running => exact recovering.positive
  | restarted node reload lookup =>
    exact forall_update (fun _ state => ∀ message ∈ state.acknowledged, 1 ≤ message.sequence)
      recovering.positive (recovering.positive node)

/-- A local call leaves everything missed recoverable, unless the counter wraps around. -/
theorem Network.Recovering.recoverable_created (recovering : network.Recovering library mesh)
    {node : ι} {service : MessageService}
    (running : (network.nodes node).process = .running service)
    (unwrapped : service.nextSequence ≠ 2 ^ 64 - 1) (now : Int64) (results : AddResults)
    (body : Bytes) (posts : List Post) :
    Network.Recoverable ⟨Function.update network.nodes node
      ((network.nodes node).afterCreate (createLocal library now results body service)),
      posts⟩ := by
  have agreeing := recovering.agreeing
  have genuine := agreeing.genuine
  have origin := genuine.nextMessage_origin running now body
  have counting := recovering.counting node service running
  have sound := genuine.sound node
  rw [running] at sound
  have takes := @createLocal_takes library service (agreeing.unclaimed running unwrapped)
    sound.consistent now results body
  -- The file is consistent afterwards too, so its marks can be read off its history.
  have after := (sound.createLocal library now results body).stored.consistent
  refine recovering.recoverable.updated _ (genuine.sound node).consistent
    (by rwa [Node.process_afterCreate]) (by rwa [running, Node.process_afterCreate])
    recovering.rows_positive ?_ ?_
  · -- Whatever was created under this origin before is stored by its author.
    intro message member _ holder earlier stored sameOrigin _
    rw [eq_nextMessage_of_taken member, origin] at sameOrigin
    exact .inl ((agreeing.acknowledges node).committed earlier
      (genuine.acknowledged_of_origin (genuine.created_of_row stored) sameOrigin))
  · -- No mark has reached the counter, since none is above a created message.
    intro message member other _
    rw [eq_nextMessage_of_taken member]
    refine .inr ?_
    by_contra reached
    obtain ⟨row, committed, sameOrigin, above⟩ :=
      (genuine.sound other).consistent.exists_of_le_mark counting (Nat.le_of_not_lt reached)
    have own := genuine.acknowledged_of_origin (genuine.stored other row committed)
      (sameOrigin.trans origin)
    have passed := (agreeing.acknowledges node).passed service running row own
    omega

/-- A request that is taken without a gap leaves everything missed recoverable. -/
theorem Network.Recovering.recoverable_delivered (lawful : library.Lawful)
    (recovering : network.Recovering library mesh) {receiver : ι} {lookup : SqliteResult}
    {results : Nat → AddResults} {post : Post} (listed : post ∈ network.posts)
    (order : network.Gapless receiver
      ((network.nodes receiver).taken library lookup results post)) :
    Network.Recoverable ⟨Function.update network.nodes receiver (daemonStep library
      (mesh.identity receiver) (network.nodes receiver) (post.action lookup results)),
      network.posts⟩ := by
  have agreeing := recovering.agreeing
  have genuine := agreeing.genuine
  cases process : (network.nodes receiver).process with
  | stopped database =>
    -- A stopped node receives nothing.
    have same : daemonStep library (mesh.identity receiver) (network.nodes receiver)
        (post.action lookup results) = network.nodes receiver := by
      cases post <;> simp [daemonStep, Post.action, process]
    rw [same, Function.update_eq_self]
    exact recovering.recoverable
  | running service =>
    have own : ∀ message ∈ post.received library, network.Created message :=
      fun message member => genuine.created_of_received lawful listed member
    have before := (genuine.sound receiver).consistent
    -- The receiver stores nothing but created messages, so a request can only bring those.
    have storesOnly : service.StoresOnly network.Created := by
      refine ⟨by rwa [process] at before, fun row member => genuine.stored receiver row ?_⟩
      rwa [process]
    have takes := @daemonStep_takes library results _ agreeing.unambiguous
      (mesh.identity receiver) _ _ process storesOnly lookup _ own
    have after := (daemonStep_sound library (mesh.identity receiver) (network.nodes receiver)
      (post.action lookup results) (genuine.sound receiver)).consistent
    simp only [Node.taken, process] at order
    refine recovering.recoverable.updated _ before after takes recovering.rows_positive ?_
      order.unpassed
    intro message member new holder earlier stored sameOrigin below
    rcases Nat.lt_or_eq_of_le below with less | equal
    · exact order.earlier message member new holder earlier stored sameOrigin less
    · -- A stored message with the same key is the one that is taken.
      have same := agreeing.unambiguous earlier message (genuine.created_of_row stored)
        (own message (Post.received_of_taken library results member))
        (fun apart => apart.2 (Prod.ext sameOrigin equal))
      exact .inr (same ▸ member)

/-- A restart takes nothing, since the file is the one it was. -/
theorem Network.Recovering.recoverable_restarted (recovering : network.Recovering library mesh)
    (node : ι) (reload : Option Nat) (lookup : SqliteResult) :
    Network.Recoverable ⟨Function.update network.nodes node
      ⟨startProcess (mesh.identity node) reload lookup (network.nodes node).process.database,
        (network.nodes node).acknowledged⟩, network.posts⟩ := by
  -- A restart works on the same file, and takes nothing new.
  have same := startProcess_database (mesh.identity node) reload lookup
    (network.nodes node).process.database
  have consistent := (recovering.agreeing.genuine.sound node).consistent
  exact recovering.recoverable.updated [] consistent (by rw [same]; exact consistent)
    (by rw [same]; exact Takes.refl _) recovering.rows_positive (by simp) (by simp)

/-- Every step without a gap keeps whatever was missed recoverable. -/
theorem Stepped.recovering (lawful : library.Lawful) {action : NetworkAction ι} {after : Network ι}
    (stepped : Stepped library mesh network action after)
    (recovering : network.Recovering library mesh) (gapless : action.Gapless library network) :
    after.Recovering library mesh := by
  refine ⟨stepped.agreeing lawful recovering.agreeing gapless.unwrapped,
    stepped.counting recovering gapless, stepped.positive recovering, ?_⟩
  -- The cases follow the kinds of step.
  cases stepped with
  | idle => exact recovering.recoverable
  | created node now results parsed service body running accepted =>
    have unwrapped : service.nextSequence ≠ 2 ^ 64 - 1 := gapless service (by rw [running]; rfl)
    exact recovering.recoverable_created running unwrapped now results body _
  | delivered index receiver lookup results post listed =>
    exact recovering.recoverable_delivered lawful (List.mem_of_getElem? listed)
      (gapless post listed)
  | sent node summary service running => exact recovering.recoverable
  | restarted node reload lookup => exact recovering.recoverable_restarted node reload lookup

end Recovery

end LesChat
