import LesChat.Foundation.Relay
import LesChat.Http.DeliveryOrder
import LesChat.Network.CatchUp
import LesChat.Network.InOrder

/-! Convergence: sync rounds that lead from everyone to everyone leave all nodes with all messages. -/

namespace LesChat

open Foundation

section Batches

variable {library : JsonC} {results : Nat → AddResults}

/-- Items made from messages that are read back as they are carry these messages. -/
theorem acceptedItems_messageToJson {messages : List ChatMessage}
    (parsed : ∀ message ∈ messages, parseMessage (messageToJson message) = some message) :
    acceptedItems (messages.map messageToJson) = messages := by
  -- The induction follows the batch, whose every item is read back.
  induction messages with
  | nil => rfl
  | cons message rest ih =>
    rw [List.map_cons, acceptedItems, parsed message (by simp)]
    simp only [ih fun other member => parsed other (by simp [member])]

/-- A batch within the limits is received as it was made. -/
theorem synchronizedMessages_batch (lawful : library.Lawful) {messages : List ChatMessage}
    (few : messages.length ≤ maxSyncBatchMessages)
    (small : (serializeJson library (batchJson (messages.map messageToJson))).length ≤
      maxSyncRequestBytes)
    (parsed : ∀ message ∈ messages, parseMessage (messageToJson message) = some message) :
    synchronizedMessages library
      (jsonRequest (serializeJson library (batchJson (messages.map messageToJson)))) =
        messages := by
  -- The document is read back with all its items, each of which is a message.
  have reading := readJsonObject_serializeJson lawful (plain_batchJson messages)
    (by rw [batchJson_eq]; rfl) small true (errorBody "invalid_sync_messages")
  have items : batchItems (batchJson (messages.map messageToJson)) =
      some (messages.map messageToJson) := batchItems_batchJson (by rwa [List.length_map])
  rw [synchronizedMessages, reading]
  simp only [items, Option.map_some, Option.getD_some]
  exact acceptedItems_messageToJson parsed

end Batches

section Rounds

variable {ι : Type*} {library : JsonC} {mesh : Mesh ι} {network : Network ι}
  {sender receiver : ι} {round : SyncRound} {service peer : MessageService}

/-- What is outstanding between two nodes is what the one caches and the other has never stored. -/
theorem Network.InOrder.mem_outstanding (inOrder : network.InOrder library mesh)
    (sending : (network.nodes sender).process = .running service) (receiver : ι)
    {message : ChatMessage} :
    message ∈ network.outstanding sender receiver ↔
      message ∈ service.store.messages ∧
        message ∉ (network.nodes receiver).process.database.committed := by
  rw [Network.outstanding, LesChat.outstanding, sending, List.mem_filter, decide_eq_true_eq]
  apply and_congr_right
  intro member
  -- Marks tell what was stored.
  have created := inOrder.recovering.agreeing.genuine.created_of_cached sending member
  rw [inOrder.committed_iff receiver created, Nat.not_le]

/-- A running node in order caches everything it ever stored. -/
theorem Network.InOrder.cached_eq (inOrder : network.InOrder library mesh)
    (sending : (network.nodes sender).process = .running service) :
    service.store.messages = (network.nodes sender).process.database.committed := by
  -- Every row is cached, and no row was pruned.
  rw [(inOrder.nodes sender).cached service sending, ← (inOrder.nodes sender).unpruned, sending]
  rfl

/-- What is cached under an origin up to some cached message is in the batch with that message. -/
theorem Network.InOrder.batch_closed (inOrder : network.InOrder library mesh)
    (sending : (network.nodes sender).process = .running service) (receiver : ι) (limit : Nat)
    {message earlier : ChatMessage}
    (member : message ∈ (network.outstanding sender receiver).take limit)
    (created : network.Created earlier) (same : earlier.origin = message.origin)
    (lower : earlier.sequence < message.sequence)
    (missed : earlier ∉ (network.nodes receiver).process.database.committed) :
    earlier ∈ (network.outstanding sender receiver).take limit := by
  have cached := inOrder.cached_eq sending
  have ascends := (inOrder.nodes sender).ascending
  rw [← cached] at ascends
  have listed := ((inOrder.mem_outstanding sending receiver).mp (List.mem_of_mem_take member)).1
  -- The sender's mark has reached the message, and so anything earlier.
  have held : earlier ∈ service.store.messages := by
    rw [cached] at listed ⊢
    rw [inOrder.committed_iff sender created]
    have reached :=
      (inOrder.recovering.agreeing.genuine.sound sender).consistent.le_mark listed
    rw [same]
    omega
  have distinct : service.store.messages.Nodup := by
    have sound := inOrder.recovering.agreeing.genuine.sound sender
    rw [sending] at sound
    exact (MessageService.Sound.stored sound).nodup_messageId.of_map _
  have above := inOrder.mark_lt created missed
  have closed := gapFree_of_timely _ _ distinct (ascends.timely limit)
    (network.nodes receiver).process.database.sequences.value
  simp only [Network.outstanding, LesChat.outstanding, sending, Process.messages] at member ⊢
  exact closed message member earlier held same lower above

/-- The peer takes the whole batch of a round that succeeds. -/
theorem Network.Genuine.taken_round (lawful : library.Lawful)
    (genuine : network.Genuine library mesh)
    (synchronizes : network.Synchronizes library sender receiver round service peer)
    (nonempty : network.outstanding sender receiver ≠ []) :
    let batch := (network.outstanding sender receiver).take maxSyncBatchMessages
    (network.nodes receiver).taken library .ok round.results
      (.syncMessages (serializeJson library (batchJson (batch.map messageToJson)))) = batch := by
  intro batch
  obtain ⟨sent, missing⟩ := genuine.round_batch lawful synchronizes
  rw [if_neg nonempty] at sent
  have parsed : ∀ message ∈ batch, parseMessage (messageToJson message) = some message := by
    intro message member
    have selected := List.mem_of_mem_take member
    rw [Network.outstanding, synchronizes.sending, LesChat.outstanding, List.mem_filter,
      decide_eq_true_eq] at selected
    exact (genuine.built_of_created
      (genuine.created_of_cached synchronizes.sending selected.1)).parse (by omega)
  have returns := synchronizes.succeeds.returns
  rw [missing] at returns
  -- The batch is read as the messages it was made from, and each of them is added.
  simp only [Node.taken, synchronizes.receiving, Post.taken]
  rw [synchronizedMessages_batch lawful (List.length_take_le _ _)
    (synchronizes.succeeds.small _ sent) parsed]
  exact takenMessages_of_addsReturn library _ returns

variable [DecidableEq ι]

/-- What a sender posts when it is given the peer's summary. -/
def Network.batchPosts (network : Network ι) (library : JsonC) (sender receiver : ι) : List Post :=
  if network.outstanding sender receiver = [] then []
  else [.syncMessages (serializeJson library (batchJson
    (((network.outstanding sender receiver).take maxSyncBatchMessages).map messageToJson)))]

/-- The first step of a round posts the batch. -/
theorem Network.Genuine.networkStep_answer (lawful : library.Lawful)
    (genuine : network.Genuine library mesh)
    (synchronizes : network.Synchronizes library sender receiver round service peer) :
    networkStep library mesh network (.sendMissing sender (round.answer library peer).body) =
      { network with posts := network.posts ++ network.batchPosts library sender receiver } := by
  have batch := (genuine.round_batch lawful synchronizes).1
  rw [SyncRound.batch] at batch
  simp only [networkStep, Network.afterSendMissing, synchronizes.sending, batch,
    Network.batchPosts]
  -- Either nothing is outstanding and nothing is posted, or one batch is.
  split
  · rename_i same
    split at same
    · simp at same
    · rename_i nonempty
      simp only [Except.ok.injEq, Option.some.injEq] at same
      rw [if_neg nonempty, same]
  · rename_i none
    split at none
    · rename_i empty
      rw [if_pos empty, List.append_nil]
    · exact absurd rfl (none _)

/--
A round that succeeds leaves no gap.

The batch holds whatever the peer is missing below any message of it, and no mark elsewhere has
passed a message the sender still has.
-/
theorem Network.InOrder.round_gapless (lawful : library.Lawful)
    (inOrder : network.InOrder library mesh)
    (synchronizes : network.Synchronizes library sender receiver round service peer) :
    Guarded (networkStep library mesh) (fun network action => action.Gapless library network)
      network (round.actions library network sender receiver peer) := by
  have genuine := inOrder.recovering.agreeing.genuine
  have sending := synchronizes.sending
  refine ⟨trivial, ?_, trivial⟩
  rw [genuine.networkStep_answer lawful synchronizes]
  intro post listed
  by_cases empty : network.outstanding sender receiver = []
  · -- Nothing was posted, so nothing is delivered.
    simp [Network.batchPosts, empty] at listed
  · simp only [Network.batchPosts, if_neg empty, List.getElem?_concat_length, Option.mem_def,
      Option.some.injEq] at listed
    subst listed
    have taken := genuine.taken_round lawful synchronizes empty
    dsimp only at taken ⊢
    rw [taken]
    constructor
    · intro message member _ holder earlier stored same lower
      by_cases known : earlier ∈ (network.nodes receiver).process.database.committed
      · exact .inl known
      · exact .inr (inOrder.batch_closed sending receiver _ member (genuine.created_of_row stored)
          same lower known)
    · intro message member other _
      have cached := ((inOrder.mem_outstanding sending receiver).mp
        (List.mem_of_mem_take member)).1
      by_cases known : message ∈ (network.nodes other).process.database.committed
      · exact .inl known
      · exact .inr (inOrder.mark_lt (genuine.created_of_cached sending cached) known)

/-- Rounds that succeed without filling the database keep a network in order. -/
theorem Network.InOrder.afterRound (lawful : library.Lawful)
    (inOrder : network.InOrder library mesh)
    (synchronizes : network.Synchronizes library sender receiver round service peer)
    (neverFull : ∀ index, (round.results index).first.NeverFull) :
    (network.afterRound library mesh sender receiver round).InOrder library mesh := by
  -- The two steps of the round leave no gap, and fill no database.
  have gapless := inOrder.round_gapless lawful synchronizes
  have orderly : Guarded (networkStep library mesh) (NetworkAction.Orderly library) network
      (round.actions library network sender receiver peer) :=
    ⟨⟨gapless.1, trivial⟩, ⟨gapless.2.1, neverFull⟩, trivial⟩
  simp only [Network.afterRound, synchronizes.receiving]
  exact guarded_invariant (fun network action before orderly => (networkStep_stepped library mesh
    network action).inOrder lawful before orderly.1 orderly.2) orderly inOrder

/-- After a round, exactly what did not fit its batch is still outstanding. -/
theorem Network.InOrder.outstanding_afterRound (lawful : library.Lawful)
    (inOrder : network.InOrder library mesh)
    (synchronizes : network.Synchronizes library sender receiver round service peer) :
    (network.afterRound library mesh sender receiver round).outstanding sender receiver =
      (network.outstanding sender receiver).drop maxSyncBatchMessages := by
  have genuine := inOrder.recovering.agreeing.genuine
  have committed := genuine.committed_after lawful synchronizes
  have later := ((genuine.afterRound lawful sender receiver round).sound receiver).consistent
  rw [Network.nodes_afterRound synchronizes, Function.update_self] at later
  have before := (genuine.sound receiver).consistent
  have ascends := (inOrder.nodes sender).ascending
  rw [← inOrder.cached_eq synchronizes.sending] at ascends
  rw [synchronizes.receiving] at before
  -- The marks before and after are the largest sequences of the two histories.
  have dropped := ascends.filter_above_append peer.store.database.committed maxSyncBatchMessages
  have marks : ∀ origin, peer.store.database.sequences.value origin =
      highWater ChatMessage.origin ChatMessage.sequence peer.store.database.committed origin :=
    before.mark_eq
  have raised : ∀ origin, (round.after library service.store.messages
      peer).store.database.sequences.value origin = highWater ChatMessage.origin
        ChatMessage.sequence (round.after library service.store.messages
          peer).store.database.committed origin := later.mark_eq
  rw [Network.outstanding, genuine.messages_afterRound lawful synchronizes,
    Network.nodes_afterRound synchronizes, Function.update_self]
  simp only [Network.outstanding, LesChat.outstanding, synchronizes.sending,
    synchronizes.receiving, Process.messages, Process.database, marks, raised] at committed ⊢
  rw [committed]
  exact dropped

/--
A sync round takes exactly one batch off what is outstanding, and leaves no gap.

In any network an orderly run has reached, a round that succeeds appends to the peer's log the first
messages it is missing, in the order the sender stored them and as many as fit a batch. It is itself
without a gap, and what remains outstanding is what did not fit.
-/
theorem round_takes_batch (lawful : library.Lawful) (mesh : Mesh ι)
    {actions : List (NetworkAction ι)}
    (orderly : Guarded (networkStep library mesh) (NetworkAction.Orderly library)
      (Network.initial mesh) actions)
    {sender receiver : ι} {round : SyncRound} {service peer : MessageService}
    (synchronizes : (run (networkStep library mesh) (Network.initial mesh) actions).Synchronizes
      library sender receiver round service peer) :
    let network := run (networkStep library mesh) (Network.initial mesh) actions
    let after := network.afterRound library mesh sender receiver round
    Guarded (networkStep library mesh) (fun network action => action.Gapless library network) network
      (round.actions library network sender receiver peer) ∧
    (after.nodes receiver).process.database.committed =
      (network.nodes receiver).process.database.committed ++
        (network.outstanding sender receiver).take maxSyncBatchMessages ∧
    after.outstanding sender receiver =
      (network.outstanding sender receiver).drop maxSyncBatchMessages ∧
    ∀ message, message ∈ network.outstanding sender receiver ↔
      message ∈ service.store.messages ∧
        message ∉ (network.nodes receiver).process.database.committed := by
  intro network after
  have inOrder : network.InOrder library mesh := run_inOrder lawful orderly
  have genuine := inOrder.recovering.agreeing.genuine
  refine ⟨inOrder.round_gapless lawful synchronizes, ?_,
    inOrder.outstanding_afterRound lawful synchronizes,
    fun message => inOrder.mem_outstanding synchronizes.sending receiver⟩
  show ((network.afterRound library mesh sender receiver round).nodes
    receiver).process.database.committed = _
  -- The round changes the peer only, which has committed its batch.
  rw [Network.nodes_afterRound synchronizes, Function.update_self, synchronizes.receiving]
  exact genuine.committed_after lawful synchronizes

/-- A number of rounds that all succeed without filling the database. -/
def Network.RoundsSucceed (library : JsonC) (mesh : Mesh ι) (network : Network ι)
    (sender receiver : ι) (rounds : Nat → SyncRound) (count : Nat) : Prop :=
  ∀ index < count, (∃ service peer,
    (network.afterRounds library mesh sender receiver rounds index).Synchronizes library sender
      receiver (rounds index) service peer) ∧
    ∀ item, ((rounds index).results item).first.NeverFull

/-- A single round that succeeds. -/
theorem Network.roundsSucceed_one
    (synchronizes : network.Synchronizes library sender receiver round service peer)
    (neverFull : ∀ index, (round.results index).first.NeverFull) :
    network.RoundsSucceed library mesh sender receiver (fun _ => round) 1 := by
  -- The only round is the first one.
  intro index below
  rw [Nat.lt_one_iff.mp below]
  exact ⟨⟨service, peer, synchronizes⟩, neverFull⟩

/-- Rounds keep a network in order, and each takes one batch off what is outstanding. -/
theorem Network.InOrder.afterRounds (lawful : library.Lawful)
    (inOrder : network.InOrder library mesh) {rounds : Nat → SyncRound} {count : Nat}
    (succeed : network.RoundsSucceed library mesh sender receiver rounds count) :
    (network.afterRounds library mesh sender receiver rounds count).InOrder library mesh ∧
      (network.afterRounds library mesh sender receiver rounds count).outstanding sender receiver =
        (network.outstanding sender receiver).drop (count * maxSyncBatchMessages) ∧
      ((network.afterRounds library mesh sender receiver rounds count).nodes
        sender).process.messages = (network.nodes sender).process.messages := by
  induction count with
  | zero => exact ⟨inOrder, by simp [Network.afterRounds], rfl⟩
  | succ count ih =>
    obtain ⟨before, dropped, kept⟩ := ih fun index below => succeed index (by omega)
    obtain ⟨⟨service, peer, synchronizes⟩, neverFull⟩ := succeed count (by omega)
    have genuine := before.recovering.agreeing.genuine
    refine ⟨before.afterRound lawful synchronizes neverFull, ?_, ?_⟩
    · -- The last round drops one more batch.
      rw [Network.afterRounds, before.outstanding_afterRound lawful synchronizes, dropped,
        List.drop_drop, Nat.succ_mul]
    · rw [Network.afterRounds, genuine.messages_afterRound lawful synchronizes, kept]

end Rounds

/-- The summary request of a node on a new file, and a peer that answers it without a failing call. -/
def pairRound : SyncRound :=
  ⟨jsonRequest (synchronize plainJsonC .stored Database.empty), .stored, fun _ => {}⟩

/-- Two nodes that have each created a message nobody else has. -/
def greetings : List (NetworkAction Bool) :=
  [.create false 1 {} (createRequest (ascii "one")), .create true 2 {} (createRequest (ascii "two"))]

/-- The two nodes create their messages in order. -/
theorem greetings_orderly : Guarded (networkStep plainJsonC pairMesh)
    (NetworkAction.Orderly plainJsonC) (Network.initial pairMesh) greetings := by
  -- Every delivery is clean, so only the gaps are left to check.
  have gapless : Guarded (networkStep plainJsonC pairMesh)
      (fun network action => action.Gapless plainJsonC network) (Network.initial pairMesh)
      greetings := by decide +kernel
  have clean : ({} : AddResults).first.NeverFull := InsertResults.neverFull_default
  exact ⟨⟨gapless.1, clean⟩, ⟨gapless.2.1, clean⟩, trivial⟩

section Events

variable {ι : Type*} [DecidableEq ι] {library : JsonC} {mesh : Mesh ι} {network : Network ι}

/-- A step of a network, or rounds from one node to another with nothing else between them. -/
inductive NetworkEvent (ι : Type*) where
  /-- One step. -/
  | step (action : NetworkAction ι)
  /-- A number of sync rounds. -/
  | exchange (sender receiver : ι) (rounds : Nat → SyncRound) (count : Nat)

/-- The network after an event. -/
def networkEvent (library : JsonC) (mesh : Mesh ι) (network : Network ι) :
    NetworkEvent ι → Network ι
  | .step action => networkStep library mesh network action
  | .exchange sender receiver rounds count =>
    network.afterRounds library mesh sender receiver rounds count

/--
A step that is orderly, or enough rounds that all succeed.

There is at least one round, and together their batches have room for what is outstanding.
-/
def NetworkEvent.Orderly (library : JsonC) (mesh : Mesh ι) (network : Network ι) :
    NetworkEvent ι → Prop
  | .step action => action.Orderly library network
  | .exchange sender receiver rounds count =>
    network.RoundsSucceed library mesh sender receiver rounds count ∧ 0 < count ∧
      (network.outstanding sender receiver).length ≤ count * maxSyncBatchMessages

/-- An exchange passes on from its sender to its receiver. -/
inductive NetworkEvent.Passes : NetworkEvent ι → ι → ι → Prop where
  /-- Whatever the sender has. -/
  | exchange (sender receiver : ι) (rounds : Nat → SyncRound) (count : Nat) :
    NetworkEvent.Passes (.exchange sender receiver rounds count) sender receiver

/-- What a node has stored. -/
def Network.knows (network : Network ι) (node : ι) : Set ChatMessage :=
  fun message => message ∈ (network.nodes node).process.database.committed

/-- Every step keeps the history of every file. -/
theorem Stepped.knows_subset {action : NetworkAction ι} {after : Network ι}
    (stepped : Stepped library mesh network action after) (node : ι) :
    network.knows node ⊆ after.knows node := by
  intro message known
  -- Whoever acts, what its file has committed stays committed.
  have kept : ∀ acting (later : Node),
      (∀ row ∈ (network.nodes acting).process.database.committed,
        row ∈ later.process.database.committed) →
      message ∈ (Function.update network.nodes acting later node).process.database.committed := by
    intro acting later keeps
    by_cases acts : node = acting
    · subst acts
      rw [Function.update_self]
      exact keeps message known
    · rwa [Function.update_of_ne acts]
  cases stepped with
  | idle => exact known
  | created acting now results parsed service body running accepted =>
    apply kept
    intro row member
    rw [running] at member
    rw [Node.process_afterCreate, Process.database, createLocal_store]
    exact add_committed_subset _ _ _ row member
  | delivered index receiver lookup results post listed =>
    apply kept
    intro row member
    refine daemonStep_keeps (fun after => row ∈ after.process.database.committed) member ?_ ?_ ?_ ?_
    · intro now outcomes parsed same
      cases post <;> simp [Post.action] at same
    · intro lookup outcomes request _ service running message _
      rw [running] at member
      simp only [Process.database, ingestReplica_store]
      split
      · exact member
      · exact add_committed_subset _ _ _ row member
    · intro outcomes request _ message _ index service before
      simp only [Process.database, ingestSync_store]
      exact add_committed_subset _ _ _ row before
    · intro reload lookup same
      cases post <;> simp [Post.action] at same
  | sent acting summary service running => exact known
  | restarted acting reload lookup =>
    apply kept
    intro row member
    rwa [startProcess_database]

/-- What every step keeps, every event keeps. -/
theorem networkEvent_keeps {invariant : Network ι → Prop}
    (keeps : ∀ network action, invariant network →
      invariant (networkStep library mesh network action))
    (event : NetworkEvent ι) (holds : invariant network) :
    invariant (networkEvent library mesh network event) := by
  cases event with
  | step action => exact keeps network action holds
  | exchange sender receiver rounds count =>
    -- A round is a run of two steps.
    show invariant (network.afterRounds library mesh sender receiver rounds count)
    induction count with
    | zero => exact holds
    | succ count ih =>
      rw [Network.afterRounds, Network.afterRound]
      split
      · exact ih
      · exact run_invariant keeps _ ih

/-- Orderly events keep a network in order. -/
theorem Network.InOrder.event (lawful : library.Lawful) (inOrder : network.InOrder library mesh)
    {event : NetworkEvent ι} (orderly : event.Orderly library mesh network) :
    (networkEvent library mesh network event).InOrder library mesh := by
  -- An exchange is a number of rounds, each of which keeps the order.
  cases event with
  | step action =>
    exact (networkStep_stepped library mesh network action).inOrder lawful inOrder orderly.1
      orderly.2
  | exchange sender receiver rounds count => exact (inOrder.afterRounds lawful orderly.1).1

/-- After an exchange, its receiver has stored everything its sender had stored. -/
theorem Network.InOrder.exchanged (lawful : library.Lawful) (inOrder : network.InOrder library mesh)
    {sender receiver : ι} {rounds : Nat → SyncRound} {count : Nat}
    (orderly : (NetworkEvent.exchange sender receiver rounds count).Orderly library mesh network) :
    network.knows sender ⊆
      (network.afterRounds library mesh sender receiver rounds count).knows receiver := by
  obtain ⟨succeed, positive, enough⟩ := orderly
  obtain ⟨later, dropped, kept⟩ := inOrder.afterRounds lawful succeed
  obtain ⟨⟨service, peer, synchronizes⟩, _⟩ := succeed 0 positive
  have sending : (network.nodes sender).process = .running service := synchronizes.sending
  rw [List.drop_eq_nil_of_le enough] at dropped
  intro message known
  -- The sender has cached the message, and has it still when nothing is outstanding.
  have cached : message ∈ ((network.afterRounds library mesh sender receiver rounds count).nodes
      sender).process.messages := by
    rw [kept, sending]
    show message ∈ service.store.messages
    rw [inOrder.cached_eq sending]
    exact known
  have holds : (network.afterRounds library mesh sender receiver rounds count).Holds library
      message := .cached sender cached
  have created := holds.created lawful later.recovering.agreeing.genuine
  apply (later.committed_iff receiver created).mpr
  by_contra above
  have listed : message ∈ (network.afterRounds library mesh sender receiver rounds
      count).outstanding sender receiver :=
    List.mem_filter.mpr ⟨cached, decide_eq_true (Nat.lt_of_not_le above)⟩
  rw [dropped] at listed
  simp at listed

/-- Orderly events relay what nodes have stored along exchanges. -/
theorem network_relaying (lawful : library.Lawful) (mesh : Mesh ι) :
    Relaying (networkEvent library mesh) (fun network event => event.Orderly library mesh network)
      (fun network => network.InOrder library mesh) Network.knows NetworkEvent.Passes where
  keeps := fun network event inOrder orderly => inOrder.event lawful orderly
  grows := by
    intro network event _ _ node message known
    -- Nothing that was stored is forgotten.
    have keeps : ∀ network action, message ∈ network.knows node →
        message ∈ (networkStep library mesh network action).knows node := by
      intro network action before
      exact (networkStep_stepped library mesh network action).knows_subset node before
    exact networkEvent_keeps keeps event known
  reaches := by
    intro network event first next inOrder orderly passes
    -- What the sender knows, an exchange brings to the receiver.
    cases passes
    exact inOrder.exchanged lawful orderly

end Events

section Likeness

variable {ι : Type*} {library : JsonC} {mesh : Mesh ι} {network : Network ι}

/-- Stores with the same messages are listed alike. -/
theorem getMessages_congr {left right : MessageStore} (leftSound : left.Sound)
    (rightSound : right.Sound)
    (same : ∀ message, message ∈ left.messages ↔ message ∈ right.messages) :
    getMessages library left.messages = getMessages library right.messages := by
  -- Neither cache repeats a message, and the sort key tells messages apart.
  have rearranged : left.messages.Perm right.messages :=
    (List.perm_ext_iff_of_nodup (leftSound.nodup_messageId.of_map _)
      (rightSound.nodup_messageId.of_map _)).mpr same
  have sorted : sortedMessages left.messages = sortedMessages right.messages := by
    rw [sortedMessages_eq, sortedMessages_eq]
    apply sortBy_eq_of_perm sortKey rearranged
    intro earlier earlierMember later laterMember sameKey
    exact List.inj_on_of_nodup_map leftSound.nodup_messageId earlierMember laterMember
      (sortKey_messageId sameKey)
  simp only [getMessages, sorted]

/-- Files with the same history send the same marks. -/
theorem sequenceSummary_congr {left right : Database} (leftConsistent : left.Consistent)
    (rightConsistent : right.Consistent)
    (same : ∀ message, message ∈ left.committed ↔ message ∈ right.committed) :
    (sequenceSummary left).Perm (sequenceSummary right) := by
  -- Each mark is the greatest sequence of what was stored of the origin.
  refine (List.perm_ext_iff_of_nodup (left.sequences.unique.of_map _)
    (right.sequences.unique.of_map _)).mpr ?_
  rintro ⟨origin, last⟩
  rw [Marks.mem_entries_iff, Marks.mem_entries_iff, leftConsistent.mark_congr rightConsistent same]

/-- Nodes in order that have stored all there is are alike, and have nothing for each other. -/
theorem Network.InOrder.converged (lawful : library.Lawful)
    (inOrder : network.InOrder library mesh)
    (everywhere : ∀ node message, network.Created message →
      message ∈ (network.nodes node).process.database.committed) (left right : ι) :
    (sequenceSummary (network.nodes left).process.database).Perm
      (sequenceSummary (network.nodes right).process.database) ∧
    (∀ service peer, (network.nodes left).process = .running service →
      (network.nodes right).process = .running peer →
      getMessages library service.store.messages = getMessages library peer.store.messages) ∧
    network.outstanding left right = [] := by
  have genuine := inOrder.recovering.agreeing.genuine
  have sound := genuine.sound
  have members : ∀ node message, message ∈ (network.nodes node).process.database.committed ↔
      network.Created message :=
    fun node message => ⟨genuine.stored node message, everywhere node message⟩
  refine ⟨?_, ?_, ?_⟩
  · apply sequenceSummary_congr (sound left).consistent (sound right).consistent
    intro message
    rw [members left, members right]
  · intro service peer leftRuns rightRuns
    have leftSound := sound left
    have rightSound := sound right
    rw [leftRuns] at leftSound
    rw [rightRuns] at rightSound
    apply getMessages_congr (MessageService.Sound.stored leftSound)
      (MessageService.Sound.stored rightSound)
    intro message
    rw [inOrder.cached_eq leftRuns, inOrder.cached_eq rightRuns, members left, members right]
  · -- Whatever a node has cached, the other has stored.
    rw [List.eq_nil_iff_forall_not_mem]
    intro message listed
    obtain ⟨cached, above⟩ := List.mem_filter.mp listed
    have holds : network.Holds library message := .cached left cached
    have created := holds.created lawful genuine
    have reached := (inOrder.committed_iff right created).mp (everywhere right message created)
    simp only [decide_eq_true_eq] at above
    omega

end Likeness

section Convergence

variable {ι : Type*} [DecidableEq ι] {library : JsonC} {mesh : Mesh ι} {network : Network ι}

/-- Exchanges that lead from everyone to everyone leave every node with what was created before. -/
theorem Network.InOrder.spread (lawful : library.Lawful) (inOrder : network.InOrder library mesh)
    {events : List (NetworkEvent ι)}
    (orderly : Guarded (networkEvent library mesh)
      (fun network event => event.Orderly library mesh network) network events)
    (connected : ∀ first last, Relays NetworkEvent.Passes events first last) {node : ι}
    {message : ChatMessage} (created : network.Created message) :
    message ∈ ((run (networkEvent library mesh) network events).nodes
      node).process.database.committed := by
  -- Its author has stored it, and what the author stored reaches every node.
  obtain ⟨author, stored⟩ := inOrder.exists_row created
  rw [(inOrder.nodes author).unpruned] at stored
  exact (network_relaying lawful mesh).subset orderly inOrder (connected author node) stored

/--
Exchanges that lead from everyone to everyone make a network converge.

From any network an orderly run has reached, let any orderly steps and any exchanges happen, in any
order, such that a chain of exchanges leads from every node to every other. In the end every node
has stored every message that was acknowledged at the start. When nothing more was acknowledged
meanwhile, all nodes have the same rows and the same marks, running nodes list the same messages,
and nothing is outstanding anywhere.
-/
theorem exchanges_converge (lawful : library.Lawful) (mesh : Mesh ι)
    {actions : List (NetworkAction ι)} {events : List (NetworkEvent ι)}
    (reached : Guarded (networkStep library mesh) (NetworkAction.Orderly library)
      (Network.initial mesh) actions)
    (orderly : Guarded (networkEvent library mesh)
      (fun network event => event.Orderly library mesh network)
      (run (networkStep library mesh) (Network.initial mesh) actions) events)
    (connected : ∀ first last, Relays NetworkEvent.Passes events first last) :
    let start := run (networkStep library mesh) (Network.initial mesh) actions
    let final := run (networkEvent library mesh) start events
    (∀ node message, start.Created message →
      message ∈ (final.nodes node).process.database.rows) ∧
    ((∀ message, final.Created message → start.Created message) →
      (∀ node message, message ∈ (final.nodes node).process.database.rows ↔
        final.Created message) ∧
      ∀ left right,
        (sequenceSummary (final.nodes left).process.database).Perm
          (sequenceSummary (final.nodes right).process.database) ∧
        (∀ service peer, (final.nodes left).process = .running service →
          (final.nodes right).process = .running peer →
          getMessages library service.store.messages = getMessages library peer.store.messages) ∧
        final.outstanding left right = []) := by
  intro start final
  have inOrder : start.InOrder library mesh := run_inOrder lawful reached
  have later : final.InOrder library mesh :=
    guarded_invariant (network_relaying lawful mesh).keeps orderly inOrder
  have everywhere : ∀ node message, start.Created message →
      message ∈ (final.nodes node).process.database.committed :=
    fun node message created => inOrder.spread lawful orderly connected created
  refine ⟨?_, ?_⟩
  · intro node message created
    rw [(later.nodes node).unpruned]
    exact everywhere node message created
  · -- With nothing new, all that was created is what was there at the start.
    intro nothingNew
    have spread : ∀ node message, final.Created message →
        message ∈ (final.nodes node).process.database.committed :=
      fun node message created => everywhere node message (nothingNew message created)
    refine ⟨?_, later.converged lawful spread⟩
    intro node message
    rw [(later.nodes node).unpruned]
    exact ⟨later.recovering.agreeing.genuine.stored node message, spread node message⟩

end Convergence

section Greetings

/-- The service of node a once it has created its message. -/
def greeterA : MessageService :=
  (createLocal plainJsonC 1 {} (ascii "one") (MessageService.initial (pairMesh.identity false))).2

/-- The service of node b once it has created its message. -/
def greeterB : MessageService :=
  (createLocal plainJsonC 2 {} (ascii "two") (MessageService.initial (pairMesh.identity true))).2

/-- A round from node a to node b succeeds. -/
theorem greetings_synchronize :
    (run (networkStep plainJsonC pairMesh) (Network.initial pairMesh) greetings).Synchronizes
      plainJsonC false true pairRound greeterA greeterB where
  -- Both nodes are running, and no call of the round fails.
  sending := rfl
  receiving := rfl
  succeeds := SyncRound.succeeds_clean (fun _ => rfl) (by decide +kernel) (by decide +kernel)
    (by decide +kernel)

/-- A round carries the one message node b is missing. -/
theorem round_takes_batch_greeting :
    let network := run (networkStep plainJsonC pairMesh) (Network.initial pairMesh) greetings
    let after := network.afterRound plainJsonC pairMesh false true pairRound
    (network.outstanding false true).map ChatMessage.messageId = [ascii "a:1"] ∧
      (after.nodes true).process.database.committed.map ChatMessage.messageId =
        [ascii "b:1", ascii "a:1"] := by
  -- Bob has his own greeting, and takes Alice's behind it.
  intro network after
  have taken := (round_takes_batch plainJsonC_lawful pairMesh greetings_orderly
    greetings_synchronize).2.1
  have listed : (network.outstanding false true).map ChatMessage.messageId = [ascii "a:1"] := by
    decide +kernel
  refine ⟨listed, ?_⟩
  rw [show (after.nodes true).process.database.committed = _ from taken]
  decide +kernel

/-- A round from node a to node b, and then one from b to a. -/
def greetingRounds : List (NetworkEvent Bool) :=
  [.exchange false true (fun _ => pairRound) 1, .exchange true false (fun _ => pairRound) 1]

/-- The two rounds succeed, and have room for what is outstanding. -/
theorem greetingRounds_orderly : Guarded (networkEvent plainJsonC pairMesh)
    (fun network event => event.Orderly plainJsonC pairMesh network)
    (run (networkStep plainJsonC pairMesh) (Network.initial pairMesh) greetings)
    greetingRounds := by
  let start := run (networkStep plainJsonC pairMesh) (Network.initial pairMesh) greetings
  let middle := start.afterRounds plainJsonC pairMesh false true (fun _ => pairRound) 1
  let after := pairRound.after plainJsonC greeterA.store.messages greeterB
  have nodes : middle.nodes = _ := Network.nodes_afterRound greetings_synchronize
  -- After the first exchange the nodes change their parts.
  have back : middle.Synchronizes plainJsonC true false pairRound after greeterA := by
    refine ⟨by rw [nodes, Function.update_self], ?_, ?_⟩
    · rw [nodes, Function.update_of_ne (by decide)]
      rfl
    · exact SyncRound.succeeds_clean (fun _ => rfl) (by decide +kernel) (by decide +kernel)
        (by decide +kernel)
  have clean : ∀ index, (pairRound.results index).first.NeverFull :=
    fun _ => InsertResults.neverFull_default
  have there : (NetworkEvent.exchange false true (fun _ => pairRound) 1).Orderly plainJsonC
      pairMesh start :=
    ⟨Network.roundsSucceed_one greetings_synchronize clean, Nat.one_pos, by decide +kernel⟩
  have andBack : (NetworkEvent.exchange true false (fun _ => pairRound) 1).Orderly plainJsonC
      pairMesh middle :=
    ⟨Network.roundsSucceed_one back clean, Nat.one_pos, by decide +kernel⟩
  exact ⟨there, andBack, trivial⟩

/-- One round each way leaves two nodes with both their messages. -/
theorem exchanges_converge_greetings :
    (∀ node message, (run (networkStep plainJsonC pairMesh) (Network.initial pairMesh)
        greetings).Created message →
      message ∈ ((run (networkEvent plainJsonC pairMesh) (run (networkStep plainJsonC pairMesh)
        (Network.initial pairMesh) greetings) greetingRounds).nodes node).process.database.rows) ∧
      ((run (networkEvent plainJsonC pairMesh) (run (networkStep plainJsonC pairMesh)
        (Network.initial pairMesh) greetings) greetingRounds).nodes
          false).process.database.rows.map ChatMessage.messageId = [ascii "a:1", ascii "b:1"] := by
  -- The first exchange leads one way, and the second the other way.
  have connected : ∀ first last, Relays NetworkEvent.Passes greetingRounds first last := by
    intro first last
    cases first <;> cases last
    · exact Relays.refl _ _
    · exact .pass (.exchange _ _ _ _) (Relays.refl _ _)
    · exact .skip _ (.pass (.exchange _ _ _ _) (Relays.refl _ _))
    · exact Relays.refl _ _
  have converge := exchanges_converge plainJsonC_lawful pairMesh greetings_orderly
    greetingRounds_orderly connected
  exact ⟨converge.1, by decide +kernel⟩

end Greetings

end LesChat
