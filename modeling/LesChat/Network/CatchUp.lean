import LesChat.Network.Agreement
import LesChat.Sync.SyncRound

/-! Catching up: sync rounds from one node to another end with nothing left to send. -/

namespace LesChat

open Foundation

/-- Cached messages are apart from each other. -/
theorem MessageStore.Sound.pairwise_apart {store : MessageStore} (sound : store.Sound) :
    store.messages.Pairwise Apart :=
  -- Neither unique key repeats.
  (List.pairwise_map.mp sound.nodup_messageId).and (List.pairwise_map.mp sound.nodup_key)

section Facts

variable {ι : Type*} {library : JsonC} {mesh : Mesh ι} {network : Network ι}

/-- A message above a node's mark is apart from everything that was ever stored there. -/
theorem Network.Genuine.apart_of_mark_lt (genuine : network.Genuine library mesh) {node : ι}
    {message row : ChatMessage} (created : network.Created message)
    (above : (network.nodes node).process.database.sequences.value message.origin <
      message.sequence)
    (member : row ∈ (network.nodes node).process.database.committed) : Apart row message := by
  obtain ⟨first, rowMember⟩ := genuine.stored node row member
  obtain ⟨second, messageMember⟩ := created
  have rowBuilt := genuine.built first row rowMember
  have built := genuine.built second message messageMember
  have bounded := (genuine.sound node).consistent.le_mark member
  -- A collision would give both the same author and the same sequence, which the mark excludes.
  have collide : row.messageId = message.messageId ∨
      (row.origin, row.sequence) = (message.origin, message.sequence) → False := by
    intro same
    obtain ⟨rfl, sameSequence⟩ := mesh.author_unique rowBuilt built same
    rw [rowBuilt.origin, ← built.origin] at bounded
    omega
  exact ⟨fun sameId => collide (.inl sameId), fun sameKey => collide (.inr sameKey)⟩

/-- A longer history has marks at least as high. -/
theorem Database.Consistent.mark_mono {before after : Database} (consistent : before.Consistent)
    (later : after.Consistent) (kept : ∀ row ∈ before.committed, row ∈ after.committed)
    (origin : Bytes) : before.sequences.value origin ≤ after.sequences.value origin := by
  -- Both marks are read off the histories.
  rw [consistent.mark_eq, later.mark_eq]
  exact highWater_mono _ _ kept origin

/-- Once some outstanding messages were stored, fewer are outstanding. -/
theorem outstanding_decreases {messages taken : List ChatMessage} {before after : Database}
    (consistent : before.Consistent) (later : after.Consistent)
    (committed : after.committed = before.committed ++ taken) (nonempty : taken ≠ [])
    (sent : ∀ message ∈ taken, message ∈ outstanding messages before) :
    (outstanding messages after).length < (outstanding messages before).length := by
  -- No mark sinks, so nothing new becomes outstanding.
  have grown := consistent.mark_mono later fun row member => by
    rw [committed]
    exact List.mem_append_left _ member
  -- What is outstanding afterwards was outstanding before.
  have filtered : outstanding messages after =
      (outstanding messages before).filter fun message =>
        after.sequences.value message.origin < message.sequence := by
    rw [outstanding, outstanding, List.filter_filter]
    refine List.filter_congr fun message _ => ?_
    have raised := grown message.origin
    rw [Bool.eq_iff_iff]
    simp only [decide_eq_true_eq, Bool.and_eq_true]
    omega
  obtain ⟨message, member⟩ := List.exists_mem_of_ne_nil taken nonempty
  rw [filtered, List.length_filter_lt_length_iff_exists]
  refine ⟨message, sent message member, ?_⟩
  -- A message that was taken is at most its mark.
  have stored : message ∈ after.committed := by
    rw [committed]
    exact List.mem_append_right _ member
  have bounded := later.le_mark stored
  simpa using bounded

/-- The messages of one node whose sequences exceed the marks of another. -/
def Network.outstanding (network : Network ι) (sender receiver : ι) : List ChatMessage :=
  LesChat.outstanding (network.nodes sender).process.messages
    (network.nodes receiver).process.database

/-- Two running nodes between which a round succeeds. -/
structure Network.Synchronizes (library : JsonC) (network : Network ι) (sender receiver : ι)
    (round : SyncRound)
    (service peer : MessageService) : Prop where
  /-- The sender runs a service. -/
  sending : (network.nodes sender).process = .running service
  /-- The peer runs a service. -/
  receiving : (network.nodes receiver).process = .running peer
  /-- The summary is answered, the batch fits, and no `add` throws. -/
  succeeds : round.Succeeds library service.store.messages peer

variable {sender receiver : ι} {round : SyncRound} {service peer : MessageService}

/-- What is outstanding between two nodes is what is outstanding between their services. -/
theorem Network.Synchronizes.outstanding_eq
    (synchronizes : network.Synchronizes library sender receiver round service peer) :
    network.outstanding sender receiver =
      LesChat.outstanding service.store.messages peer.store.database := by
  -- Both nodes are running.
  rw [Network.outstanding, synchronizes.sending, synchronizes.receiving]
  rfl

/-- The batch of a round is what is outstanding, cut at its limit. -/
theorem Network.Genuine.round_batch (lawful : library.Lawful)
    (genuine : network.Genuine library mesh)
    (synchronizes : network.Synchronizes library sender receiver round service peer) :
    round.batch library service.store.messages peer =
      .ok (if network.outstanding sender receiver = [] then none
        else some (serializeJson library (batchJson
          (((network.outstanding sender receiver).take maxSyncBatchMessages).map
            messageToJson)))) ∧
    missingMessages library service.store.messages (round.answer library peer).body =
      (network.outstanding sender receiver).take maxSyncBatchMessages := by
  have receiving := synchronizes.receiving
  have consistent := (genuine.sound receiver).consistent
  have terminated := genuine.terminated receiver
  rw [receiving] at consistent terminated
  -- The sender looks its origins up as C strings, which they are.
  have own : ∀ message ∈ service.store.messages, 0 ∉ message.origin := fun message member =>
    (genuine.built_of_created
      (genuine.created_of_cached synchronizes.sending member)).origin_terminated
  have answered := synchronizes.succeeds.answered
  rw [synchronizes.outstanding_eq]
  exact ⟨SyncRound.batch_answer lawful answered consistent terminated own,
    (SyncRound.missingMessages_answer lawful answered consistent terminated own).2⟩

/-- A round with something outstanding is answered with the size of its batch, which is stored. -/
theorem Network.Genuine.round_accepted (lawful : library.Lawful)
    (genuine : network.Genuine library mesh)
    (synchronizes : network.Synchronizes library sender receiver round service peer)
    (nonempty : network.outstanding sender receiver ≠ []) :
    let taken := (network.outstanding sender receiver).take maxSyncBatchMessages
    let batch := serializeJson library (batchJson (taken.map messageToJson))
    round.batch library service.store.messages peer = .ok (some batch) ∧
      batchItems (parseJson library batch).object = some (taken.map messageToJson) ∧
      (syncMessages library round.results (jsonRequest batch) peer).1 =
        acceptedResponse taken.length ∧
      (round.after library service.store.messages peer).store.database.committed =
        peer.store.database.committed ++ taken := by
  intro taken batch
  obtain ⟨sent, missing⟩ := genuine.round_batch lawful synchronizes
  rw [if_neg nonempty] at sent
  have receiving := synchronizes.receiving
  have sending := synchronizes.sending
  -- Everything taken is cached at the sender, above the marks of the peer.
  have taken_sublist : taken.Sublist service.store.messages := by
    refine (List.take_sublist _ _).trans ?_
    simp only [Network.outstanding, sending]
    exact List.filter_sublist
  have above : ∀ message ∈ taken,
      (network.nodes receiver).process.database.sequences.value message.origin <
        message.sequence := fun message member =>
    of_decide_eq_true (List.mem_filter.mp (List.mem_of_mem_take member)).2
  have created : ∀ message ∈ taken, network.Created message := fun message member =>
    genuine.created_of_cached sending (taken_sublist.subset member)
  have soundSender := genuine.sound sender
  rw [sending] at soundSender
  have distinct : taken.Pairwise Apart :=
    (MessageService.Sound.stored soundSender).pairwise_apart.sublist taken_sublist
  have parsed : ∀ message ∈ taken, parseMessage (messageToJson message) = some message := by
    intro message member
    have positive := above message member
    exact (genuine.built_of_created (created message member)).parse (by omega)
  -- Nothing the peer stores is in the way of a message above its marks.
  have apart : ∀ row ∈ peer.store.database.rows, ∀ message ∈ taken, Apart row message := by
    intro row rowMember message member
    refine genuine.apart_of_mark_lt (created message member) (above message member) ?_
    refine (genuine.sound receiver).consistent.committed_of_mem ?_
    rwa [receiving]
  have small := synchronizes.succeeds.small batch sent
  have returns := synchronizes.succeeds.returns
  rw [missing] at returns
  obtain ⟨response, committed⟩ := syncMessages_apart lawful (List.length_take_le _ _) small parsed
    returns distinct apart
  refine ⟨sent, ?_, response, ?_⟩
  · -- The batch is read back with the items it was made from.
    have read : parseJson library batch = ⟨batchJson (taken.map messageToJson), true, _⟩ :=
      lawful.parse_plainText _ (by rw [batchJson_eq]; rfl) (plain_batchJson taken)
    rw [read]
    exact batchItems_batchJson (by rw [List.length_map]; exact List.length_take_le _ _)
  · rw [SyncRound.after, sent]
    exact committed

/-- A round with nothing outstanding sends nothing. -/
theorem Network.Genuine.round_idle (lawful : library.Lawful)
    (genuine : network.Genuine library mesh)
    (synchronizes : network.Synchronizes library sender receiver round service peer)
    (empty : network.outstanding sender receiver = []) :
    round.batch library service.store.messages peer = .ok none ∧
      round.after library service.store.messages peer = peer := by
  -- Without anything outstanding no batch is made, and the peer is left alone.
  have sent := (genuine.round_batch lawful synchronizes).1
  rw [if_pos empty] at sent
  exact ⟨sent, by rw [SyncRound.after, sent]⟩

/-- A round leaves the peer with what was outstanding, as much as fits one batch. -/
theorem Network.Genuine.committed_after (lawful : library.Lawful)
    (genuine : network.Genuine library mesh)
    (synchronizes : network.Synchronizes library sender receiver round service peer) :
    (round.after library service.store.messages peer).store.database.committed =
      peer.store.database.committed ++
        (network.outstanding sender receiver).take maxSyncBatchMessages := by
  by_cases empty : network.outstanding sender receiver = []
  · -- Nothing was outstanding, and the round left the peer as it was.
    rw [empty, List.take_nil, List.append_nil, (genuine.round_idle lawful synchronizes empty).2]
  · exact (genuine.round_accepted lawful synchronizes empty).2.2.2

/-- A node has nothing outstanding for itself. -/
theorem Network.Genuine.outstanding_self (genuine : network.Genuine library mesh) {node : ι}
    (sending : (network.nodes node).process = .running service) :
    network.outstanding node node = [] := by
  have sound := genuine.sound node
  rw [sending] at sound
  have stored := MessageService.Sound.stored sound
  simp only [Network.outstanding, LesChat.outstanding, sending, Process.messages, Process.database]
  rw [List.filter_eq_nil_iff]
  intro message member above
  -- Its own marks bound everything it has cached.
  have bounded := stored.consistent.le_mark (stored.committed_of_mem member)
  simp only [decide_eq_true_eq] at above
  omega

end Facts

section Rounds

variable {ι : Type*} [DecidableEq ι] (library : JsonC) (mesh : Mesh ι)

/-- The steps of a sync round: the sender answers the peer's summary, and the peer gets the batch. -/
def SyncRound.actions (round : SyncRound) (network : Network ι) (sender receiver : ι)
    (peer : MessageService) : List (NetworkAction ι) :=
  [.sendMissing sender (round.answer library peer).body,
    .deliver network.posts.length receiver .ok round.results]

/-- The network after a round. -/
def Network.afterRound (network : Network ι) (sender receiver : ι) (round : SyncRound) :
    Network ι :=
  match (network.nodes receiver).process with
  | .stopped _ => network
  | .running peer =>
    run (networkStep library mesh) network (round.actions library network sender receiver peer)

/-- The network after a number of rounds, with nothing else happening. -/
def Network.afterRounds (network : Network ι) (sender receiver : ι) (rounds : Nat → SyncRound) :
    Nat → Network ι
  | 0 => network
  | count + 1 =>
    (network.afterRounds sender receiver rounds count).afterRound library mesh sender receiver
      (rounds count)

variable {library mesh} {network : Network ι} {sender receiver : ι} {round : SyncRound}
  {service peer : MessageService}

/-- A round changes the peer only, as the handlers it goes through do. -/
theorem Network.nodes_afterRound
    (synchronizes : network.Synchronizes library sender receiver round service peer) :
    (network.afterRound library mesh sender receiver round).nodes =
      Function.update network.nodes receiver
        ⟨.running (round.after library service.store.messages peer),
          (network.nodes receiver).acknowledged⟩ := by
  -- When no batch is sent, the peer is replaced by itself.
  have same : network.nodes receiver =
      ⟨.running peer, (network.nodes receiver).acknowledged⟩ := by
    rw [← synchronizes.receiving]
  have unsent : networkStep library mesh network
      (.deliver network.posts.length receiver .ok round.results) = network := by
    simp [networkStep]
  simp only [Network.afterRound, synchronizes.receiving, SyncRound.actions, run_cons, run_nil]
  cases sent : round.batch library service.store.messages peer with
  | error error =>
    -- Nothing is sent, so there is nothing to deliver.
    have step : networkStep library mesh network
        (.sendMissing sender (round.answer library peer).body) = network := by
      rw [SyncRound.batch] at sent
      simp only [networkStep, Network.afterSendMissing, synchronizes.sending, sent]
    rw [step, unsent, SyncRound.after, sent, ← same, Function.update_eq_self]
  | ok outcome =>
    cases outcome with
    | none =>
      have step : networkStep library mesh network
          (.sendMissing sender (round.answer library peer).body) = network := by
        rw [SyncRound.batch] at sent
        simp only [networkStep, Network.afterSendMissing, synchronizes.sending, sent]
      rw [step, unsent, SyncRound.after, sent, ← same, Function.update_eq_self]
    | some batch =>
      -- The batch is the last request, and it is the one that is delivered.
      have step : networkStep library mesh network
          (.sendMissing sender (round.answer library peer).body) =
          { network with posts := network.posts ++ [.syncMessages batch] } := by
        rw [SyncRound.batch] at sent
        simp only [networkStep, Network.afterSendMissing, synchronizes.sending, sent]
      rw [step, SyncRound.after, sent]
      simp only [networkStep, List.getElem?_concat_length, Network.act, Post.action, daemonStep,
        synchronizes.receiving]

/-- Rounds keep a network genuine. -/
theorem Network.Genuine.afterRound (lawful : library.Lawful)
    (genuine : network.Genuine library mesh) (sender receiver : ι) (round : SyncRound) :
    (network.afterRound library mesh sender receiver round).Genuine library mesh := by
  -- A round is two steps, and none when the peer is stopped.
  unfold Network.afterRound
  split
  · exact genuine
  · exact run_invariant (fun network action before =>
      (networkStep_stepped library mesh network action).genuine lawful before) _ genuine

/-- Rounds keep a network genuine, however many there are. -/
theorem Network.Genuine.afterRounds (lawful : library.Lawful)
    (genuine : network.Genuine library mesh) (sender receiver : ι) (rounds : Nat → SyncRound)
    (count : Nat) :
    (network.afterRounds library mesh sender receiver rounds count).Genuine library mesh := by
  -- The induction is on the number of rounds.
  induction count with
  | zero => exact genuine
  | succ count ih => exact ih.afterRound lawful sender receiver (rounds count)

/-- A round leaves the sender's messages as they are. -/
theorem Network.Genuine.messages_afterRound (lawful : library.Lawful)
    (genuine : network.Genuine library mesh)
    (synchronizes : network.Synchronizes library sender receiver round service peer) :
    ((network.afterRound library mesh sender receiver round).nodes sender).process.messages =
      (network.nodes sender).process.messages := by
  -- A node that synchronizes with itself has nothing outstanding.
  rw [Network.nodes_afterRound synchronizes]
  by_cases same : sender = receiver
  · subst same
    have empty := genuine.outstanding_self synchronizes.sending
    rw [Function.update_self, (genuine.round_idle lawful synchronizes empty).2,
      synchronizes.receiving]
  · rw [Function.update_of_ne same]

/-- A round with something outstanding leaves less outstanding. -/
theorem Network.Genuine.outstanding_afterRound (lawful : library.Lawful)
    (genuine : network.Genuine library mesh)
    (synchronizes : network.Synchronizes library sender receiver round service peer)
    (nonempty : network.outstanding sender receiver ≠ []) :
    ((network.afterRound library mesh sender receiver round).outstanding sender receiver).length <
      (network.outstanding sender receiver).length := by
  obtain ⟨_, _, _, committed⟩ := genuine.round_accepted lawful synchronizes nonempty
  have later := ((genuine.afterRound lawful sender receiver round).sound receiver).consistent
  rw [Network.nodes_afterRound synchronizes, Function.update_self] at later
  have before := (genuine.sound receiver).consistent
  rw [synchronizes.receiving] at before
  -- The sender's messages are the same, and the peer has stored some that were outstanding.
  rw [Network.outstanding, genuine.messages_afterRound lawful synchronizes,
    Network.nodes_afterRound synchronizes, Function.update_self, Network.outstanding,
    synchronizes.receiving]
  refine outstanding_decreases before later committed ?_ ?_
  · simpa [List.take_eq_nil_iff, maxSyncBatchMessages] using nonempty
  · intro message member
    have sent := List.mem_of_mem_take member
    rwa [Network.outstanding, synchronizes.receiving] at sent

/--
Catching up ends, in every network a run has reached.

When only sync rounds from one node to another happen, each of them succeeding, every batch is
answered with its size and leaves less outstanding. After at most as many rounds as the sender has
messages nothing is sent, and all its messages are within the marks of the peer; so are all the rows
of its table when no failed reload left one out of its cache.
-/
theorem catchUp_terminates (lawful : library.Lawful) (mesh : Mesh ι)
    (actions : List (NetworkAction ι)) (sender receiver : ι) (rounds : Nat → SyncRound) :
    let networks := (run (networkStep library mesh) (Network.initial mesh) actions).afterRounds
      library mesh sender receiver rounds
    (∀ count, ∃ service peer,
      (networks count).Synchronizes library sender receiver (rounds count) service peer) →
    (∀ count service peer,
      (networks count).Synchronizes library sender receiver (rounds count) service peer →
      ∀ batch, (rounds count).batch library service.store.messages peer = .ok (some batch) →
      (∃ items, items ≠ [] ∧ batchItems (parseJson library batch).object = some items ∧
        (syncMessages library (rounds count).results (jsonRequest batch) peer).1 =
          acceptedResponse items.length) ∧
      ((networks (count + 1)).outstanding sender receiver).length <
        ((networks count).outstanding sender receiver).length) ∧
    ∃ count, count ≤ ((networks 0).nodes sender).process.messages.length ∧
      ∀ service peer,
        (networks count).Synchronizes library sender receiver (rounds count) service peer →
        (rounds count).batch library service.store.messages peer = .ok none ∧
        (∀ message ∈ service.store.messages,
          message.sequence ≤ peer.store.database.sequences.value message.origin) ∧
        ((∀ row ∈ service.store.database.rows, row ∈ service.store.messages) →
          ∀ row ∈ service.store.database.rows,
            row.sequence ≤ peer.store.database.sequences.value row.origin) := by
  intro networks synchronize
  have genuine : ∀ count, (networks count).Genuine library mesh :=
    (run_genuine lawful actions).afterRounds lawful sender receiver rounds
  constructor
  · intro count service peer synchronizes batch sent
    -- A batch is sent only when something is outstanding.
    have nonempty : (networks count).outstanding sender receiver ≠ [] := by
      intro empty
      rw [((genuine count).round_idle lawful synchronizes empty).1] at sent
      simp at sent
    obtain ⟨same, items, response, _⟩ := (genuine count).round_accepted lawful synchronizes nonempty
    rw [sent, Except.ok.injEq, Option.some.injEq] at same
    rw [← same] at items response
    refine ⟨⟨_, ?_, items, by rwa [List.length_map]⟩,
      (genuine count).outstanding_afterRound lawful synchronizes nonempty⟩
    simpa [List.take_eq_nil_iff, maxSyncBatchMessages] using nonempty
  · -- What is outstanding drops with every round until nothing is.
    obtain ⟨count, bounded, zero⟩ := exists_le_measure_zero
      (fun count => ((networks count).outstanding sender receiver).length) (by
        intro count positive
        obtain ⟨service, peer, synchronizes⟩ := synchronize count
        exact (genuine count).outstanding_afterRound lawful synchronizes
          (List.length_pos_iff.mp (Nat.pos_of_ne_zero positive)))
    refine ⟨count, bounded.trans (List.length_filter_le _ _), ?_⟩
    intro service peer synchronizes
    have empty : (networks count).outstanding sender receiver = [] :=
      List.length_eq_zero_iff.mp zero
    have idle := ((genuine count).round_idle lawful synchronizes empty).1
    have within : ∀ message ∈ service.store.messages,
        message.sequence ≤ peer.store.database.sequences.value message.origin := by
      intro message member
      rw [synchronizes.outstanding_eq, outstanding, List.filter_eq_nil_iff] at empty
      have beyond := empty message member
      simp only [decide_eq_true_eq] at beyond
      omega
    -- A row of the table is within the marks when it is in the cache.
    exact ⟨idle, within, fun cached row stored => within row (cached row stored)⟩

end Rounds

/--
A greeting its author did not replicate is fetched in one round, after which nothing is sent.

Every row of the author's table is then within the marks of the peer.
-/
theorem catchUp_terminates_pair :
    let round : SyncRound :=
      ⟨jsonRequest (synchronize plainJsonC .stored Database.empty), .stored, fun _ => {}⟩
    let networks := (run (networkStep plainJsonC pairMesh) (Network.initial pairMesh)
      [.create false 1 {} (createRequest (ascii "hello"))]).afterRounds plainJsonC pairMesh false
        true fun _ => round
    ((networks 0).outstanding false true).map ChatMessage.messageId = [ascii "a:1"] ∧
      ∃ count, count ≤ 1 ∧ ∃ service peer,
        (networks count).Synchronizes plainJsonC false true round service peer ∧
        round.batch plainJsonC service.store.messages peer = .ok none ∧
        ∀ row ∈ service.store.database.rows,
          row.sequence ≤ peer.store.database.sequences.value row.origin := by
  intro round networks
  let service := (createLocal plainJsonC 1 {} (ascii "hello")
    (MessageService.initial (pairMesh.identity false))).2
  let peer := MessageService.initial (pairMesh.identity true)
  let caught := round.after plainJsonC service.store.messages peer
  have sending : ((networks 0).nodes false).process = .running service := rfl
  have receiving : ((networks 0).nodes true).process = .running peer := rfl
  have inRange : ∀ message ∈ service.store.messages, message.sequence ≤ maxInt64 := by
    decide +kernel
  have first : (networks 0).Synchronizes plainJsonC false true round service peer :=
    ⟨sending, receiving, SyncRound.succeeds_clean (fun _ => rfl) inRange (by decide +kernel)
      (by decide +kernel)⟩
  have later : round.Succeeds plainJsonC service.store.messages caught :=
    SyncRound.succeeds_clean (fun _ => rfl) inRange (by decide +kernel) (by decide +kernel)
  have empty : outstanding service.store.messages caught.store.database = [] := by decide +kernel
  have genuine : ∀ count, (networks count).Genuine plainJsonC pairMesh :=
    (run_genuine plainJsonC_lawful _).afterRounds plainJsonC_lawful false true fun _ => round
  -- After the first round the peer has the greeting, and every later round changes nothing.
  have settled : ∀ count,
      (networks (count + 1)).Synchronizes plainJsonC false true round service caught := by
    intro count
    induction count with
    | zero =>
      have nodes : (networks 1).nodes = _ := Network.nodes_afterRound first
      refine ⟨?_, by rw [nodes, Function.update_self], later⟩
      rw [nodes, Function.update_of_ne (by decide)]
      exact sending
    | succ count ih =>
      have nodes : (networks (count + 2)).nodes = _ := Network.nodes_afterRound ih
      have idle : (networks (count + 1)).outstanding false true = [] := by
        rw [ih.outstanding_eq]
        exact empty
      rw [((genuine (count + 1)).round_idle plainJsonC_lawful ih idle).2] at nodes
      refine ⟨?_, by rw [nodes, Function.update_self], later⟩
      rw [nodes, Function.update_of_ne (by decide)]
      exact ih.sending
  have synchronizes : ∀ count, ∃ peer,
      (networks count).Synchronizes plainJsonC false true round service peer
    | 0 => ⟨peer, first⟩
    | count + 1 => ⟨caught, settled count⟩
  obtain ⟨_, count, bounded, done⟩ := catchUp_terminates plainJsonC_lawful pairMesh
    [.create false 1 {} (createRequest (ascii "hello"))] false true (fun _ => round)
    fun count => ⟨service, synchronizes count⟩
  have cached : ∀ row ∈ service.store.database.rows, row ∈ service.store.messages := by
    decide +kernel
  refine ⟨by decide +kernel, count, bounded, service, ?_⟩
  obtain ⟨peer, both⟩ := synchronizes count
  obtain ⟨idle, _, marked⟩ := done service peer both
  exact ⟨peer, both, idle, marked cached⟩

end LesChat
