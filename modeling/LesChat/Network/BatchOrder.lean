import LesChat.Foundation.Selection
import LesChat.Network.Genuine
import LesChat.Sync.SyncRound
import Mathlib.Data.List.Induction

/-! Which stores answer every summary with a batch that leaves no gap behind it. -/

namespace LesChat

open Foundation

/-- The messages numbered from one on, which are the ones a summary can leave out. -/
def numbered (messages : List ChatMessage) : List ChatMessage :=
  messages.filter fun message => 0 < message.sequence

/-- Whether a summary leaves a message out, as `send_missing` reads it. -/
def leavesOut (library : JsonC) (summary : Bytes) (message : ChatMessage) : Bool :=
  match (parseJson library summary).object.get? (ascii "origins") with
  | some (.object origins) => isMissing (.object origins) message
  | _ => false

/--
Every batch `send_missing` builds is downward closed per origin.

With a message it has every stored message of the same origin with a lower sequence that the summary
leaves out.
-/
def BatchesClosed (library : JsonC) (store : MessageStore) : Prop :=
  ∀ summary batch, sendMissing library store.messages summary = .ok (some batch) →
    ∀ ahead ∈ missingMessages library store.messages summary, ∀ late ∈ store.database.rows,
      late.origin = ahead.origin → late.sequence < ahead.sequence →
        leavesOut library summary late = true →
          late ∈ missingMessages library store.messages summary

/--
No cached message was overtaken by one of its origin, unless it is among the first of the cache.

Every stored message comes before the cached ones of its origin with higher sequences, or it is one
of as many cached messages as fit a batch.
-/
def BacklogInOrder (store : MessageStore) : Prop :=
  Timely ChatMessage.origin ChatMessage.sequence maxSyncBatchMessages (numbered store.messages)
    (numbered store.database.rows)

/-- Whether a backlog is in order can be seen from the store. -/
instance (store : MessageStore) : Decidable (BacklogInOrder store) :=
  inferInstanceAs (Decidable (∀ late ∈ numbered store.database.rows,
    ∀ ahead ∈ numbered store.messages, late.origin = ahead.origin → late.sequence < ahead.sequence →
      late ∈ (numbered store.messages).take maxSyncBatchMessages ∨
        [late, ahead].Sublist (numbered store.messages)))

section Selections

/-- The marks of an `origins` object depend on the origins only. -/
theorem exists_marks (origins : Json) :
    ∃ marks : Bytes → Nat, ∀ message, summaryLast origins message = marks message.origin :=
  -- Any message of the origin has the mark of the origin.
  ⟨fun origin => summaryLast origins ⟨0, [], origin, [], [], 0, []⟩, fun _ => rfl⟩

/-- A batch holds the first numbered messages above the marks of a summary. -/
theorem missing_eq_above {origins : Json} {marks : Bytes → Nat} {messages : List ChatMessage}
    (same : ∀ message ∈ messages, summaryLast origins message = marks message.origin) :
    (messages.filter (isMissing origins)).take maxSyncBatchMessages =
      above ChatMessage.origin ChatMessage.sequence marks maxSyncBatchMessages
        (numbered messages) := by
  -- What is above a mark is numbered from one on.
  rw [above, numbered, List.filter_filter]
  congr 1
  apply List.filter_congr
  intro message member
  rw [isMissing, same message member]
  by_cases left : marks message.origin < message.sequence
  · have positive : 0 < message.sequence := by omega
    simp [left, positive]
  · simp [left]

/-- The marks of a node that holds some messages. -/
def marksOf (messages : List ChatMessage) : Marks Bytes :=
  messages.foldl (fun marks message => marks.raise message.origin message.sequence) Marks.empty

/-- The mark of an origin is the largest sequence held of it. -/
theorem value_marksOf (messages : List ChatMessage) (origin : Bytes) :
    (marksOf messages).value origin =
      highWater ChatMessage.origin ChatMessage.sequence messages origin := by
  -- Both are raised alike by each further message.
  induction messages using List.reverseRecOn with
  | nil => rfl
  | append_singleton messages message ih =>
    rw [highWater_append, ← ih, marksOf, List.foldl_append]
    exact Marks.value_raise _ _ _ _

/-- Only origins of held messages have marks. -/
theorem mem_marksOf {messages : List ChatMessage} {entry : Bytes × Nat}
    (member : entry ∈ (marksOf messages).entries) :
    ∃ message ∈ messages, message.origin = entry.1 := by
  -- The induction is on the last message held, which raises the mark of its own origin only.
  have marked := (Marks.mem_entries_iff _ _ _).mp member
  clear member
  obtain ⟨origin, last⟩ := entry
  induction messages using List.reverseRecOn generalizing last with
  | nil => simp [marksOf] at marked
  | append_singleton messages message ih =>
    by_cases own : message.origin = origin
    · exact ⟨message, by simp, own⟩
    · rw [marksOf, List.foldl_append, List.foldl_cons, List.foldl_nil,
        Marks.get?_raise_other _ _ (Ne.symm own)] at marked
      obtain ⟨other, held, same⟩ := ih last marked
      exact ⟨other, by simp [held], same⟩

/-- The summary of a node that holds some messages, as it is sent. -/
def summaryOf (library : JsonC) (messages : List ChatMessage) : Bytes :=
  serializeJson library (summaryJson .stored (marksOf messages).entries)

variable {library : JsonC} {messages covered : List ChatMessage}

/-- The marks such a summary is read with. -/
theorem summaryLast_summaryOf (terminated : ∀ message ∈ messages, 0 ∉ message.origin)
    (inRange : ∀ message ∈ messages, message.sequence ≤ maxInt64)
    (within : ∀ message ∈ covered, message ∈ messages) {message : ChatMessage}
    (own : 0 ∉ message.origin) :
    summaryLast (originsJson .stored (marksOf covered).entries) message =
      highWater ChatMessage.origin ChatMessage.sequence covered message.origin := by
  -- The summary is the one a file with these marks sends.
  let database : Database := ⟨Table.empty, marksOf covered, []⟩
  have marked : ∀ entry ∈ sequenceSummary database, 0 ∉ entry.1 := by
    intro entry member
    obtain ⟨held, isCovered, same⟩ := mem_marksOf member
    rw [← same]
    exact terminated held (within held isCovered)
  have bounded : database.sequences.value message.origin ≤ maxInt64 := by
    show (marksOf covered).value message.origin ≤ maxInt64
    rw [value_marksOf, highWater_le_iff]
    intro held isCovered _
    exact inRange held (within held isCovered)
  rw [← value_marksOf]
  exact summaryLast_originsJson marked bounded own

/-- The batch such a summary is answered with. -/
theorem missingMessages_summaryOf (lawful : library.Lawful)
    (terminated : ∀ message ∈ messages, 0 ∉ message.origin)
    (inRange : ∀ message ∈ messages, message.sequence ≤ maxInt64)
    (within : ∀ message ∈ covered, message ∈ messages) :
    missingMessages library messages (summaryOf library covered) =
      above ChatMessage.origin ChatMessage.sequence
        (highWater ChatMessage.origin ChatMessage.sequence covered) maxSyncBatchMessages
        (numbered messages) := by
  -- The marks of the summary are the greatest sequences of what is covered.
  rw [summaryOf, missingMessages_summaryJson lawful]
  apply missing_eq_above
  intro message member
  exact summaryLast_summaryOf terminated inRange within (terminated message member)

/-- Such a summary is answered with its batch, unless that is empty. -/
theorem sendMissing_summaryOf (lawful : library.Lawful)
    (nonempty : missingMessages library messages (summaryOf library covered) ≠ []) :
    sendMissing library messages (summaryOf library covered) = .ok (some (serializeJson library
      (batchJson ((missingMessages library messages (summaryOf library covered)).map
        messageToJson)))) := by
  -- Something is missing, so a batch is made of it.
  rw [summaryOf, missingMessages_summaryJson lawful] at nonempty ⊢
  exact (sendMissing_summaryJson lawful _ _ _).trans (by rw [if_neg nonempty])

/-- What such a summary leaves out. -/
theorem leavesOut_summaryOf (lawful : library.Lawful)
    (terminated : ∀ message ∈ messages, 0 ∉ message.origin)
    (inRange : ∀ message ∈ messages, message.sequence ≤ maxInt64)
    (within : ∀ message ∈ covered, message ∈ messages) {message : ChatMessage}
    (own : 0 ∉ message.origin) :
    leavesOut library (summaryOf library covered) message =
      decide (highWater ChatMessage.origin ChatMessage.sequence covered message.origin <
        message.sequence) := by
  -- The mark the summary has for the origin decides.
  rw [← summaryLast_summaryOf terminated inRange within own, leavesOut, summaryOf,
    (parseJson_summaryJson lawful _ _).2.2]
  rfl

end Selections

section Backlogs

variable {library : JsonC}

/-- A store whose backlog is in order answers every summary with a closed batch. -/
theorem batchesClosed_of_inOrder {store : MessageStore} (sound : store.Sound)
    (inOrder : BacklogInOrder store) : BatchesClosed library store := by
  -- Whatever the summary says, its marks select from messages that are in order.
  intro summary batch sent ahead selected late stored same lower left
  have distinct : (numbered store.messages).Nodup := (sound.nodup_messageId.of_map _).filter _
  unfold leavesOut at left
  unfold missingMessages at selected ⊢
  cases found : (parseJson library summary).object.get? (ascii "origins") with
  | none => simp [found] at selected
  | some origins =>
    cases origins with
    | object members =>
      simp only [found] at left selected ⊢
      -- The summary is read as a function from origins to marks.
      obtain ⟨marks, marked⟩ := exists_marks (.object members)
      rw [missing_eq_above fun message _ => marked message] at selected ⊢
      rw [isMissing, marked, decide_eq_true_eq] at left
      have isNumbered : late ∈ numbered store.database.rows :=
        List.mem_filter.mpr ⟨stored, decide_eq_true (by omega)⟩
      exact gapFree_of_timely _ _ distinct inOrder marks ahead selected late isNumbered same lower
        left
    | _ => simp [found] at selected

/-- A store that answers every summary with a closed batch has its backlog in order. -/
theorem inOrder_of_batchesClosed (lawful : library.Lawful) {store : MessageStore}
    (sound : store.Sound) (terminated : ∀ message ∈ store.messages, 0 ∉ message.origin)
    (closed : BatchesClosed library store) : BacklogInOrder store := by
  -- Messages out of order would be found out by the summary of some peer.
  have inRange : ∀ message ∈ store.messages, message.sequence ≤ maxInt64 := fun message member =>
    sound.consistent.inRange message (sound.committed_of_mem member)
  apply timely_of_gapFree _ _ (show 0 < maxSyncBatchMessages by decide)
  · -- The key of a row is unique in its table.
    exact store.database.messages.nodup_second.sublist (List.filter_sublist.map _)
  · exact sound.cached.filter _
  · intro message member
    exact of_decide_eq_true (List.mem_filter.mp member).2
  · -- The summary of a peer that holds some of the messages is answered with their selection.
    intro covered inNumbered
    have within : ∀ message ∈ covered, message ∈ store.messages := fun message isCovered =>
      List.mem_of_mem_filter (inNumbered message isCovered)
    -- The batch for the summary is the selection above the marks of what the peer holds.
    have batch := missingMessages_summaryOf lawful terminated inRange within
    intro ahead selected late isNumbered same lower left
    rw [← batch] at selected ⊢
    -- Both messages have the same origin, which was taken from the cache.
    have own : 0 ∉ late.origin := by
      rw [same]
      exact terminated ahead (mem_of_mem_missingMessages selected)
    have sent := sendMissing_summaryOf lawful (List.ne_nil_of_mem selected)
    refine closed _ _ sent ahead selected late (List.mem_of_mem_filter isNumbered) same lower ?_
    rw [leavesOut_summaryOf lawful terminated inRange within own]
    exact decide_eq_true left

/-- A running node of a network answers every summary with a closed batch when it is in order. -/
theorem Network.Genuine.closed_iff_inOrder {ι : Type*} {mesh : Mesh ι} {network : Network ι}
    (lawful : library.Lawful) (genuine : network.Genuine library mesh) {node : ι}
    {service : MessageService} (running : (network.nodes node).process = .running service) :
    BatchesClosed library service.store ↔ BacklogInOrder service.store := by
  -- Only built messages are stored, and their origins can be written in a summary.
  have process := genuine.sound node
  rw [running] at process
  have sound := MessageService.Sound.stored process
  refine ⟨inOrder_of_batchesClosed lawful sound ?_, batchesClosed_of_inOrder sound⟩
  intro message member
  exact (genuine.built_of_created (genuine.created_of_cached running member)).origin_terminated

/--
Which nodes a network can reach answer every summary with a closed batch.

Requests may be delivered late, twice, out of order or never, anything may fail, and nodes restart.
-/
theorem batchesClosed_iff {ι : Type*} [DecidableEq ι] (lawful : library.Lawful) (mesh : Mesh ι)
    (actions : List (NetworkAction ι)) {node : ι} {service : MessageService}
    (running : ((run (networkStep library mesh) (Network.initial mesh) actions).nodes
      node).process = .running service) :
    BatchesClosed library service.store ↔ BacklogInOrder service.store :=
  -- Every network a run reaches is genuine.
  (run_genuine lawful actions).closed_iff_inOrder lawful running

end Backlogs

/-- A node that received a message and created another answers every summary with a closed batch. -/
theorem batchesClosed_pair :
    let actions : List (NetworkAction Bool) := [
      .create false 1 {} (createRequest (ascii "one")),
      .create true 2 {} (createRequest (ascii "two")),
      .deliver 0 true .ok fun _ => {}]
    let network := run (networkStep plainJsonC pairMesh) (Network.initial pairMesh) actions
    ∃ service, (network.nodes true).process = .running service ∧
      service.store.messages.map ChatMessage.messageId = [ascii "b:1", ascii "a:1"] ∧
      BatchesClosed plainJsonC service.store := by
  intro actions network
  obtain ⟨service, running⟩ : ∃ service, (network.nodes true).process = .running service :=
    ⟨_, rfl⟩
  -- The order can be checked on what the node has cached.
  have inOrder : ∀ service ∈ (network.nodes true).process.service?,
      service.store.messages.map ChatMessage.messageId = [ascii "b:1", ascii "a:1"] ∧
        BacklogInOrder service.store := by
    decide +kernel
  rw [running] at inOrder
  obtain ⟨cached, ordered⟩ := inOrder service rfl
  exact ⟨service, running, cached,
    (batchesClosed_iff plainJsonC_lawful pairMesh actions running).mpr ordered⟩

/--
A batch that is cut in the middle leaves a gap.

Node b receives the second message of a, creates forty-nine messages, and receives the first message
of a. The batch for an empty summary then has the second message of a and not the first.
-/
theorem batchesClosed_overtaken :
    let actions : List (NetworkAction Bool) := [
      .create false 1 {} (createRequest (ascii "one")),
      .create false 2 {} (createRequest (ascii "two")),
      .deliver 1 true .ok fun _ => {}] ++
        List.replicate 49 (.create true 3 {} (createRequest (ascii "hello"))) ++
          [.deliver 0 true .ok fun _ => {}]
    let network := run (networkStep plainJsonC pairMesh) (Network.initial pairMesh) actions
    ∃ service, (network.nodes true).process = .running service ∧
      ¬BatchesClosed plainJsonC service.store := by
  intro actions network
  -- Between the second message and the first one there are forty-nine others.
  have overtaken : ((network.nodes true).process.service?.map fun service =>
      decide (BacklogInOrder service.store)) = some false := by
    decide +kernel
  obtain ⟨service, runs, disordered⟩ := Option.map_eq_some_iff.mp overtaken
  have running : (network.nodes true).process = .running service := by
    cases process : (network.nodes true).process with
    | stopped database => simp [process, Process.service?] at runs
    | running other => simpa [process, Process.service?] using runs
  have genuine : network.Genuine plainJsonC pairMesh := run_genuine plainJsonC_lawful actions
  refine ⟨service, running, fun closed => ?_⟩
  have inOrder := (genuine.closed_iff_inOrder plainJsonC_lawful running).mp closed
  exact of_decide_eq_false disordered inOrder

end LesChat
