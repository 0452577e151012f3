import LesChat.Network.Recovery

/-! Unbroken deliveries: requests that leave nothing behind, judged before they are handled. -/

namespace LesChat

open Foundation

section Requests

/-- What comes before an element of an initial part belongs to the part. -/
theorem mem_of_mem_takeWhile {α : Type*} [DecidableEq α] {front whole : List α} {item other : α}
    (initial : front <+: whole) (member : item ∈ front)
    (before : other ∈ whole.takeWhile (· != item)) : other ∈ front := by
  -- Both are initial parts of the whole, and only one of them has the element.
  rcases List.prefix_or_prefix_of_prefix initial (List.takeWhile_prefix (· != item)) with
    shorter | longer
  · have different := List.mem_takeWhile_imp (shorter.subset member)
    simp at different
  · exact longer.subset before

variable {library : JsonC} {results : Nat → AddResults}

/-- When every call of SQLite succeeds, whatever the request brings is taken. -/
theorem Post.taken_clean (lookup : SqliteResult) (service : MessageService) {post : Post}
    (inRange : ∀ message ∈ post.received library, message.sequence ≤ maxInt64)
    (clean : ∀ index < (post.received library).length, (results index).first = {}) :
    post.taken library results lookup service = post.received library := by
  cases post with
  | syncMessages batch =>
    -- No `add` throws, so the batch is taken to its end.
    have returns : AddsReturn library results _ 0 service :=
      addsReturn_clean (by simpa using clean) inRange service
    exact takenMessages_of_addsReturn library results returns
  | replicate payload =>
    -- A message that is found is taken as a duplicate, and any other is stored.
    refine List.filter_eq_self.mpr fun message member => ?_
    have first : (results 0).first = {} := clean 0 (List.length_pos_of_mem member)
    cases found : contains lookup message.messageId service.store with
    | true =>
      rw [ingestReplica, if_pos found]
      rfl
    | false =>
      obtain ⟨inserted, returned⟩ := add_returns first (inRange message member) service.store
      rw [ingestReplica, if_neg (by simp [found])]
      cases call : add (results 0) message service.store with
      | mk outcome store =>
        rw [call] at returned
        simp only at returned
        rw [returned]
        rfl

end Requests

section Unbroken

variable {ι : Type*}

/--
A request brings one message with another: before it, or anywhere when every call of SQLite for the
request succeeds.
-/
def BroughtWith (results : Nat → AddResults) (received : List ChatMessage)
    (message earlier : ChatMessage) : Prop :=
  earlier ∈ received.takeWhile (· != message) ∨
    earlier ∈ received ∧ ∀ index < received.length, (results index).first = {}

/-- Whether a request brings one message with another can be checked. -/
instance (results : Nat → AddResults) (received : List ChatMessage)
    (message earlier : ChatMessage) : Decidable (BroughtWith results received message earlier) :=
  inferInstanceAs (Decidable (_ ∨ _))

/--
A request that leaves nothing behind, judged by its messages and by what the nodes have stored.

No message is new to the receiver while an earlier one of its origin, which some node still stores,
is left out; and no message comes back when no node stores it any more.
-/
structure Network.Unbroken (network : Network ι) (receiver : ι) (results : Nat → AddResults)
    (received : List ChatMessage) : Prop where
  /-- What any node stores from before a new message was stored here, or comes with it. -/
  earlier : ∀ message ∈ received,
    message ∉ (network.nodes receiver).process.database.committed →
    ∀ holder, ∀ earlier ∈ (network.nodes holder).process.database.rows,
    earlier.origin = message.origin → earlier.sequence < message.sequence →
    earlier ∈ (network.nodes receiver).process.database.committed ∨
      BroughtWith results received message earlier
  /-- Every message of the request is still stored by some node, or was stored by every other. -/
  current : ∀ message ∈ received,
    (∃ holder, message ∈ (network.nodes holder).process.database.rows) ∨
      ∀ other, other ≠ receiver → message ∈ (network.nodes other).process.database.committed

variable (library : JsonC)

/--
Counters do not wrap around, restarts read their marks, and whatever reaches a running node leaves
nothing behind.
-/
def NetworkAction.Unbroken (network : Network ι) : NetworkAction ι → Prop
  | .deliver index receiver _ results =>
    (network.nodes receiver).process.service?.isSome = true → ∀ post ∈ network.posts[index]?,
      network.Unbroken receiver results (post.received library)
  | action => action.Unwrapped network

/-- Whether a request leaves nothing behind can be checked in a network of finitely many nodes. -/
instance [Fintype ι] [DecidableEq ι] (network : Network ι) (receiver : ι)
    (results : Nat → AddResults) (received : List ChatMessage) :
    Decidable (network.Unbroken receiver results received) :=
  decidable_of_iff (_ ∧ _) ⟨fun both => ⟨both.1, both.2⟩, fun unbroken =>
    ⟨unbroken.earlier, unbroken.current⟩⟩

/-- Whether a step leaves nothing behind can be checked in a network of finitely many nodes. -/
instance [Fintype ι] [DecidableEq ι] (network : Network ι) :
    DecidablePred (NetworkAction.Unbroken library network)
  | .deliver index receiver _ results => inferInstanceAs (Decidable
      ((network.nodes receiver).process.service?.isSome = true → ∀ post ∈ network.posts[index]?,
        network.Unbroken receiver results (post.received library)))
  | .create node now results parsed => inferInstanceAs (Decidable
      (NetworkAction.Unwrapped network (.create node now results parsed)))
  | .sendMissing _ _ => isTrue trivial
  | .restart node reload lookup => inferInstanceAs (Decidable
      (NetworkAction.Unwrapped network (.restart node reload lookup)))

variable {library} {mesh : Mesh ι} {network : Network ι}

/--
Where everything missed is recoverable, an unbroken request is taken without a gap.

That no mark has passed what it brings follows from its being stored somewhere.
-/
theorem Network.Recovering.gapless (lawful : library.Lawful)
    (recovering : network.Recovering library mesh) {receiver : ι} {service : MessageService}
    {lookup : SqliteResult} {results : Nat → AddResults} {post : Post}
    (listed : post ∈ network.posts)
    (unbroken : network.Unbroken receiver results (post.received library)) :
    network.Gapless receiver (post.taken library results lookup service) := by
  have initial := Post.taken_prefix library results lookup service post
  constructor
  · intro message taken missed holder earlier stored sameOrigin below
    rcases unbroken.earlier message (initial.subset taken) missed holder earlier stored sameOrigin
      below with known | before | ⟨received, clean⟩
    · exact .inl known
    · -- What comes before a message that is taken is taken as well.
      exact .inr (mem_of_mem_takeWhile initial taken before)
    · -- Nothing fails, so the whole request is taken.
      have inRange : ∀ message ∈ post.received library, message.sequence ≤ maxInt64 := by
        intro other member
        have created := recovering.agreeing.genuine.created_of_received lawful listed member
        obtain ⟨_, _, builtBy⟩ := recovering.agreeing.genuine.built_of_created created
        exact builtBy.inRange
      rw [Post.taken_clean lookup service inRange clean]
      exact .inr received
  · intro message taken other different
    rcases unbroken.current message (initial.subset taken) with ⟨holder, stored⟩ | everywhere
    · by_cases known : message ∈ (network.nodes other).process.database.committed
      · exact .inl known
      · exact .inr (recovering.recoverable holder other message stored known)
    · exact .inl (everywhere other different)

/-- Where everything missed is recoverable, an unbroken step leaves no gap. -/
theorem NetworkAction.Unbroken.gapless (lawful : library.Lawful)
    (recovering : network.Recovering library mesh) {action : NetworkAction ι}
    (unbroken : action.Unbroken library network) : action.Gapless library network := by
  cases action with
  | deliver index receiver lookup results =>
    intro post listed
    have member : post ∈ network.posts := List.mem_of_getElem? listed
    unfold Node.taken
    cases running : (network.nodes receiver).process with
    | stopped database =>
      -- A stopped node takes nothing.
      exact ⟨by simp, by simp⟩
    | running service =>
      exact recovering.gapless lawful member (unbroken (by rw [running]; rfl) post listed)
  | _ => exact unbroken

variable [DecidableEq ι]

/--
Catch-up sync loses nothing in an unbroken run.

Every message some node stores, and another has never stored, is above the mark in the summary of
the other, so `send_missing` counts it as missing.
-/
theorem missed_recoverable (lawful : library.Lawful) (mesh : Mesh ι)
    {actions : List (NetworkAction ι)}
    (unbroken : Guarded (networkStep library mesh)
      (fun network action => action.Unbroken library network) (Network.initial mesh) actions) :
    let network := run (networkStep library mesh) (Network.initial mesh) actions
    network.Recoverable ∧
      ∀ order holder peer, ∀ message ∈ (network.nodes holder).process.database.rows,
        message ∉ (network.nodes peer).process.database.committed →
        isMissing (originsJson order (sequenceSummary (network.nodes peer).process.database))
          message = true := by
  intro network
  have recovering : network.Recovering library mesh :=
    guarded_invariant (fun network action before step =>
      (networkStep_stepped library mesh network action).recovering lawful before
        (step.gapless lawful before)) unbroken (Network.initial_recovering library mesh)
  refine ⟨recovering.recoverable, ?_⟩
  intro order holder peer message stored missed
  have genuine := recovering.agreeing.genuine
  -- The origin of a created message is a C string, so the summary names it as it is.
  have built := genuine.built_of_created (genuine.created_of_row stored)
  rw [isMissing_originsJson (genuine.sound peer).consistent (genuine.terminated peer)
    built.origin_terminated]
  exact decide_eq_true (recovering.recoverable holder peer message stored missed)

end Unbroken

/-- A node that received the first of two messages lacks the second, and has a mark below it. -/
theorem missed_recoverable_second :
    let actions : List (NetworkAction Bool) := [
      .create false 1 {} (createRequest (ascii "one")),
      .deliver 0 true .ok fun _ => {},
      .create false 2 {} (createRequest (ascii "two"))]
    let network := run (networkStep plainJsonC pairMesh) (Network.initial pairMesh) actions
    let second := localMessage (pairMesh.identity false) 2 2 (ascii "two")
    second ∈ (network.nodes false).process.database.rows ∧
      second ∉ (network.nodes true).process.database.committed ∧
      isMissing (originsJson .stored (sequenceSummary (network.nodes true).process.database))
        second = true := by
  intro actions network second
  have stored : second ∈ (network.nodes false).process.database.rows := by decide +kernel
  have missed : second ∉ (network.nodes true).process.database.committed := by decide +kernel
  refine ⟨stored, missed, ?_⟩
  -- The first message was delivered before the second one was written.
  have unbroken : Guarded (networkStep plainJsonC pairMesh)
      (fun network action => action.Unbroken plainJsonC network) (Network.initial pairMesh)
      actions := by decide +kernel
  exact (missed_recoverable plainJsonC_lawful pairMesh unbroken).2 .stored false true second stored
    missed

/--
A lost message is never recovered once a later one arrived.

Node a creates two messages, and only the request with the second reaches b. The mark of b then
covers the first, which b has never stored, and `send_missing` has nothing to send.
-/
theorem missed_unrecoverable :
    let actions : List (NetworkAction Bool) := [
      .create false 1 {} (createRequest (ascii "one")),
      .create false 2 {} (createRequest (ascii "two")),
      .deliver 1 true .ok fun _ => {}]
    let network := run (networkStep plainJsonC pairMesh) (Network.initial pairMesh) actions
    let first := localMessage (pairMesh.identity false) 1 1 (ascii "one")
    first ∈ (network.nodes false).process.database.rows ∧
      first ∉ (network.nodes true).process.database.committed ∧
      ¬network.Recoverable ∧
      sendMissing plainJsonC (network.nodes false).process.messages
        (synchronize plainJsonC .stored (network.nodes true).process.database) = .ok none := by
  intro actions network first
  -- The first message is on its author's file, and was never on the other's.
  have stored : first ∈ (network.nodes false).process.database.rows := by decide +kernel
  have missed : first ∉ (network.nodes true).process.database.committed := by decide +kernel
  refine ⟨stored, missed, fun recoverable => ?_, by decide +kernel⟩
  exact absurd (recoverable false true first stored missed) (by decide +kernel)

end LesChat
