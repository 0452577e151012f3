import LesChat.Web.SubmissionLaws

/-! What a page reports of its submissions, compared with what its node has stored. -/

namespace LesChat.ChatPage

open Foundation

section Invariant

variable (library : JsonC) (browser : Browser) (identity : NodeIdentity)

/-- What holds of the submission a page waits for. -/
structure Session.Awaits (session : Session) (submission : Submission) : Prop where
  /-- Its post carries its text. -/
  carried : ∀ post ∈ session.posts, post.1 = session.submitted →
    post.2 = encodeUtf8 submission.body
  /-- What was created for it has its text, and is none of the messages known before. -/
  fresh : ∀ message, (session.submitted, message) ∈ session.created →
    message.body = encodeUtf8 submission.body ∧
      shownId browser message ∉ submission.knownBeforeSend
  /-- What was known before is known now. -/
  kept : submission.knownBeforeSend ⊆ session.composer.view.knownIds

/-- What always holds of a page and its node. -/
structure Session.Sound (session : Session) : Prop where
  /-- The node is honest. -/
  honest : session.node.Honest identity
  /-- The composer is consistent. -/
  consistent : session.composer.Consistent
  /-- The page does not know its node, or knows its identifier. -/
  named : session.composer.view.localNodeId = [] ∨
    session.composer.view.localNodeId = browser.decode identity.nodeId
  /-- It knows the identifier while the daemon runs, and while a submission is waited for. -/
  addressed : session.composer.liveRunning = true ∨ session.composer.submission.isSome = true →
    session.composer.view.localNodeId = browser.decode identity.nodeId
  /-- Whatever the page knows was stored by the node. -/
  known : ∀ id ∈ session.composer.view.knownIds,
    ∃ row ∈ session.node.process.database.committed, id = shownId browser row
  /-- So was whatever the page was answered with. -/
  answered : ∀ snapshot ∈ session.history.toList ++ session.polls, snapshot.length < 2 ^ 63 ∧
    ∀ row ∈ snapshot, row ∈ session.node.process.database.committed
  /-- What was created for a submission is acknowledged. -/
  created : ∀ entry ∈ session.created, entry.1 ≤ session.submitted ∧
    entry.2 ∈ session.node.acknowledged
  /-- Posts belong to submissions that were made. -/
  posted : ∀ post ∈ session.posts, post.1 ≤ session.submitted ∧ 0 ∉ post.2
  /-- Every submission is posted once, and creates at most one message. -/
  once : (session.posts.map Prod.fst ++ session.created.map Prod.fst).Nodup
  /-- The text in the box has no NUL character. -/
  typed : 0 ∉ encodeUtf8 session.composer.value
  /-- The submission that is waited for. -/
  awaits : ∀ submission, session.composer.submission = some submission →
    session.Awaits browser submission
  /-- A reply that reports a success has the message that was created for the last submission. -/
  replied : ∀ response, session.reply = some response → response.status = 200 →
    ∃ message, (session.submitted, message) ∈ session.created ∧
      response = createdResponse library message

/-- Different acknowledged messages, one for each text that was reported as sent. -/
structure Session.Accounts (session : Session) (stored : List ChatMessage) : Prop where
  /-- No message stands for two reports. -/
  distinct : stored.Nodup
  /-- The messages have the texts that were reported. -/
  bodies : stored.map (·.body) = session.reported.map encodeUtf8
  /-- The node has acknowledged them. -/
  acknowledged : ∀ message ∈ stored, message ∈ session.node.acknowledged
  /-- The page knows them. -/
  known : ∀ message ∈ stored, shownId browser message ∈ session.composer.view.knownIds
  /-- It knew them before the submission it waits for. -/
  before : ∀ submission, session.composer.submission = some submission →
    ∀ message ∈ stored, shownId browser message ∈ submission.knownBeforeSend

/-- A session that is sound and accounts for its reports. -/
def Session.Accounted (session : Session) : Prop :=
  session.Sound library browser identity ∧ ∃ stored, session.Accounts browser stored

variable {library browser identity} {session : Session} {stored : List ChatMessage}

/-- A page that keeps its list and its submission stays accounted for. -/
theorem Session.Accounted.edited (accounted : session.Accounted library browser identity)
    {after : Composer} (consistent : after.Consistent)
    (view : after.view = session.composer.view)
    (live : after.liveRunning = session.composer.liveRunning)
    (submission : after.submission = session.composer.submission)
    (typed : 0 ∉ encodeUtf8 after.value) :
    Session.Accounted library browser identity { session with composer := after } := by
  -- Nothing the invariant says of the page depends on the rest of it.
  obtain ⟨sound, stored, accounts⟩ := accounted
  refine ⟨{ sound with
    consistent := consistent
    named := by rw [view]; exact sound.named
    addressed := by rw [live, submission, view]; exact sound.addressed
    known := by rw [view]; exact sound.known
    typed := typed
    awaits := fun waiting pending => ?_ }, stored, { accounts with
    known := by rw [view]; exact accounts.known
    before := by rw [submission]; exact accounts.before }⟩
  have awaits := sound.awaits waiting (submission ▸ pending)
  exact { awaits with kept := by rw [view]; exact awaits.kept }

/-- Without a submission, the flag is down. -/
theorem Session.Sound.idle (sound : session.Sound library browser identity)
    (flag : session.composer.sending = false) : session.composer.submission = none := by
  -- The flag says whether a submission is waited for.
  have same := sound.consistent.sending
  rw [flag] at same
  exact Option.not_isSome_iff_eq_none.mp (by rw [← same]; exact Bool.false_ne_true)

/-- Submitting the form keeps a page accounted for. -/
theorem Session.Accounted.submitted (format : Double → JsString) (parseText : Bytes → Option Json)
    (accounted : session.Accounted library browser identity) :
    (session.submit format browser parseText).Accounted library browser identity := by
  have consistent := composerStep_consistent format browser parseText session.composer .submit
    accounted.1.consistent
  have unsent : ∀ after, composerStep format browser parseText session.composer .submit = after →
      after.submission = session.composer.submission →
      session.submit format browser parseText = { session with composer := after } := by
    rintro after rfl same
    unfold Session.submit
    dsimp only
    rw [same]
    cases session.composer.submission <;> rfl
  rcases session.composer.submit_cases format browser parseText with
    same | ⟨flag, asked⟩ | ⟨enabled, flag, _, sent⟩
  · rw [unsent _ same rfl]
    exact accounted
  · rw [unsent _ asked rfl]
    rw [asked] at consistent
    exact accounted.edited consistent rfl rfl rfl accounted.1.typed
  · obtain ⟨sound, stored, accounts⟩ := accounted
    have idle := sound.idle flag
    -- The box is enabled, so the daemon was running.
    have live : session.composer.liveRunning = true := by
      have free := sound.consistent.free idle
      rw [enabled] at free
      simpa using free
    have named := sound.addressed (.inl live)
    have typed : 0 ∉ encodeUtf8 (trimmed session.composer.value) := by
      intro member
      obtain ⟨character, inText, byte⟩ := List.mem_flatMap.mp member
      exact sound.typed (List.mem_flatMap.mpr ⟨character, trimmed_subset _ inText, byte⟩)
    rw [sent] at consistent
    unfold Session.submit
    simp only [idle, sent]
    refine ⟨{ sound with
      consistent := consistent
      addressed := fun _ => named
      answered := fun snapshot member => sound.answered snapshot (by
        rw [Option.toList_none, List.nil_append] at member
        exact List.mem_append_right _ member)
      created := fun entry member =>
        ⟨Nat.le_succ_of_le (sound.created entry member).1, (sound.created entry member).2⟩
      posted := fun post member => ?_
      once := ?_
      awaits := fun submission pending => ?_
      replied := by simp }, stored, { accounts with
      before := fun submission pending => ?_ }⟩
    · rcases List.mem_append.mp member with old | new
      · exact ⟨Nat.le_succ_of_le (sound.posted post old).1, (sound.posted post old).2⟩
      · rw [List.mem_singleton.mp new]
        exact ⟨Nat.le_refl _, typed⟩
    · -- The number of the submission is new.
      have unused : session.submitted + 1 ∉
          session.posts.map Prod.fst ++ session.created.map Prod.fst := by
        intro member
        rcases List.mem_append.mp member with posted | created
        · obtain ⟨post, inPosts, same⟩ := List.mem_map.mp posted
          have bound := (sound.posted post inPosts).1
          omega
        · obtain ⟨entry, inCreated, same⟩ := List.mem_map.mp created
          have bound := (sound.created entry inCreated).1
          omega
      rw [List.map_append, List.append_assoc]
      exact List.nodup_middle.mpr (List.nodup_cons.mpr ⟨unused, sound.once⟩)
    · obtain rfl := Option.some.inj pending
      refine ⟨fun post member number => ?_, fun message member => ?_, fun id member => member⟩
      · rcases List.mem_append.mp member with old | new
        · have bound := (sound.posted post old).1
          have number : post.1 = session.submitted + 1 := number
          omega
        · rw [List.mem_singleton.mp new]
      · have bound := (sound.created _ member).1
        have bound : session.submitted + 1 ≤ session.submitted := bound
        omega
    · obtain rfl := Option.some.inj pending
      exact accounts.known

/-- A node that moves on keeps a page accounted for. -/
theorem Session.Accounted.moved (accounted : session.Accounted library browser identity)
    {after : Node} (honest : after.Honest identity) (grows : session.node.Grows after) :
    Session.Accounted library browser identity { session with node := after } := by
  -- The node takes nothing back, so whatever was stored or acknowledged still is.
  obtain ⟨sound, stored, accounts⟩ := accounted
  refine ⟨{ sound with
    honest := honest
    known := fun id member => ?_
    answered := fun snapshot member => ⟨(sound.answered snapshot member).1,
      fun row inSnapshot => grows.committed ((sound.answered snapshot member).2 row inSnapshot)⟩
    created := fun entry member => ⟨(sound.created entry member).1,
      grows.acknowledged (sound.created entry member).2⟩
    awaits := fun submission pending => { sound.awaits submission pending with } }, stored,
    { accounts with
      acknowledged := fun message member =>
        grows.acknowledged (accounts.acknowledged message member) }⟩
  obtain ⟨row, committed, same⟩ := sound.known id member
  exact ⟨row, grows.committed committed, same⟩

/-- Posts that are gone keep a page accounted for. -/
theorem Session.Accounted.lost (accounted : session.Accounted library browser identity)
    (index : Nat) : Session.Accounted library browser identity
      { session with posts := session.posts.eraseIdx index } := by
  -- What is true of all posts is true of the posts that are left.
  obtain ⟨sound, stored, accounts⟩ := accounted
  have fewer : (session.posts.eraseIdx index).Sublist session.posts := List.eraseIdx_sublist _ _
  refine ⟨{ sound with
    posted := fun post member => sound.posted post (fewer.subset member)
    once := ((fewer.map Prod.fst).append (List.Sublist.refl _)).nodup sound.once
    awaits := fun submission pending => { sound.awaits submission pending with
      carried := fun post member => (sound.awaits submission pending).carried post
        (fewer.subset member) } }, stored, { accounts with }⟩

/-- A post that was received keeps a page accounted for. -/
theorem Session.Accounted.received {request : Bytes → HttpRequest} (lawful : browser.Lawful)
    (requests : Posts library request) (accepted : identity.Accepted)
    (accounted : session.Accounted library browser identity)
    (unwrapped : ∀ service ∈ session.node.process.service?, service.nextSequence ≠ 2 ^ 64 - 1)
    (index : Nat) (now : Int64) (results : AddResults) :
    (session.receive library request identity index now results).Accounted
      library browser identity := by
  unfold Session.receive
  split
  · exact accounted
  · rename_i number body listed
    have sound := accounted.1
    have member : (number, body) ∈ session.posts := List.mem_of_getElem? listed
    obtain ⟨honest, grows⟩ :
        (receivePost library request identity now results body session.node).2.Honest identity ∧
          session.node.Grows
            (receivePost library request identity now results body session.node).2 :=
      receivePost_honest sound.honest accepted unwrapped now results body
    have spec := receivePost_received requests sound.honest accepted now results
      (sound.posted _ member).2
    obtain ⟨moved, stored, accounts⟩ := (accounted.lost index).moved honest grows
    generalize receivePost library request identity now results body session.node = answer at *
    cases spec with
    | refused answer acknowledged failed =>
      have nothing : answer.2.acknowledged.drop session.node.acknowledged.length = [] := by
        rw [acknowledged, List.drop_length]
      simp only [nothing, List.map_nil, List.append_nil]
      refine ⟨{ moved with
        awaits := fun submission pending => { moved.awaits submission pending with }
        replied := fun response same success => ?_ }, stored, { accounts with }⟩
      split at same
      · exact absurd success (failed response same)
      · exact sound.replied response same success
    | created message after acknowledged same origin fresh =>
      have one : after.acknowledged.drop session.node.acknowledged.length = [message] := by
        rw [acknowledged, List.drop_left]
      have inAfter : message ∈ after.acknowledged := by
        rw [acknowledged]
        simp
      have built : Built message :=
        honest.built message (honest.acknowledges.committed message inAfter)
      simp only [one, List.map_cons, List.map_nil]
      refine ⟨{ moved with
        created := fun entry inCreated => ?_
        once := ?_
        awaits := fun submission pending => { moved.awaits submission pending with
          fresh := fun other inCreated => ?_ }
        replied := fun response replied success => ?_ }, stored, { accounts with }⟩
      · rcases List.mem_append.mp inCreated with old | new
        · exact moved.created entry old
        · rw [List.mem_singleton.mp new]
          exact ⟨(sound.posted _ member).1, inAfter⟩
      · -- The number moves from the posts to the messages.
        have numbers : (number :: (session.posts.eraseIdx index).map Prod.fst).Perm
            (session.posts.map Prod.fst) := by
          obtain ⟨bound, found⟩ := List.getElem?_eq_some_iff.mp listed
          have perm := (List.getElem_cons_eraseIdx_perm bound).map Prod.fst
          rwa [found] at perm
        have shifted : ((session.posts.eraseIdx index).map Prod.fst ++
            (session.created ++ [(number, message)]).map Prod.fst).Perm
            (session.posts.map Prod.fst ++ session.created.map Prod.fst) := by
          rw [List.map_append, ← List.append_assoc]
          exact (List.perm_append_comm).trans (numbers.append_right _)
        exact shifted.nodup_iff.mpr sound.once
      · rcases List.mem_append.mp inCreated with old | new
        · exact (moved.awaits submission pending).fresh other old
        · obtain ⟨number, rfl⟩ := Prod.mk.inj (List.mem_singleton.mp new)
          have awaits := sound.awaits submission pending
          refine ⟨?_, fun before => ?_⟩
          · rw [same]
            exact awaits.carried _ member number.symm
          · -- What was known before has another identifier.
            obtain ⟨row, committed, shown⟩ := sound.known _ (awaits.kept before)
            exact fresh row committed (shownId_injective lawful
              (sound.honest.built row committed) built shown.symm)
      · split at replied
        · rename_i current
          refine ⟨message, ?_, (Option.some.inj replied).symm⟩
          rw [← current]
          exact List.mem_append_right _ (List.mem_singleton_self _)
        · obtain ⟨earlier, inCreated, response⟩ := sound.replied response replied success
          exact ⟨earlier, List.mem_append_left _ inCreated, response⟩

/-- A poll that names the node, or finds that it does not run, keeps a page accounted for. -/
theorem Session.Accounted.polled (format : Double → JsString) (parseText : Bytes → Option Json)
    (accounted : session.Accounted library browser identity) {nodeId : JsString}
    {liveRunning : Bool} {incoming : List ScriptMessage}
    (names : nodeId = [] ∧ liveRunning = false ∨
      nodeId ≠ [] ∧ nodeId = browser.decode identity.nodeId)
    (stored : ∀ message ∈ incoming, ∃ row ∈ session.node.process.database.committed,
      message = row.scripted browser) :
    Session.Accounted library browser identity { session with
      composer := composerStep format browser parseText session.composer
        (.poll nodeId liveRunning incoming) } := by
  -- A poll may name the node and add identifiers, all of messages the node has stored.
  obtain ⟨sound, listed, accounts⟩ := accounted
  have consistent := composerStep_consistent format browser parseText session.composer
    (.poll nodeId liveRunning incoming) sound.consistent
  obtain ⟨view, live, value, submission⟩ :=
    session.composer.poll_fields format nodeId liveRunning incoming
  obtain ⟨kept, known, shown⟩ :=
    @chatStep_poll_keeps format nodeId incoming session.composer.view
  simp only [composerStep] at consistent ⊢
  generalize session.composer.poll format nodeId liveRunning incoming = after at *
  rw [← view] at kept known shown
  refine ⟨{ sound with
    consistent := consistent
    named := ?_
    addressed := fun when => ?_
    known := fun id member => ?_
    typed := by rw [value]; exact sound.typed
    awaits := fun waiting pending => ?_ }, listed, { accounts with
      known := fun message member => kept (accounts.known message member)
      before := by rw [submission]; exact accounts.before }⟩
  · rcases names with ⟨rfl, _⟩ | ⟨nonempty, own⟩
    · rw [shown, if_neg (by simp)]
      exact sound.named
    · rw [shown, if_pos nonempty]
      exact .inr own
  · rcases names with ⟨rfl, rfl⟩ | ⟨nonempty, own⟩
    · rw [shown, if_neg (by simp)]
      rw [live, submission] at when
      exact sound.addressed (.inr (when.resolve_left (by simp)))
    · rw [shown, if_pos nonempty]
      exact own
  · rcases known id member with old | ⟨message, inIncoming, rfl⟩
    · exact sound.known id old
    · obtain ⟨row, committed, rfl⟩ := stored message inIncoming
      exact ⟨row, committed, rfl⟩
  · have awaits := sound.awaits waiting (submission ▸ pending)
    exact { awaits with kept := fun id member => kept (awaits.kept member) }

/-- A history the node answers with keeps a page accounted for. -/
theorem Session.Accounted.answered (accounted : session.Accounted library browser identity)
    {service : MessageService} (running : session.node.process = .running service)
    (small : session.node.process.messages.length < 2 ^ 63) :
    Session.Accounted library browser identity
        { session with history := some service.store.messages } ∧
      Session.Accounted library browser identity
        { session with polls := session.polls ++ [service.store.messages] } := by
  -- An answer is what the node has cached, and all of that was stored.
  obtain ⟨sound, stored, accounts⟩ := accounted
  have cached : ∀ row ∈ service.store.messages,
      row ∈ session.node.process.database.committed := fun row member =>
    sound.honest.cached row (by rwa [running])
  rw [running] at small
  constructor
  · refine ⟨{ sound with
      answered := fun snapshot member => ?_
      awaits := fun submission pending => { sound.awaits submission pending with } }, stored,
      { accounts with }⟩
    rcases List.mem_append.mp member with new | old
    · rw [Option.mem_toList.mp new |> Option.some.inj |>.symm]
      exact ⟨small, cached⟩
    · exact sound.answered snapshot (List.mem_append_right _ old)
  · refine ⟨{ sound with
      answered := fun snapshot member => ?_
      awaits := fun submission pending => { sound.awaits submission pending with } }, stored,
      { accounts with }⟩
    rw [← List.append_assoc] at member
    rcases List.mem_append.mp member with old | new
    · exact sound.answered snapshot old
    · rw [List.mem_singleton.mp new]
      exact ⟨small, cached⟩

/-- An outcome that changes nothing is not reported. -/
@[simp] theorem Session.told_same (session : Session) :
    session.told session.composer = session := by
  -- Without a change there is nothing to note.
  unfold Session.told
  cases pending : session.composer.submission <;> simp

/-- An outcome that leaves a submission waiting, or says that it failed, is not reported. -/
theorem Session.told_silent {after : Composer}
    (silent : after.submission.isNone = false ∨ after.hint ≠ .sent) :
    session.told after = { session with composer := after } := by
  -- A report needs a submission that is settled and a line that says so.
  have unreported : ¬(after.submission.isNone = true ∧ after.hint = .sent) := by
    rintro ⟨settled, sent⟩
    rcases silent with waiting | other
    · rw [settled] at waiting
      simp at waiting
    · exact other sent
  unfold Session.told
  cases session.composer.submission with
  | none => rfl
  | some submission => simp only [if_neg unreported]

/-- Asking for the history keeps a page accounted for. -/
theorem Session.Accounted.asked (accounted : session.Accounted library browser identity)
    {submission : Submission} (pending : session.composer.submission = some submission)
    (waiting : Waiting) :
    Session.Accounted library browser identity { session with
      composer := { session.composer with submission := some { submission with waiting } } } := by
  -- The submission is the same but for what it waits for.
  obtain ⟨sound, stored, accounts⟩ := accounted
  obtain ⟨flag, _, busy⟩ := sound.consistent
  refine ⟨{ sound with
    consistent := ⟨by rw [flag, pending]; rfl, by simp, fun other same => ?_⟩
    addressed := fun _ => sound.addressed (.inr (by rw [pending]; rfl))
    awaits := fun other same => ?_ }, stored, { accounts with before := fun other same => ?_ }⟩
  · obtain rfl := Option.some.inj same
    exact busy submission pending
  · obtain rfl := Option.some.inj same
    exact { sound.awaits submission pending with }
  · obtain rfl := Option.some.inj same
    exact accounts.before submission pending

/-- A submission that failed keeps a page accounted for. -/
theorem Session.Accounted.failed (accounted : session.Accounted library browser identity)
    {submission : Submission} (pending : session.composer.submission = some submission) :
    Session.Accounted library browser identity { session with
      composer := { session.composer with hint := .couldNotSend }.settled } := by
  -- Nothing is waited for any more, and nothing was reported.
  obtain ⟨sound, stored, accounts⟩ := accounted
  refine ⟨{ sound with
    consistent := .settled (sound.consistent.busy submission pending).1
    addressed := fun _ => sound.addressed (.inr (by rw [pending]; rfl))
    awaits := by simp [Composer.settled] }, stored, { accounts with
    before := by simp [Composer.settled] }⟩

/--
A submission that is reported as sent keeps a page accounted for.

The message stands for it: it has its text, and was not known before.
-/
theorem Session.Accounted.noted (format : Double → JsString) (decodes : browser.Lawful)
    (accounted : session.Accounted library browser identity) {submission : Submission}
    (pending : session.composer.submission = some submission) {message : ChatMessage}
    (acknowledged : message ∈ session.node.acknowledged)
    (same : message.body = encodeUtf8 submission.body)
    (fresh : shownId browser message ∉ submission.knownBeforeSend) :
    (session.told (session.composer.noteSent format
      (some (message.scripted browser))).settled).Accounted library browser identity := by
  obtain ⟨sound, stored, accounts⟩ := accounted
  have committed := sound.honest.acknowledges.committed message acknowledged
  obtain ⟨nonempty, ordinary⟩ := shownId_ordinary decodes (sound.honest.built message committed)
  have shown : (message.scripted browser).id = shownId browser message := rfl
  have reported : session.told (session.composer.noteSent format
      (some (message.scripted browser))).settled = { session with
        composer := (session.composer.noteSent format (some (message.scripted browser))).settled
        reported := session.reported ++ [submission.body] } := by
    simp [Session.told, pending, Composer.settled, Composer.noteSent]
  have kept := @knownIds_subset_appendMessage format session.composer.view
    (message.scripted browser)
  have now : shownId browser message ∈ (appendMessage format session.composer.view
      (message.scripted browser)).2.knownIds :=
    @id_mem_knownIds_appendMessage format _ (message.scripted browser) nonempty ordinary
  have own := sound.addressed (.inr (by rw [pending]; rfl))
  have named : (appendMessage format session.composer.view
      (message.scripted browser)).2.localNodeId = browser.decode identity.nodeId := by
    rw [localNodeId_appendMessage, own]
  rw [reported]
  refine ⟨{ sound with
    consistent := .settled (sound.consistent.busy submission pending).1
    named := .inr named
    addressed := fun _ => named
    known := fun id member => ?_
    typed := by simp [Composer.settled, Composer.noteSent, encodeUtf8]
    awaits := by simp [Composer.settled] }, stored ++ [message], ?_⟩
  · rcases mem_knownIds_appendMessage member with old | rfl
    · exact sound.known id old
    · exact ⟨message, committed, rfl⟩
  · refine ⟨?_, ?_, fun other member => ?_, fun other member => ?_, by simp [Composer.settled]⟩
    · -- The messages so far were known before.
      rw [List.nodup_append]
      refine ⟨accounts.distinct, List.nodup_singleton _, ?_⟩
      rintro other member _ last rfl
      rw [List.mem_singleton.mp last] at member
      exact fresh (accounts.before submission pending message member)
    · rw [List.map_append, List.map_append, accounts.bodies]
      simp [same]
    · rcases List.mem_append.mp member with old | new
      · exact accounts.acknowledged other old
      · rwa [List.mem_singleton.mp new]
    · rcases List.mem_append.mp member with old | new
      · exact kept (accounts.known other old)
      · rw [List.mem_singleton.mp new]
        exact now

/-- A call that fails without a success keeps a page accounted for. -/
theorem Session.Accounted.unsent (format : Double → JsString) {parseText : Bytes → Option Json}
    (accounted : session.Accounted library browser identity) {outcome : Option Json}
    (failed : ∀ result ∈ outcome, hasError browser (normalizeRpcResult parseText result) = true) :
    (session.told (composerStep format browser parseText session.composer
      (.sendSettled outcome))).Accounted library browser identity := by
  -- Without a success the page asks for the history, if it waits at all.
  simp only [composerStep]
  rcases session.composer.sendSettled_cases format browser parseText outcome with
    same | ⟨submission, pending, _, asked | ⟨result, rfl, noError, _⟩⟩
  · rw [same, Session.told_same]
    exact accounted
  · rw [asked, Session.told_silent (.inl rfl)]
    exact accounted.asked pending .messages
  · have refused := failed result rfl
    rw [noError] at refused
    simp at refused

/-- The reply to a post keeps a page accounted for. -/
theorem Session.Accounted.repliedTo (format : Double → JsString)
    {parseText : Bytes → Option Json} (lawful : library.Lawful) (decodes : browser.Lawful)
    (accounted : session.Accounted library browser identity) {response : HttpResponse}
    (arrived : session.reply = some response) :
    (session.told (composerStep format browser parseText session.composer
      (.sendSettled (some (callSend library (some response)))))).Accounted
        library browser identity := by
  -- A success has the message that was created; any other reply is handed on as an error.
  by_cases success : response.status = 200
  · obtain ⟨message, created, rfl⟩ := accounted.1.replied response arrived success
    cases pending : session.composer.submission with
    | none =>
      have same : composerStep format browser parseText session.composer
          (.sendSettled (some (callSend library (some (createdResponse library message))))) =
            session.composer := by
        simp only [composerStep, Composer.sendSettled, pending]
      rw [same, Session.told_same]
      exact accounted
    | some submission =>
      obtain ⟨body, known, waiting⟩ := submission
      cases waiting with
      | messages =>
        have same : composerStep format browser parseText session.composer
            (.sendSettled (some (callSend library (some (createdResponse library message))))) =
              session.composer := by
          simp only [composerStep, Composer.sendSettled, pending]
        rw [same, Session.told_same]
        exact accounted
      | send =>
        obtain ⟨same, fresh⟩ := (accounted.1.awaits _ pending).fresh message created
        simp only [composerStep]
        rw [sendSettled_createdResponse format lawful message pending]
        exact accounted.noted format decodes pending (accounted.1.created _ created).2 same fresh
  · apply accounted.unsent format
    intro result same
    obtain rfl := Option.some.inj same
    exact hasError_callSend decodes fun reply found => Option.some.inj found ▸ success

/-- The history keeps a page accounted for, whatever is found in it. -/
theorem Session.Accounted.confirmed (format : Double → JsString)
    {parseText : Bytes → Option Json} (lawful : library.Lawful) (decodes : browser.Lawful)
    (accepted : identity.Accepted) (accounted : session.Accounted library browser identity)
    {running : Bool} {snapshot : List ChatMessage} (arrived : session.history = some snapshot) :
    (session.told (composerStep format browser parseText session.composer
      (.messagesSettled (some (callMessages library running
        (some (getMessages library snapshot))))))).Accounted library browser identity := by
  obtain ⟨small, stored⟩ := accounted.1.answered snapshot (by simp [arrived])
  simp only [composerStep]
  rcases session.composer.messagesSettled_cases format browser parseText
      (some (callMessages library running (some (getMessages library snapshot)))) with
    same | ⟨submission, pending, _, ⟨_, gaveUp⟩ | ⟨history, shown, answer, found, noted⟩⟩
  · rw [same, Session.told_same]
    exact accounted
  · rw [gaveUp, Session.told_silent (.inr (by simp [Composer.settled]))]
    exact accounted.failed pending
  · obtain rfl := Option.some.inj answer
    obtain ⟨member, body, origin, unknown⟩ := Composer.storedMessage_eq_some found
    rw [normalizeRpcResult_callMessages, scriptMessages_callMessages lawful running small,
      Option.getD_some] at member
    obtain ⟨message, sorted, rfl⟩ := List.mem_map.mp member
    have committed := stored message (List.mem_mergeSort.mp sorted)
    -- The page knows its node, so the message is one of its own.
    have named := accounted.1.addressed (.inr (by rw [pending]; rfl))
    have own : message.origin = identity.nodeId := by
      apply origin_of_shown decodes accepted (accounted.1.honest.built message committed)
      rcases origin with unnamed | same
      · exact absurd (named.symm.trans unnamed) (decode_nodeId_ne_nil decodes accepted)
      · rw [same, named]
    have text := body_of_shown decodes (accounted.1.honest.built message committed) body
    rw [noted]
    exact accounted.noted format decodes pending
      (accounted.1.honest.own message committed own) text unknown

/-- A history that could not be read keeps a page accounted for. -/
theorem Session.Accounted.unread (format : Double → JsString) {parseText : Bytes → Option Json}
    (accounted : session.Accounted library browser identity) {outcome : Option Json}
    (empty : ∀ result ∈ outcome,
      (scriptMessages browser (normalizeRpcResult parseText result)).getD [] = []) :
    (session.told (composerStep format browser parseText session.composer
      (.messagesSettled outcome))).Accounted library browser identity := by
  -- Nothing can be found in an empty history.
  simp only [composerStep]
  rcases session.composer.messagesSettled_cases format browser parseText outcome with
    same | ⟨submission, pending, _, ⟨_, gaveUp⟩ | ⟨history, message, rfl, found, _⟩⟩
  · rw [same, Session.told_same]
    exact accounted
  · rw [gaveUp, Session.told_silent (.inr (by simp [Composer.settled]))]
    exact accounted.failed pending
  · have member := (Composer.storedMessage_eq_some found).1
    rw [empty history rfl] at member
    simp at member

/-- A page that is loaded from an honest node is accounted for: it has reported nothing. -/
theorem Session.load_accounted (format : Double → JsString) (lawful : library.Lawful)
    {node : Node} (honest : node.Honest identity) (small : node.process.messages.length < 2 ^ 63)
    (status : Option Bool) (running read : Bool) :
    (Session.load library format browser identity node status running read).Accounted
      library browser identity := by
  -- What the page was loaded with, if anything, is what the node had cached.
  have cached := honest.cached
  have history : ∀ messages ∈ (if read then some node.process.messages else none),
      messages.length < 2 ^ 63 ∧ ∀ row ∈ messages, row ∈ node.process.database.committed := by
    intro messages same
    cases read with
    | false => simp at same
    | true =>
      obtain rfl := Option.some.inj same
      exact ⟨small, cached⟩
  refine ⟨{
    honest := honest
    consistent := ⟨rfl, fun _ => rfl, by simp [load, Composer.render]⟩
    named := ?_
    addressed := fun when => ?_
    known := fun id member => ?_
    answered := by simp [load]
    created := by simp [load]
    posted := by simp [load]
    once := by simp [load]
    typed := by simp [load, Composer.render, encodeUtf8]
    awaits := by simp [load, Composer.render]
    replied := by simp [load] }, [], ⟨by simp, rfl, by simp, by simp, by simp⟩⟩
  · cases status with
    | none => exact .inl (localNodeId_fillMessages _ _)
    | some live => exact .inr (localNodeId_fillMessages _ _)
  · cases status with
    | none => simp [load, Composer.render] at when
    | some live => exact localNodeId_fillMessages _ _
  · obtain ⟨message, inHistory, rfl⟩ := mem_knownIds_fillMessages member
    obtain ⟨messages, found, row, inMessages, rfl⟩ := mem_historyMessages lawful
      (fun messages same => (history messages same).1) inHistory
    exact ⟨row, (history messages found).2 row inMessages, rfl⟩

/-- Every regular action keeps a page accounted for. -/
theorem sessionStep_accounted (format : Double → JsString) {parseText : Bytes → Option Json}
    {request : Bytes → HttpRequest} (lawful : library.Lawful) (decodes : browser.Lawful)
    (posts : Posts library request) (accepted : identity.Accepted) (session : Session)
    (action : SessionAction) (accounted : session.Accounted library browser identity)
    (regular : action.Regular browser parseText identity session) :
    (sessionStep library format browser parseText request identity session action).Accounted
      library browser identity := by
  -- Each action has its own lemma; what is left here is to read off what it does.
  have consistent := fun event => composerStep_consistent format browser parseText
    session.composer event accounted.1.consistent
  cases action with
  | write text =>
    have step := consistent (.write text)
    simp only [sessionStep, composerStep] at step ⊢
    split at step
    · rename_i disabled
      simpa only [if_pos disabled] using accounted
    · rename_i enabled
      simp only [if_neg enabled]
      exact accounted.edited step rfl rfl rfl regular
  | compose composing =>
    exact accounted.edited (consistent (.compose composing)) rfl rfl rfl accounted.1.typed
  | submit => exact accounted.submitted format parseText
  | receive index now results =>
    exact accounted.received decodes posts accepted regular index now results
  | lose index => exact accounted.lost index
  | replyArrives =>
    simp only [sessionStep]
    split
    · exact accounted
    · rename_i response arrived
      exact accounted.repliedTo format lawful decodes arrived
  | sendFails outcome => exact accounted.unsent format regular
  | answerHistory =>
    simp only [sessionStep]
    split
    · exact accounted
    · rename_i service running
      exact (accounted.answered running regular).1
  | historyArrives running =>
    simp only [sessionStep]
    split
    · exact accounted
    · rename_i snapshot arrived
      exact accounted.confirmed format lawful decodes accepted arrived
  | historyFails outcome => exact accounted.unread format regular
  | answerPoll =>
    simp only [sessionStep]
    split
    · exact accounted
    · rename_i service running
      exact (accounted.answered running regular).2
  | poll status running index =>
    apply accounted.polled format parseText
    · cases status with
      | none => exact .inl ⟨rfl, rfl⟩
      | some live => exact .inr ⟨decode_nodeId_ne_nil decodes accepted, rfl⟩
    · intro message inHistory
      have answered : ∀ snapshot ∈ session.polls[index]?, snapshot.length < 2 ^ 63 ∧
          ∀ row ∈ snapshot, row ∈ session.node.process.database.committed := fun snapshot same =>
        accounted.1.answered snapshot
          (List.mem_append_right _ (List.mem_of_getElem? same))
      obtain ⟨snapshot, found, row, inSnapshot, rfl⟩ := mem_historyMessages lawful
        (fun snapshot same => (answered snapshot same).1) inHistory
      exact ⟨row, (answered snapshot found).2 row inSnapshot, rfl⟩
  | act action =>
    exact accounted.moved
      (nodeStep_honest library accepted session.node action accounted.1.honest regular)
      (nodeStep_grows library identity session.node action)

end Invariant

section Reports

variable {library : JsonC} {browser : Browser} {parseText : Bytes → Option Json}
  {request : Bytes → HttpRequest} {identity : NodeIdentity} {session : Session}

/-- A composer that waits says that it could not send only once a history has nothing to show. -/
theorem composerStep_couldNotSend {format : Double → JsString} {composer : Composer}
    {event : ComposerEvent} {submission : Submission} (consistent : composer.Consistent)
    (pending : composer.submission = some submission)
    (failed : (composerStep format browser parseText composer event).hint = .couldNotSend) :
    ∃ outcome, event = .messagesSettled outcome ∧
      (outcome.bind fun history =>
        composer.storedMessage browser parseText submission history) = none ∧
      composerStep format browser parseText composer event =
        { composer with hint := .couldNotSend }.settled := by
  obtain ⟨disabled, sending, _, _⟩ := consistent.busy submission pending
  -- What leaves the line below the box alone is no failure.
  have other : ∀ {after : Composer}, after.hint = composer.hint → after.hint ≠ .couldNotSend := by
    rintro after same gaveUp
    rw [same, sending] at gaveUp
    simp at gaveUp
  cases event with
  | write text =>
    simp only [composerStep, disabled, if_true] at failed
    exact absurd failed (other rfl)
  | compose composing => exact absurd failed (other rfl)
  | submit =>
    simp only [composerStep, disabled, if_true] at failed
    exact absurd failed (other rfl)
  | poll nodeId liveRunning incoming =>
    simp only [composerStep, Composer.poll] at failed
    split at failed
    · exact absurd failed (other rfl)
    · exact absurd failed (other rfl)
  | sendSettled outcome =>
    simp only [composerStep] at failed
    rcases composer.sendSettled_cases format browser parseText outcome with
      same | ⟨_, _, _, asked | ⟨_, _, _, noted⟩⟩
    · rw [same] at failed
      exact absurd failed (other rfl)
    · rw [asked] at failed
      exact absurd failed (other rfl)
    · simp [noted, Composer.settled, Composer.noteSent] at failed
  | messagesSettled outcome =>
    simp only [composerStep] at failed ⊢
    rcases composer.messagesSettled_cases format browser parseText outcome with
      same | ⟨waiting, same, _, ⟨nothing, gaveUp⟩ | ⟨_, _, _, _, noted⟩⟩
    · rw [same] at failed
      exact absurd failed (other rfl)
    · obtain rfl := Option.some.inj (pending.symm.trans same)
      exact ⟨outcome, rfl, nothing, gaveUp⟩
    · simp [noted, Composer.settled, Composer.noteSent] at failed

/-- Being told an outcome leaves the page as the outcome leaves it. -/
@[simp] theorem Session.composer_told (after : Composer) :
    (session.told after).composer = after := rfl

/-- The page changes only by an event of its own, and only calls for the history settle one. -/
theorem sessionStep_composer (format : Double → JsString) (action : SessionAction) :
    (sessionStep library format browser parseText request identity session action).composer =
        session.composer ∨
      ∃ event, (sessionStep library format browser parseText request identity session
          action).composer = composerStep format browser parseText session.composer event ∧
        ∀ outcome, event = .messagesSettled outcome →
          action = .historyFails outcome ∨
            ∃ running snapshot, action = .historyArrives running ∧
              session.history = some snapshot ∧
              outcome = some (callMessages library running
                (some (getMessages library snapshot))) := by
  -- The cases follow the actions; the node and the posts are no part of the page.
  cases action with
  | write text => exact .inr ⟨.write text, rfl, by simp⟩
  | compose composing => exact .inr ⟨.compose composing, rfl, by simp⟩
  | submit =>
    refine .inr ⟨.submit, ?_, by simp⟩
    simp only [sessionStep, Session.submit]
    split <;> rfl
  | receive index now results =>
    refine .inl ?_
    simp only [sessionStep, Session.receive]
    split <;> rfl
  | lose index => exact .inl rfl
  | replyArrives =>
    cases arrived : session.reply with
    | none => exact .inl (by simp only [sessionStep, arrived])
    | some response =>
      refine .inr ⟨.sendSettled (some (callSend library (some response))), ?_, by simp⟩
      simp only [sessionStep, arrived, Session.composer_told]
  | sendFails outcome => exact .inr ⟨.sendSettled outcome, rfl, by simp⟩
  | answerHistory =>
    refine .inl ?_
    simp only [sessionStep]
    split <;> rfl
  | historyArrives running =>
    cases arrived : session.history with
    | none => exact .inl (by simp only [sessionStep, arrived])
    | some snapshot =>
      refine .inr ⟨.messagesSettled (some (callMessages library running
        (some (getMessages library snapshot)))), ?_, fun outcome same => ?_⟩
      · simp only [sessionStep, arrived, Session.composer_told]
      · exact .inr ⟨running, snapshot, rfl, rfl, (ComposerEvent.messagesSettled.inj same).symm⟩
  | historyFails outcome =>
    refine .inr ⟨.messagesSettled outcome, rfl, fun other same => ?_⟩
    rw [ComposerEvent.messagesSettled.inj same]
    exact .inl rfl
  | answerPoll =>
    refine .inl ?_
    simp only [sessionStep]
    split <;> rfl
  | poll status running index => exact .inr ⟨.poll _ _ _, rfl, by simp⟩
  | act action => exact .inl rfl

/-- Whatever a page is told and its node goes through, the page stays accounted for. -/
theorem Session.Reached.accounted {format : Double → JsString} (lawful : library.Lawful)
    (decodes : browser.Lawful) (posts : Posts library request) (accepted : identity.Accepted)
    (reached : session.Reached library format browser parseText request identity) :
    session.Accounted library browser identity := by
  -- The node is honest when the page is loaded, and every action keeps the page accounted for.
  obtain ⟨past, status, running, read, actions, lived, small, regular, rfl⟩ := reached
  have honest := guarded_invariant
    (fun node action => nodeStep_honest library accepted node action) lived
    (Node.initial_honest identity)
  exact guarded_invariant
    (fun session action =>
      sessionStep_accounted format lawful decodes posts accepted session action)
    regular (Session.load_accounted format lawful honest small status running read)

/--
A page gives a submission up only when the history does not have it.

When, in a regular run, a page that waits for a submission says that it could not send the message,
it could not read the history, or the history it read has no message that was created for the
submission. The text is still in the box.
-/
theorem failed_justified {format : Double → JsString} (lawful : library.Lawful)
    (decodes : browser.Lawful) (posts : Posts library request) (accepted : identity.Accepted)
    (reached : session.Reached library format browser parseText request identity)
    {submission : Submission} (pending : session.composer.submission = some submission)
    {action : SessionAction}
    (failed : (sessionStep library format browser parseText request identity session
      action).composer.hint = .couldNotSend) :
    ((∃ outcome, action = .historyFails outcome) ∨
      ∃ running snapshot, action = .historyArrives running ∧ session.history = some snapshot ∧
        ∀ message, (session.submitted, message) ∈ session.created → message ∉ snapshot) ∧
      trimmed (sessionStep library format browser parseText request identity session
        action).composer.value = submission.body := by
  have sound := (reached.accounted lawful decodes posts accepted).1
  obtain ⟨_, sending, kept, _⟩ := sound.consistent.busy submission pending
  rcases sessionStep_composer format action with same | ⟨event, same, settles⟩
  · -- A page that does not change still says that it is sending.
    rw [same, sending] at failed
    simp at failed
  · rw [same] at failed
    obtain ⟨outcome, rfl, nothing, gaveUp⟩ :=
      composerStep_couldNotSend sound.consistent pending failed
    refine ⟨?_, by rw [same, gaveUp]; exact kept.symm⟩
    rcases settles outcome rfl with fails | ⟨running, snapshot, arrives, found, answered⟩
    · exact .inl ⟨outcome, fails⟩
    · refine .inr ⟨running, snapshot, arrives, found, fun message created inSnapshot => ?_⟩
      subst answered
      obtain ⟨text, unknown⟩ := (sound.awaits submission pending).fresh message created
      have acknowledged := (sound.created _ created).2
      have built := sound.honest.built message
        (sound.honest.acknowledges.committed message acknowledged)
      have own := (sound.honest.acknowledges.own message acknowledged).1
      have named := sound.addressed (.inr (by rw [pending]; rfl))
      obtain ⟨nonempty, ordinary⟩ := shownId_ordinary decodes built
      -- The message has the text and names the node, so only a known one would be passed over.
      have known : (message.scripted browser).id ∈ submission.knownBeforeSend := by
        apply Composer.storedMessage_eq_none nothing
        · rw [normalizeRpcResult_callMessages, scriptMessages_callMessages lawful running
            (sound.answered snapshot (by simp [found])).1, Option.getD_some]
          exact List.mem_map.mpr ⟨message, List.mem_mergeSort.mpr inSnapshot, rfl⟩
        · show browser.decode message.body = _
          rw [text, decodes.decode_encodeUtf8]
        · show browser.decode (cString message.origin) = _
          rw [named, own, cString_of_noNul (isValidNodeId_noNul
            ((checkIdentity_eq_ok identity).mp accepted.checked).1)]
        · exact nonempty
        · exact ordinary
      exact unknown known

/-- A greeting whose post is still on its way is given up. -/
theorem failed_justified_greeting :
    let alice : NodeIdentity := ⟨ascii "a", ascii "Alice"⟩
    let step := sessionStep plainJsonC (fun _ => []) plainBrowser (fun _ => none)
      (bodyRequest plainJsonC) alice
    let loaded := Session.load plainJsonC (fun _ => []) plainBrowser alice (.initial alice)
      (some true) true true
    let session := run step loaded [.write ['h', 'i'], .submit, .sendFails none, .answerHistory]
    (step session (.historyArrives true)).composer.hint = .couldNotSend ∧
      trimmed (step session (.historyArrives true)).composer.value = ['h', 'i'] := by
  -- The history is read before the post arrives.
  intro alice step loaded session
  have accepted : alice.Accepted := ⟨by decide +kernel, by decide +kernel⟩
  have typed : (0 : UInt8) ∉ encodeUtf8 ['h', 'i'] := by decide +kernel
  have reached : session.Reached plainJsonC (fun _ => []) plainBrowser (fun _ => none)
      (bodyRequest plainJsonC) alice := by
    refine ⟨[], some true, true, true, _, trivial, by decide +kernel, ?_, rfl⟩
    refine ⟨typed, trivial, fun _ absent => absurd absent (by simp), ?_, trivial⟩
    show (run step loaded [.write ['h', 'i'], .submit,
      .sendFails none]).node.process.messages.length < 2 ^ 63
    decide +kernel
  have pending : session.composer.submission = some ⟨['h', 'i'], [], .messages⟩ := by
    decide +kernel
  have failed : (step session (.historyArrives true)).composer.hint = .couldNotSend := by
    decide +kernel
  exact ⟨failed, (failed_justified plainJsonC_lawful plainBrowser_lawful
    (bodyRequest_posts plainJsonC_lawful) accepted reached pending failed).2⟩

end Reports

end LesChat.ChatPage
