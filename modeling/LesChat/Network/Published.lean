import LesChat.Network.Genuine
import LesChat.Web.EventStream

/-! Every event a node publishes is the text of a message some node created. -/

namespace LesChat

open Foundation

/-- The texts a process published since it was started. -/
def Process.published : Process → List Bytes
  | .stopped _ => []
  | .running service => service.published

section Texts

variable (library : JsonC)

/-- A text is that of one of some messages. -/
def TextOf (listed : ChatMessage → Prop) (text : Bytes) : Prop :=
  ∃ message, listed message ∧ text = serializeJson library (messageToJson message)

/-- A text stays one of more messages. -/
theorem TextOf.mono {library : JsonC} {some more : ChatMessage → Prop} {text : Bytes}
    (told : TextOf library some text) (weaker : ∀ message, some message → more message) :
    TextOf library more text := by
  -- The text is that of the same message.
  obtain ⟨message, listed, same⟩ := told
  exact ⟨message, weaker message listed, same⟩

/-- A text a call leaves published was published before, or is that of its event. -/
theorem ServiceCall.mem_published_after {service : MessageService} (call : ServiceCall)
    {text : Bytes} (member : text ∈ (call.after library service).published) :
    text ∈ service.published ∨
      TextOf library (fun message => call.event library service = some message) text := by
  -- A call publishes behind what was published before.
  rw [ServiceCall.published_after] at member
  rcases List.mem_append.mp member with old | new
  · exact .inl old
  · obtain ⟨message, listed, same⟩ := List.mem_map.mp new
    exact .inr ⟨message, Option.mem_toList.mp listed, same.symm⟩

variable (identity : NodeIdentity) (node : Node)

/-- Everything published while a request is handled was published before, or was in the request. -/
theorem daemonStep_published (lookup : SqliteResult) (results : Nat → AddResults) (post : Post) :
    ∀ text ∈ (daemonStep library identity node (post.action lookup results)).process.published,
      text ∈ node.process.published ∨
        TextOf library (fun message => message ∈ post.received library) text := by
  -- The record grows by what one ingest reports.
  refine daemonStep_keeps (fun after => ∀ text ∈ after.process.published,
    text ∈ node.process.published ∨
      TextOf library (fun message => message ∈ post.received library) text)
    (fun text member => .inl member) ?_ ?_ ?_ ?_
  · intro now results parsed same
    cases post <;> simp [Post.action] at same
  · intro lookup results request same service running message carried text member
    cases post with
    | syncMessages batch => simp [Post.action] at same
    | replicate payload =>
      simp only [Post.action, DaemonAction.replicate.injEq] at same
      obtain ⟨rfl, rfl, rfl⟩ := same
      have told := ServiceCall.mem_published_after library
        (.ingestReplica lookup (results 0) message) member
      rw [running]
      refine told.imp_right fun told => told.mono fun event reported => ?_
      simp only [ServiceCall.event, Option.ite_none_right_eq_some, Option.some.injEq] at reported
      rw [← reported.2]
      exact carried
  · intro results request same message carried index service before text member
    cases post with
    | replicate payload => simp [Post.action] at same
    | syncMessages batch =>
      simp only [Post.action, DaemonAction.synchronize.injEq] at same
      obtain ⟨rfl, rfl⟩ := same
      rcases ServiceCall.mem_published_after library
        (.ingestSync (results index) message) member with old | new
      · exact before text old
      · refine .inr (new.mono fun event reported => ?_)
        simp only [ServiceCall.event, Option.ite_none_right_eq_some, Option.some.injEq] at reported
        rw [← reported.2]
        exact carried
  · intro reload lookup same
    cases post <;> simp [Post.action] at same

/-- A process that was just started has published nothing. -/
theorem startProcess_published (reload : Option Nat) (lookup : SqliteResult)
    (database : Database) : (startProcess identity reload lookup database).published = [] := by
  unfold startProcess
  split
  · -- A service that opened has published nothing yet.
    rename_i service opened
    exact (openService_silent opened).1
  · rfl

end Texts

section Network

variable {ι : Type*} (library : JsonC)

/-- Everything any process published is the text of a created message. -/
def Network.Tells (network : Network ι) : Prop :=
  ∀ node, ∀ text ∈ (network.nodes node).process.published, TextOf library network.Created text

/-- Nothing was published in a new network. -/
theorem Network.initial_tells (library : JsonC) (mesh : Mesh ι) :
    (Network.initial mesh).Tells library := by
  -- No node of the initial network has published anything.
  simp [Network.Tells, Network.initial, Node.initial, MessageService.initial, Process.published]

variable [DecidableEq ι] {library} {mesh : Mesh ι} {network : Network ι}

/-- Every step of a genuine network keeps to the texts of created messages. -/
theorem Stepped.tells (lawful : library.Lawful) {action : NetworkAction ι} {after : Network ι}
    (stepped : Stepped library mesh network action after) (genuine : network.Genuine library mesh)
    (tells : network.Tells library) : after.Tells library := by
  have kept : ∀ text, TextOf library network.Created text → TextOf library after.Created text :=
    fun text told => told.mono fun message created => stepped.created_kept created
  have others : ∀ node, ∀ text ∈ (network.nodes node).process.published,
      TextOf library after.Created text := fun node text member =>
    kept text (tells node text member)
  cases stepped with
  | idle => exact tells
  | created node now results parsed service body running accepted =>
    refine forall_update (fun _ state => ∀ text ∈ state.process.published,
      TextOf library _ text) others ?_
    intro text member
    rw [Node.process_afterCreate] at member
    rcases ServiceCall.mem_published_after library
      (.createLocal now results body) member with old | new
    · refine others node text ?_
      rw [running]
      exact old
    · -- The message a local call publishes is the one it returns.
      refine new.mono fun message returned => ⟨node, ?_⟩
      simp only [ServiceCall.event, Except.toOption] at returned
      simp only [Function.update_self, Node.mem_acknowledged_afterCreate]
      refine .inr ?_
      split at returned
      · rename_i other called
        rw [called, Option.some.inj returned]
      · simp at returned
  | delivered index receiver lookup results post listed =>
    refine forall_update (fun _ state => ∀ text ∈ state.process.published,
      TextOf library _ text) others ?_
    intro text member
    rcases daemonStep_published library _ _ lookup results post text member with old | new
    · exact others receiver text old
    · exact kept text (new.mono fun message carried =>
        genuine.created_of_received lawful (List.mem_of_getElem? listed) carried)
  | sent => exact others
  | restarted node reload lookup =>
    refine forall_update (fun _ state => ∀ text ∈ state.process.published,
      TextOf library _ text) others ?_
    intro text member
    rw [startProcess_published] at member
    simp at member

/-- Every network a run reaches keeps to the texts of created messages. -/
theorem run_tells (lawful : library.Lawful) (actions : List (NetworkAction ι)) :
    (run (networkStep library mesh) (Network.initial mesh) actions).Tells library := by
  -- A step keeps both facts, and the second needs the first.
  have both : (run (networkStep library mesh) (Network.initial mesh) actions).Genuine library mesh ∧
      (run (networkStep library mesh) (Network.initial mesh) actions).Tells library := by
    apply @run_invariant _ _ (networkStep library mesh)
      (fun network => network.Genuine library mesh ∧ network.Tells library)
    · intro network action before
      have stepped := networkStep_stepped library mesh network action
      exact ⟨stepped.genuine lawful before.1, stepped.tells lawful before.1 before.2⟩
    · exact ⟨Network.initial_genuine library mesh, Network.initial_tells library mesh⟩
  exact both.2

end Network

end LesChat
