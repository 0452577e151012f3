import LesChat.Http.Daemon
import LesChat.Network.HonestNode
import LesChat.Web.Composer

/-! A LuCI page, the node that serves it, and the calls between them, which may fail. -/

namespace LesChat.ChatPage

open Foundation

section Bridge

variable (library : JsonC)

/-- What the bridge answers when the daemon could not be reached. -/
def unreachable : List (Bytes × Json) :=
  [(ascii "running", .bool false), (ascii "error", .string (ascii "daemon_unreachable"))]

/-- The members of what `json_load` takes of the reply that `wget` printed. -/
def loadedReply (response : Option HttpResponse) : Option (List (Bytes × Json)) :=
  match response with
  | none => none
  | some response =>
    -- The body of anything but a success is not printed.
    if response.status ≠ 200 then none
    else
      match parseJson library response.body with
      | ⟨.object members, true, _⟩ => some members
      | _ => none

/-- `call_send`, given the reply of the daemon. -/
def callSend (response : Option HttpResponse) : Json :=
  match loadedReply library response with
  | some members => .object members
  | none => .object [(ascii "error", .string (ascii "daemon_unreachable"))]

/-- `call_messages`, given the reply of the daemon and whether its process is found. -/
def callMessages (running : Bool) (response : Option HttpResponse) : Json :=
  match loadedReply library response with
  | some members => .object (Keyed.upsert members (ascii "running") (.bool running))
  | none => .object (unreachable ++ [(ascii "messages", .array []), (ascii "count", .int 0)])

/--
What the bridge posts for a body.

The daemon refuses it, or finds the body in it. A shell cannot pass on a NUL byte.
-/
def Posts (request : Bytes → HttpRequest) : Prop :=
  ∀ body parsed, 0 ∉ body →
    readJsonObject library (request body) maxRequestBytes false (errorBody "invalid_json") =
      .ok parsed → parsed = createRequest body

end Bridge

/-- A page, the node that serves it, and what is under way between them. -/
structure Session where
  /-- The page. -/
  composer : Composer
  /-- The node. -/
  node : Node
  /-- How many submissions were made. -/
  submitted : Nat
  /-- The posts the daemon has not received, each with the number of its submission. -/
  posts : List (Nat × Bytes)
  /-- The reply to the post of the last submission, when it is waited for. -/
  reply : Option HttpResponse
  /-- The history the request of `confirmStored` was answered with. -/
  history : Option (List ChatMessage)
  /-- The histories polls were answered with. -/
  polls : List (List ChatMessage)
  /-- The messages that were created for submissions, with their numbers. -/
  created : List (Nat × ChatMessage)
  /-- The texts the page has reported as sent. -/
  reported : List (List Char)

/-- One thing that happens to a page and its node. -/
inductive SessionAction where
  /-- The user changes the text. -/
  | write (text : List Char)
  /-- An input method begins or ends composing. -/
  | compose (composing : Bool)
  /-- The user submits the form. -/
  | submit
  /-- A post reaches the node. -/
  | receive (index : Nat) (now : Int64) (results : AddResults)
  /-- A post gets lost. -/
  | lose (index : Nat)
  /-- The reply to the post arrives at the page. -/
  | replyArrives
  /-- The call that sends fails: it is rejected, or has a result. -/
  | sendFails (outcome : Option Json)
  /-- The node answers the request for the history. -/
  | answerHistory
  /-- The history arrives at the page. -/
  | historyArrives (running : Bool)
  /-- The call for the history fails: it is rejected, or has a result. -/
  | historyFails (outcome : Option Json)
  /-- The node answers a poll. -/
  | answerPoll
  /-- A poll ends, with the status and the history it was answered with, if any. -/
  | poll (status : Option Bool) (running : Bool) (index : Nat)
  /-- Something else happens to the node. -/
  | act (action : NodeAction)

section Steps

variable (library : JsonC) (format : Double → JsString) (browser : Browser)
  (parseText : Bytes → Option Json) (request : Bytes → HttpRequest) (identity : NodeIdentity)

/-- The messages a page finds in a history. -/
def historyMessages (running : Bool) (snapshot : Option (List ChatMessage)) :
    List ScriptMessage :=
  (scriptMessages browser (callMessages library running
    (snapshot.map (getMessages library)))).getD []

/-- A page that is loaded from a node: whether the status and the history could be read. -/
def Session.load (node : Node) (status : Option Bool) (running read : Bool) : Session where
  composer := Composer.render format
    (if status.isSome then browser.decode identity.nodeId else []) (status.getD false)
    (historyMessages library browser running (if read then some node.process.messages else none))
  node
  submitted := 0
  posts := []
  reply := none
  history := none
  polls := []
  created := []
  reported := []

/-- The node after it received a post, and its reply. -/
def receivePost (now : Int64) (results : AddResults) (body : Bytes) (node : Node) :
    Option HttpResponse × Node :=
  match node.process with
  -- Nobody accepts the connection.
  | .stopped _ => (none, node)
  | .running service =>
    (some (createMessage library now results (request body) service).1,
      match readJsonObject library (request body) maxRequestBytes false
        (errorBody "invalid_json") with
      | .error _ => node
      | .ok parsed => daemonStep library identity node (.create now results parsed))

/-- The session after the page was told the outcome of a call. -/
def Session.told (after : Composer) (session : Session) : Session :=
  { session with
    composer := after
    reported :=
      match session.composer.submission with
      | some submission =>
        if after.submission.isNone ∧ after.hint = .sent then session.reported ++ [submission.body]
        else session.reported
      | none => session.reported }

/-- The session after the form was submitted. -/
def Session.submit (session : Session) : Session :=
  let after := composerStep format browser parseText session.composer .submit
  match session.composer.submission, after.submission with
  | none, some submission =>
    { session with
      composer := after
      submitted := session.submitted + 1
      posts := session.posts ++ [(session.submitted + 1, encodeUtf8 submission.body)]
      reply := none
      history := none }
  | _, _ => { session with composer := after }

/-- The session after a post reached the node. -/
def Session.receive (index : Nat) (now : Int64) (results : AddResults) (session : Session) :
    Session :=
  match session.posts[index]? with
  | none => session
  | some (number, body) =>
    let answer := receivePost library request identity now results body session.node
    { session with
      posts := session.posts.eraseIdx index
      node := answer.2
      reply :=
        -- Nobody waits for the replies to earlier submissions.
        if number = session.submitted then answer.1 else session.reply
      created := session.created ++
        (answer.2.acknowledged.drop session.node.acknowledged.length).map fun message =>
          (number, message) }

/-- The session after one action. -/
def sessionStep (session : Session) : SessionAction → Session
  | .write text => { session with
      composer := composerStep format browser parseText session.composer (.write text) }
  | .compose composing => { session with
      composer := composerStep format browser parseText session.composer (.compose composing) }
  | .submit => session.submit format browser parseText
  | .receive index now results => session.receive library request identity index now results
  | .lose index => { session with posts := session.posts.eraseIdx index }
  | .replyArrives =>
    match session.reply with
    | none => session
    | some response => session.told (composerStep format browser parseText session.composer
        (.sendSettled (some (callSend library (some response)))))
  | .sendFails outcome =>
    session.told (composerStep format browser parseText session.composer (.sendSettled outcome))
  | .answerHistory =>
    match session.node.process with
    | .stopped _ => session
    | .running service => { session with history := some service.store.messages }
  | .historyArrives running =>
    match session.history with
    | none => session
    | some snapshot => session.told (composerStep format browser parseText session.composer
        (.messagesSettled (some (callMessages library running
          (some (getMessages library snapshot))))))
  | .historyFails outcome =>
    session.told (composerStep format browser parseText session.composer (.messagesSettled outcome))
  | .answerPoll =>
    match session.node.process with
    | .stopped _ => session
    | .running service => { session with polls := session.polls ++ [service.store.messages] }
  | .poll status running index => { session with
      composer := composerStep format browser parseText session.composer (.poll
        -- The bridge names the node also when the daemon cannot be reached.
        (if status.isSome then browser.decode identity.nodeId else []) (status.getD false)
        (historyMessages library browser running session.polls[index]?)) }
  | .act action => { session with node := nodeStep library identity session.node action }

/--
A regular action.

The mesh is honest, every restart reads its mark and no counter wraps around. No history is endless,
what is typed is text without NUL, and calls that fail are rejected or have a result that says so.
-/
def SessionAction.Regular (session : Session) : SessionAction → Prop
  | .write text => 0 ∉ encodeUtf8 text
  | .receive _ _ _ => ∀ service ∈ session.node.process.service?,
    service.nextSequence ≠ 2 ^ 64 - 1
  | .answerHistory | .answerPoll => session.node.process.messages.length < 2 ^ 63
  | .sendFails outcome => ∀ result ∈ outcome,
    hasError browser (normalizeRpcResult parseText result) = true
  | .historyFails outcome => ∀ result ∈ outcome,
    (scriptMessages browser (normalizeRpcResult parseText result)).getD [] = []
  | .act action => action.Honest identity session.node
  | _ => True

/-- A session that regular actions lead to, of a page that is loaded from an honest node. -/
def Session.Reached (session : Session) : Prop :=
  ∃ (past : List NodeAction) (status : Option Bool) (running read : Bool)
      (actions : List SessionAction),
    let node := run (nodeStep library identity) (Node.initial identity) past
    let loaded := Session.load library format browser identity node status running read
    Guarded (nodeStep library identity) (fun node action => action.Honest identity node)
        (Node.initial identity) past ∧
      node.process.messages.length < 2 ^ 63 ∧
      Guarded (sessionStep library format browser parseText request identity)
        (fun session action => action.Regular browser parseText identity session)
        loaded actions ∧
      run (sessionStep library format browser parseText request identity) loaded actions = session

end Steps

end LesChat.ChatPage
