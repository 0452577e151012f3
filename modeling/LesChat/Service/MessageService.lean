import LesChat.Message.Codec
import LesChat.Store.MessageStore

/-! The message service of a running daemon, and the process it lives in. -/

namespace LesChat

open Foundation

/--
The service of a running daemon.

The last two fields record what it handed to the event stream and to the replication service.
-/
structure MessageService where
  /-- The identity of this node. -/
  identity : NodeIdentity
  /-- The store the service writes to. -/
  store : MessageStore
  /-- The unsigned 64-bit counter `next_sequence_`. -/
  nextSequence : Nat
  /-- The texts published as events. -/
  published : List Bytes
  /-- The payloads broadcast to the active peers. -/
  broadcasts : List Bytes

/-- The message `create_local` builds. -/
def localMessage (identity : NodeIdentity) (sequence : Nat) (now : Int64) (body : Bytes) :
    ChatMessage where
  sequence := sequence
  -- The identifier of the node, a colon, and the sequence in decimal.
  messageId := identity.nodeId ++ 0x3A :: decimal sequence
  origin := identity.nodeId
  callsign := identity.callsign
  channel := defaultChannel
  createdAtMs := now
  body := body

section Operations

variable (library : JsonC)

/-- `MessageService::publish`. -/
def publish (message : ChatMessage) (service : MessageService) : MessageService :=
  { service with published := service.published ++ [serializeJson library (messageToJson message)] }

/-- `MessageService::replicate`. -/
def replicate (message : ChatMessage) (service : MessageService) : MessageService :=
  { service with broadcasts := service.broadcasts ++ [serializeJson library (messageToJson message)] }

/-- `MessageService::create_local`: what it returns or throws, and the service afterwards. -/
def createLocal (now : Int64) (results : AddResults) (body : Bytes) (service : MessageService) :
    Except StoreError ChatMessage × MessageService :=
  let message := localMessage service.identity service.nextSequence now body
  -- The counter moves on before anything is stored, and wraps around at its limit.
  let counted := { service with nextSequence := (service.nextSequence + 1) % 2 ^ 64 }
  match add results message counted.store with
  | (.error error, store) => (.error error, { counted with store })
  -- Whether the row was inserted is discarded.
  | (.ok _, store) =>
    -- Subscribers are told before the peers are.
    (.ok message, replicate library message (publish library message { counted with store }))

/-- `MessageService::ingest_replica`. -/
def ingestReplica (lookup : SqliteResult) (results : AddResults) (message : ChatMessage)
    (service : MessageService) : Except StoreError Bool × MessageService :=
  -- Only the identifier is looked up, not the origin and the sequence.
  if contains lookup message.messageId service.store then (.ok false, service)
  else
    match add results message service.store with
    | (.error error, store) => (.error error, { service with store })
    -- Here too the result of the insert is discarded.
    | (.ok _, store) => (.ok true, publish library message { service with store })

/-- `MessageService::ingest_sync`. -/
def ingestSync (results : AddResults) (message : ChatMessage) (service : MessageService) :
    Except StoreError Bool × MessageService :=
  match add results message service.store with
  | (.error error, store) => (.error error, { service with store })
  -- A message that was not inserted is not published; the store may still have been pruned.
  | (.ok false, store) => (.ok false, { service with store })
  | (.ok true, store) => (.ok true, publish library message { service with store })

end Operations

/-- Opening a database file and building the service on it, which reads the counter once. -/
def openService (identity : NodeIdentity) (reload : Option Nat) (lookup : SqliteResult)
    (database : Database) : Except StoreError MessageService := do
  let store ← openStore reload database
  let next ← nextSequence lookup identity.nodeId store.database
  return ⟨identity, store, next, [], []⟩

/-- A daemon on its database file. -/
inductive Process where
  /-- The daemon is not running, and only the file is left. -/
  | stopped (database : Database)
  /-- The daemon is running. -/
  | running (service : MessageService)

/-- The database file of a process. -/
def Process.database : Process → Database
  | .stopped database => database
  | .running service => service.store.database

/-- The service of a process, when it is running. -/
def Process.service? : Process → Option MessageService
  | .stopped _ => none
  | .running service => some service

/-- What `messages()` returns, when there is a service to ask. -/
def Process.messages : Process → List ChatMessage
  | .stopped _ => []
  | .running service => service.store.messages

/-- A node: its process, and every message a `create_local` call of it ever returned. -/
structure Node where
  /-- The daemon and its file. -/
  process : Process
  /-- The acknowledged messages, in the order of the calls. -/
  acknowledged : List ChatMessage

/-- One thing that happens to a node. -/
inductive NodeAction where
  /-- A call of `create_local`. -/
  | create (now : Int64) (results : AddResults) (body : Bytes)
  /-- A call of `ingest_replica` on whatever `parse_message` makes of a value. -/
  | replica (lookup : SqliteResult) (results : AddResults) (object : Json)
  /-- A call of `ingest_sync` on whatever `parse_message` makes of a value. -/
  | sync (results : AddResults) (object : Json)
  /-- The daemon stops and is started on the same file. -/
  | restart (reload : Option Nat) (lookup : SqliteResult)

/-- The outcome of `create_local` for a node: a returned message counts as acknowledged. -/
def Node.afterCreate (node : Node) : Except StoreError ChatMessage × MessageService → Node
  | (.ok message, service) => ⟨.running service, node.acknowledged ++ [message]⟩
  -- The daemon survives the exception, with the counter moved on.
  | (.error _, service) => ⟨.running service, node.acknowledged⟩

/-- Starting the daemon on a file. -/
def startProcess (identity : NodeIdentity) (reload : Option Nat) (lookup : SqliteResult)
    (database : Database) : Process :=
  match openService identity reload lookup database with
  | .ok service => .running service
  -- An exception during startup ends the daemon.
  | .error _ => .stopped database

/-- The node after one action. -/
def nodeStep (library : JsonC) (identity : NodeIdentity) (node : Node) : NodeAction → Node
  | .restart reload lookup =>
    { node with process := startProcess identity reload lookup node.process.database }
  | .create now results body =>
    match node.process with
    -- Nothing reaches a daemon that is not running.
    | .stopped _ => node
    | .running service => node.afterCreate (createLocal library now results body service)
  | .replica lookup results object =>
    match node.process, parseMessage object with
    | .running service, some message =>
      { node with process := .running (ingestReplica library lookup results message service).2 }
    | _, _ => node
  | .sync results object =>
    match node.process, parseMessage object with
    | .running service, some message =>
      { node with process := .running (ingestSync library results message service).2 }
    | _, _ => node

/-- A service that was just started on a new file. -/
def MessageService.initial (identity : NodeIdentity) : MessageService :=
  ⟨identity, MessageStore.empty, 1, [], []⟩

/-- A node that was just started on a new file. -/
def Node.initial (identity : NodeIdentity) : Node where
  process := .running (MessageService.initial identity)
  acknowledged := []

end LesChat
