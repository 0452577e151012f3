import LesChat.Foundation.Journal
import LesChat.Foundation.Keyed
import LesChat.Foundation.Table
import LesChat.Message.Protocol

/-! The SQLite message store: two tables, a cache of one of them, and every call that can fail. -/

namespace LesChat

open Foundation

/-- How one call into SQLite ends. -/
inductive SqliteResult where
  /-- The call does what it was asked to do. -/
  | ok
  /-- The database has reached its size limit, `SQLITE_FULL`. -/
  | full
  /-- Any other error code. -/
  | error
deriving DecidableEq

/-- The exceptions the store throws. -/
inductive StoreError where
  /-- `DatabaseFull`, which `add` answers by pruning. -/
  | databaseFull
  /-- Any other `std::runtime_error`, with the fixed part of its text. -/
  | runtimeError (what : String)
deriving DecidableEq

/-- A call that has to succeed: a full database and any other failure are thrown apart. -/
def expectOk (what : String) : SqliteResult → Except StoreError Unit
  | .ok => .ok ()
  | .full => .error .databaseFull
  | .error => .error (.runtimeError what)

/-- The exception for a sequence that no signed column can hold. -/
def rangeError : StoreError := .runtimeError "Message sequence exceeds SQLite range"

/-- `MessageStore::execute`. -/
def execute (result : SqliteResult) : Except StoreError Unit :=
  expectOk "SQLite operation failed: " result

/-- The `messages` table, unique by identifier and by origin and sequence. -/
abbrev MessageTable :=
  Table ChatMessage.messageId fun message : ChatMessage => (message.origin, message.sequence)

/--
The database file.

The last field records the history for the statements made about it, and no call reads it.
-/
structure Database where
  /-- The rows of `messages`, in the order of `storage_id`. -/
  messages : MessageTable
  /-- The rows of `sequences`, whose `last_sequence` is never negative. -/
  sequences : Marks Bytes
  /-- Every message whose row was ever committed, in commit order. -/
  committed : List ChatMessage

/-- A database file as it is created. -/
def Database.empty : Database := ⟨Table.empty, Marks.empty, []⟩

/-- The store of a running daemon: the open database and the cached messages. -/
structure MessageStore where
  /-- The open database. -/
  database : Database
  /-- The cache `messages_`. -/
  messages : List ChatMessage

/-- `SELECT … FROM messages ORDER BY storage_id`. -/
def Database.rows (database : Database) : List ChatMessage := database.messages.values

/-- How the calls of one `insert_message` end. -/
structure InsertResults where
  /-- `BEGIN IMMEDIATE`. -/
  beginImmediate : SqliteResult := .ok
  /-- The insert into `messages`. -/
  insert : SqliteResult := .ok
  /-- The upsert into `sequences`. -/
  updateMark : SqliteResult := .ok
  /-- `COMMIT`. -/
  commit : SqliteResult := .ok
deriving DecidableEq

/-- How the calls of one `add` end. -/
structure AddResults where
  /-- The first attempt. -/
  first : InsertResults := {}
  /-- The pruning `DELETE`. -/
  prune : SqliteResult := .ok
  /-- How many rows the reload reads before a read fails, if one does. -/
  reload : Option Nat := none
  /-- The attempt after pruning. -/
  second : InsertResults := {}

/-- The two statements of a transaction that adds a message. -/
def Database.store (database : Database) (message : ChatMessage)
    (fresh : database.messages.Fresh message) : Database where
  messages := database.messages.insert message fresh
  -- An origin without a mark gets one, and an existing mark becomes the larger of the two.
  sequences := database.sequences.raise message.origin message.sequence
  committed := database.committed ++ [message]

/--
`MessageStore::insert_message`: whether a row was inserted, and the database afterwards.

An exception leaves the transaction rolled back, so it carries no database.
-/
def insertMessage (results : InsertResults) (message : ChatMessage) (database : Database) :
    Except StoreError (Bool × Database) := do
  execute results.beginImmediate
  -- The check stands inside the transaction, so a `BEGIN` that fails is thrown first.
  if message.sequence > maxInt64 then
    throw rangeError
  else
    expectOk "Unable to store message: " results.insert
    -- `INSERT OR IGNORE` skips a row that collides on either unique key.
    if fresh : database.messages.Fresh message then
      expectOk "Unable to update message sequence" results.updateMark
      execute results.commit
      return (true, database.store message fresh)
    else
      execute results.commit
      -- No change, so neither the mark nor the cache moves.
      return (false, database)

/--
`MessageStore::load_messages`: what the cache holds when the loop ends.

The cache is rebuilt in place, so a failure leaves the rows read before it.
-/
def loadMessages : Option Nat → List ChatMessage → Except StoreError Unit × List ChatMessage
  -- `messages_.clear()` comes first: nothing of the old cache is kept.
  | some 0, _ => (.error (.runtimeError "Unable to load messages: "), [])
  | _, [] => (.ok (), [])
  | failure, message :: rest =>
    if message.sequence < 1 then
      (.error (.runtimeError "Database contains an invalid sequence"), [])
    else
      -- One successful read fewer is left before the failing one.
      let (result, loaded) := loadMessages (failure.map (· - 1)) rest
      (result, message :: loaded)

/-- The rows left by the pruning `DELETE`. -/
def Database.prune (database : Database) : Database :=
  { database with messages := database.messages.deleteOldest 100 }

/-- `MessageStore::prune_oldest_messages`. -/
def pruneOldestMessages (results : AddResults) (store : MessageStore) :
    Except StoreError Unit × MessageStore :=
  match execute results.prune with
  -- A statement that fails changes nothing.
  | .error error => (.error error, store)
  | .ok () =>
    let database := store.database.prune
    let (result, loaded) := loadMessages results.reload database.rows
    (result, ⟨database, loaded⟩)

/-- One attempt of `add`: a row that was inserted is appended to the cache. -/
def insertAndCache (results : InsertResults) (message : ChatMessage) (store : MessageStore) :
    Except StoreError (Bool × MessageStore) :=
  match insertMessage results message store.database with
  | .error error => .error error
  | .ok (inserted, database) =>
    -- `push_back`, after the transaction was committed.
    .ok (inserted, ⟨database, if inserted then store.messages ++ [message] else store.messages⟩)

/-- `MessageStore::add`: a full database is pruned once, and the insert is tried again. -/
def add (results : AddResults) (message : ChatMessage) (store : MessageStore) :
    Except StoreError Bool × MessageStore :=
  match insertAndCache results.first message store with
  | .ok (inserted, stored) => (.ok inserted, stored)
  | .error (.runtimeError what) => (.error (.runtimeError what), store)
  -- Only this exception is caught; the cases below throw out of `add`.
  | .error .databaseFull =>
    match pruneOldestMessages results store with
    -- The rows may be deleted although the reload failed.
    | (.error error, pruned) => (.error error, pruned)
    | (.ok (), pruned) =>
      match insertAndCache results.second message pruned with
      | .ok (inserted, stored) => (.ok inserted, stored)
      -- A second full database is not pruned again, and the pruning stays.
      | .error error => (.error error, pruned)

/-- `MessageStore::contains`: only a row counts as a hit, so a failing read is a miss. -/
def contains (result : SqliteResult) (messageId : Bytes) (store : MessageStore) : Bool :=
  result == .ok && store.database.rows.any fun message => message.messageId == messageId

/-- `MessageStore::next_sequence`: anything but a row counts as an origin without a mark. -/
def nextSequence (result : SqliteResult) (origin : Bytes) (database : Database) :
    Except StoreError Nat :=
  match result, database.sequences.get? origin with
  | .ok, some last =>
    -- The next number would not fit the signed column.
    if last = maxInt64 then .error (.runtimeError "Stored message sequence is invalid")
    else .ok (last + 1)
  | _, _ => .ok 1

/-- `MessageStore::sequence_summary`, over reads that succeed. -/
def sequenceSummary (database : Database) : List (Bytes × Nat) := database.sequences.entries

/-- The constructor of `MessageStore` on an existing file: the schema is there, the cache is not. -/
def openStore (reload : Option Nat) (database : Database) : Except StoreError MessageStore :=
  match loadMessages reload database.rows with
  | (.ok (), loaded) => .ok ⟨database, loaded⟩
  -- Half a cache is dropped with the store that was being built.
  | (.error error, _) => .error error

/-- A store on a file that was just created. -/
def MessageStore.empty : MessageStore := ⟨Database.empty, []⟩

end LesChat
