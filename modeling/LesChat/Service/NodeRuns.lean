import LesChat.Foundation.Run
import LesChat.Service.MessageServiceLaws

/-! What every action of a node keeps, and which acknowledged messages are stored once and for all. -/

namespace LesChat

open Foundation

/-- What holds of a running service whatever it was asked to do. -/
structure MessageService.Sound (identity : NodeIdentity) (service : MessageService) : Prop where
  /-- The service runs under the identity of its node. -/
  named : service.identity = identity
  /-- The counter is a 64-bit word. -/
  counted : service.nextSequence < 2 ^ 64
  /-- The store is sound. -/
  stored : service.store.Sound

/-- A sound process: without a service only the file is left to be consistent. -/
def Process.Sound (identity : NodeIdentity) : Process → Prop
  | .stopped database => database.Consistent
  | .running service => service.Sound identity

/-- The file of a sound process is consistent. -/
theorem Process.Sound.consistent {identity : NodeIdentity} {process : Process}
    (sound : process.Sound identity) : process.database.Consistent := by
  -- A running service keeps its file sound.
  cases process with
  | stopped database => exact sound
  | running service => exact MessageService.Sound.stored sound |>.consistent

section Operations

variable (library : JsonC) {identity : NodeIdentity} {service : MessageService}

/-- A local call keeps a service sound. -/
theorem MessageService.Sound.createLocal (sound : service.Sound identity) (now : Int64)
    (results : AddResults) (body : Bytes) :
    (createLocal library now results body service).2.Sound identity where
  named := by rw [createLocal_identity, sound.named]
  counted := by
    rw [createLocal_nextSequence]
    -- The counter is reduced to its word whenever it moves on.
    exact Nat.mod_lt _ (by decide)
  stored := by
    rw [createLocal_store]
    exact (add_added _ _ _).sound sound.stored

/-- A replicated message keeps a service sound. -/
theorem MessageService.Sound.ingestReplica (sound : service.Sound identity)
    (lookup : SqliteResult) (results : AddResults) (message : ChatMessage) :
    (ingestReplica library lookup results message service).2.Sound identity where
  named := by rw [ingestReplica_identity, sound.named]
  counted := by rw [ingestReplica_nextSequence]; exact sound.counted
  stored := by
    rw [ingestReplica_store]
    -- A message that is found leaves the store as it is.
    split
    · exact sound.stored
    · exact (add_added _ _ _).sound sound.stored

/-- A synchronized message keeps a service sound. -/
theorem MessageService.Sound.ingestSync (sound : service.Sound identity) (results : AddResults)
    (message : ChatMessage) : (ingestSync library results message service).2.Sound identity where
  named := by rw [ingestSync_identity, sound.named]
  counted := by rw [ingestSync_nextSequence]; exact sound.counted
  stored := by
    -- The store is what an `add` leaves.
    rw [ingestSync_store]
    exact (add_added _ _ _).sound sound.stored

end Operations

/-- A counter that was read at startup is in the range of the database column. -/
theorem nextSequence_le {lookup : SqliteResult} {origin : Bytes} {database : Database} {next : Nat}
    (consistent : database.Consistent)
    (returned : nextSequence lookup origin database = .ok next) :
    1 ≤ next ∧ next ≤ maxInt64 := by
  -- A read that fails counts from one, and a read that succeeds from the mark.
  cases lookup with
  | ok =>
    obtain ⟨next_eq, below⟩ := nextSequence_eq returned
    have bounded := consistent.mark_le origin
    omega
  | full =>
    have first : 1 = next := by simpa [nextSequence] using returned
    simp [← first, maxInt64]
  | error =>
    have first : 1 = next := by simpa [nextSequence] using returned
    simp [← first, maxInt64]

/-- Starting on a consistent file gives a sound process. -/
theorem startProcess_sound (identity : NodeIdentity) (reload : Option Nat) (lookup : SqliteResult)
    {database : Database} (consistent : database.Consistent) :
    (startProcess identity reload lookup database).Sound identity := by
  unfold startProcess
  split
  · -- A service that opened has cached every row.
    rename_i service opened
    obtain ⟨named, stored, reading⟩ := openService_ok opened
    refine ⟨named, ?_, ?_⟩
    · have bounded := (nextSequence_le consistent reading).2
      simp only [maxInt64] at bounded
      omega
    · rw [stored]
      exact ⟨consistent, List.Sublist.refl _⟩
  · exact consistent

/-- A node on a new file is sound. -/
theorem Node.initial_sound (identity : NodeIdentity) :
    (Node.initial identity).process.Sound identity :=
  -- The counter begins at one, on an empty store.
  ⟨rfl, show 1 < 2 ^ 64 by decide, MessageStore.sound_empty⟩

end LesChat
