import LesChat.Foundation.Bytes

/-! Protocol constants, chat messages, and the node identities the daemon starts with. -/

namespace LesChat

open Foundation

/-- The version every sync document and announcement carries. -/
def protocolVersion : Int := 1

/-- The only channel there is. -/
def defaultChannel : Bytes := ascii "les-manet"

/-- The longest body a message may have. -/
def maxMessageBytes : Nat := 2048

/-- The longest body of an ordinary request. -/
def maxRequestBytes : Nat := 4096

/-- The longest body of a batch of synchronized messages. -/
def maxSyncRequestBytes : Nat := 128 * 1024

/-- The most messages one batch carries. -/
def maxSyncBatchMessages : Nat := 50

/-- `std::numeric_limits<std::int64_t>::max()`, the largest sequence a database column holds. -/
def maxInt64 : Nat := 2 ^ 63 - 1

/-- A number in the range of a column survives the cast to a signed word. -/
theorem toInt_ofNat_of_le {value : Nat} (inRange : value ≤ maxInt64) :
    (Int64.ofNat value).toInt = value := by
  -- The number is below the sign of the word.
  apply Int64.toInt_ofNat_of_lt
  simp only [maxInt64] at inRange
  omega

/-- A chat message, with its unsigned 64-bit sequence as a natural number. -/
structure ChatMessage where
  /-- The number the origin gave the message. -/
  sequence : Nat
  /-- The identifier of the message, unique in a store. -/
  messageId : Bytes
  /-- The node the message was created on. -/
  origin : Bytes
  /-- The display name of its author. -/
  callsign : Bytes
  /-- The channel it was sent to. -/
  channel : Bytes
  /-- The origin's clock when the message was created. -/
  createdAtMs : Int64
  /-- The text of the message. -/
  body : Bytes
deriving DecidableEq

/-- The identity a node is started with. -/
structure NodeIdentity where
  /-- The identifier messages of this node carry as their origin. -/
  nodeId : Bytes
  /-- The display name of its user. -/
  callsign : Bytes
deriving DecidableEq

/-- `std::isalnum` in the C locale. -/
def isAlnum (byte : UInt8) : Bool :=
  -- Digits, upper-case letters and lower-case letters.
  isDigit byte || (0x41 ≤ byte && byte ≤ 0x5A) || (0x61 ≤ byte && byte ≤ 0x7A)

/-- The characters a node identifier may consist of. -/
def isNodeIdByte (byte : UInt8) : Bool :=
  -- Letters and digits, the hyphen, the underscore and the period.
  isAlnum byte || byte == 0x2D || byte == 0x5F || byte == 0x2E

/-- Whether a text can identify a node. -/
def isValidNodeId (value : Bytes) : Bool :=
  if value.isEmpty || value.length > 64 then false else value.all isNodeIdByte

/-- The checks a callsign has to pass. -/
def validateCallsign (callsign : Bytes) : Except String Unit :=
  if callsign.isEmpty then .error "Callsign cannot be empty"
  else if callsign.length > 64 then .error "Callsign cannot exceed 64 UTF-8 bytes"
  else .ok ()

/-- The identity checks `main` makes before it starts the application. -/
def checkIdentity (identity : NodeIdentity) : Except String Unit :=
  if !isValidNodeId identity.nodeId then
    .error "Node ID must contain only letters, numbers, period, underscore or hyphen"
  else validateCallsign identity.callsign

/--
An identity the daemon runs under.

Both fields come from the command line, so the callsign is a C string.
-/
structure NodeIdentity.Accepted (identity : NodeIdentity) : Prop where
  /-- The checks of `main` passed. -/
  checked : checkIdentity identity = .ok ()
  /-- A command-line argument ends at its first NUL byte. -/
  terminated : 0 ∉ identity.callsign

/-- A callsign passes exactly when it has between 1 and 64 bytes. -/
theorem validateCallsign_eq_ok (callsign : Bytes) :
    validateCallsign callsign = .ok () ↔ 0 < callsign.length ∧ callsign.length ≤ 64 := by
  -- Each bound has a test of its own.
  unfold validateCallsign
  split
  · rename_i empty
    simp [List.isEmpty_iff.mp empty]
  · rename_i nonempty
    have positive : 0 < callsign.length := by
      rw [List.isEmpty_iff] at nonempty
      exact List.length_pos_iff.mpr nonempty
    split <;> simp <;> omega

/-- The checks pass exactly on a valid identifier and a callsign of 1 to 64 bytes. -/
theorem checkIdentity_eq_ok (identity : NodeIdentity) :
    checkIdentity identity = .ok () ↔
      isValidNodeId identity.nodeId = true ∧
        0 < identity.callsign.length ∧ identity.callsign.length ≤ 64 := by
  -- The identifier is tested first, and only then the callsign.
  rw [← validateCallsign_eq_ok, checkIdentity]
  cases valid : isValidNodeId identity.nodeId <;> simp

/-- A valid identifier is neither empty nor longer than 64 bytes. -/
theorem isValidNodeId_length {value : Bytes} (valid : isValidNodeId value = true) :
    0 < value.length ∧ value.length ≤ 64 := by
  -- Both bounds are tested before the characters are.
  simp only [isValidNodeId] at valid
  split at valid
  · simp at valid
  · rename_i sized
    simp only [Bool.or_eq_true, List.isEmpty_iff, decide_eq_true_eq, not_or, Nat.not_lt] at sized
    exact ⟨List.length_pos_iff.mpr sized.1, sized.2⟩

/-- Every byte of a valid identifier is one of the permitted characters. -/
theorem isValidNodeId_bytes {value : Bytes} (valid : isValidNodeId value = true) {byte : UInt8}
    (member : byte ∈ value) : isNodeIdByte byte = true := by
  -- An empty or long identifier is refused, and of any other each byte is checked.
  simp only [isValidNodeId] at valid
  split at valid
  · simp at valid
  · exact List.all_eq_true.mp valid byte member

/-- No permitted character is a NUL byte, a colon, or a byte the JSON serializer escapes. -/
theorem isNodeIdByte_ordinary {byte : UInt8} (permitted : isNodeIdByte byte = true) :
    byte ≠ 0 ∧ byte ≠ 0x3A ∧ 0x20 ≤ byte ∧ byte ≠ 0x22 ∧ byte ≠ 0x5C ∧ byte ≠ 0x2F := by
  -- The permitted ranges lie above the space and avoid the excluded codes.
  simp only [isNodeIdByte, isAlnum, isDigit, Bool.or_eq_true, Bool.and_eq_true, decide_eq_true_eq,
    beq_iff_eq, UInt8.le_iff_toNat_le] at permitted
  have code : byte.toNat < 256 := byte.toNat_lt
  refine ⟨?_, ?_, ?_, ?_, ?_, ?_⟩ <;>
    simp only [ne_eq, ← UInt8.toNat_inj, UInt8.le_iff_toNat_le] at permitted ⊢ <;>
    simp at permitted ⊢ <;> omega

/-- A valid identifier is a C string. -/
theorem isValidNodeId_noNul {value : Bytes} (valid : isValidNodeId value = true) : 0 ∉ value :=
  -- NUL is none of the bytes an identifier may have.
  fun member => (isNodeIdByte_ordinary (isValidNodeId_bytes valid member)).1 rfl

end LesChat
