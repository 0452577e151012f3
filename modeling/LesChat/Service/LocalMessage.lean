import LesChat.Message.Encoding
import LesChat.Service.MessageService

/-! The messages a node builds itself: their identifiers, their validity and their size. -/

namespace LesChat

open Foundation

/-- Different sequences of one node have different identifiers. -/
theorem messageId_injective (nodeId : Bytes) {left right : Nat}
    (same : nodeId ++ 0x3A :: decimal left = nodeId ++ 0x3A :: decimal right) : left = right := by
  -- After the common prefix, the numerals agree.
  have numerals := List.append_cancel_left same
  exact decimal_injective (List.cons.inj numerals).2

/-- A colon is not a character of a node identifier, so an identifier names its node. -/
theorem messageId_nodeId {left right : Bytes} (leftValid : isValidNodeId left = true)
    (rightValid : isValidNodeId right = true) {first second : Nat}
    (same : left ++ 0x3A :: decimal first = right ++ 0x3A :: decimal second) : left = right := by
  -- Both node identifiers end at the first colon.
  have upTo : ∀ {nodeId : Bytes} (sequence : Nat), isValidNodeId nodeId = true →
      (nodeId ++ 0x3A :: decimal sequence).takeWhile (· != 0x3A) = nodeId := by
    intro nodeId sequence valid
    have permitted : ∀ byte ∈ nodeId, (byte != 0x3A) = true := by
      intro byte member
      simpa using (isNodeIdByte_ordinary (isValidNodeId_bytes valid member)).2.1
    simp [List.takeWhile_append_of_pos permitted]
  have prefixes := congrArg (List.takeWhile (· != 0x3A)) same
  rwa [upTo first leftValid, upTo second rightValid] at prefixes

/-- A digit is an ordinary byte. -/
private theorem ordinary_of_isDigit {byte : UInt8} (digit : isDigit byte = true) :
    Ordinary byte ∧ byte ≠ 0 := by
  -- The digits lie above the control bytes, and none is escaped.
  rw [isDigit_iff] at digit
  simp only [Ordinary, isSpecial, Bool.or_eq_false_iff, beq_eq_false_iff_ne, ne_eq,
    ← UInt8.toNat_inj, UInt8.lt_iff_toNat_lt]
  simp
  omega

/-- A permitted byte of a node identifier is an ordinary byte. -/
private theorem ordinary_of_isNodeIdByte {byte : UInt8} (permitted : isNodeIdByte byte = true) :
    Ordinary byte := by
  -- What an identifier permits excludes every byte that is escaped.
  obtain ⟨_, _, low, quote, backslash, slash⟩ := isNodeIdByte_ordinary permitted
  exact ⟨by simp [isSpecial, quote, backslash, slash], by
    simpa [UInt8.lt_iff_toNat_lt, UInt8.le_iff_toNat_le] using low⟩

section Local

variable {identity : NodeIdentity}

/-- Every byte of a local identifier is ordinary, and none of them is a NUL. -/
theorem messageId_ordinary (accepted : identity.Accepted) {sequence : Nat} {byte : UInt8}
    (member : byte ∈ identity.nodeId ++ 0x3A :: decimal sequence) : Ordinary byte ∧ byte ≠ 0 := by
  -- An identifier is made of a node, a colon and a numeral.
  have valid := ((checkIdentity_eq_ok identity).mp accepted.checked).1
  rcases List.mem_append.mp member with inNode | inRest
  · have permitted := isValidNodeId_bytes valid inNode
    exact ⟨ordinary_of_isNodeIdByte permitted, (isNodeIdByte_ordinary permitted).1⟩
  · rcases List.mem_cons.mp inRest with rfl | inNumeral
    · decide
    · exact ordinary_of_isDigit (isDigit_of_mem_decimal inNumeral)

/-- The short texts of a local message are C strings. -/
theorem localMessage_terminated (accepted : identity.Accepted) (sequence : Nat) (now : Int64)
    (body : Bytes) :
    0 ∉ (localMessage identity sequence now body).messageId ∧
      0 ∉ (localMessage identity sequence now body).origin ∧
      0 ∉ (localMessage identity sequence now body).callsign := by
  -- Node and identifier are ordinary, and the callsign was an argument of the command line.
  have valid := ((checkIdentity_eq_ok identity).mp accepted.checked).1
  exact ⟨fun member => (messageId_ordinary accepted member).2 rfl,
    isValidNodeId_noNul valid, accepted.terminated⟩

/-- A local message in range with an accepted body is valid. -/
theorem localMessage_valid (accepted : identity.Accepted) {sequence : Nat} (low : 1 ≤ sequence)
    (high : sequence ≤ maxInt64) (now : Int64) {body : Bytes} (acceptedBody : AcceptedBody body) :
    (localMessage identity sequence now body).Valid := by
  obtain ⟨valid, named, short⟩ := (checkIdentity_eq_ok identity).mp accepted.checked
  have node := isValidNodeId_length valid
  -- A numeral in range has at most nineteen digits.
  have digits : (decimal sequence).length ≤ 19 :=
    decimal_length_le (by decide) (by simp only [maxInt64] at high; omega)
  exact {
    sequence_pos := low
    sequence_le := high
    messageId_length := by
      simp only [localMessage, List.length_append, List.length_cons]
      omega
    origin_length := node
    callsign_length := ⟨named, short⟩
    channel_eq := rfl
    body_length := acceptedBody.length
    body_utf8 := acceptedBody.utf8 }

/-- A local message with a positive sequence in range survives encoding and parsing. -/
theorem parseMessage_localMessage (accepted : identity.Accepted) {sequence : Nat}
    (low : 1 ≤ sequence) (high : sequence ≤ maxInt64) (now : Int64) {body : Bytes}
    (acceptedBody : AcceptedBody body) :
    parseMessage (messageToJson (localMessage identity sequence now body)) =
      some (localMessage identity sequence now body) := by
  -- A local message is valid, and its texts have no NUL byte.
  obtain ⟨idTerminated, originTerminated, callsignTerminated⟩ :=
    localMessage_terminated accepted sequence now body
  exact parseMessage_messageToJson (localMessage_valid accepted low high now acceptedBody)
    idTerminated originTerminated callsignTerminated

/-- A local message that was parsed back had a positive sequence. -/
theorem localMessage_sequence_pos {sequence : Nat} (inRange : sequence ≤ maxInt64) {now : Int64}
    {body : Bytes} {parsed : ChatMessage}
    (read : parseMessage (messageToJson (localMessage identity sequence now body)) = some parsed) :
    1 ≤ sequence := by
  -- The sequence of the parsed message is the one that was sent, and the parser refuses zero.
  obtain ⟨value, found, same⟩ := parseMessage_sequence read
  have positive := (parseMessage_valid read).sequence_pos
  have sent : (messageToJson (localMessage identity sequence now body)).get? (ascii "sequence") =
      some (.int (Int64.ofNat sequence).toInt) := by rw [messageToJson_eq]; rfl
  rw [sent, Option.some.injEq] at found
  subst found
  rw [same, jsonGetInt64, Int64.ofIntClamp_toInt, toInt_ofNat_of_le inRange] at positive
  omega

/-- The size of a local message: the callsign and the body are all that can need escaping. -/
def localMessageSize (library : JsonC) (identity : NodeIdentity) (sequence : Nat) (now : Int64)
    (body : Bytes) : Nat :=
  97 + 2 * identity.nodeId.length + 2 * (decimal sequence).length +
    (decimalInt now.toInt).length + Json.escapedLength library.escape identity.callsign +
    Json.escapedLength library.escape body

/-- The text of a local message in range has the size of a local message. -/
theorem messageSize_localMessage {library : JsonC} (lawful : library.Lawful)
    (accepted : identity.Accepted) {sequence : Nat} (inRange : sequence ≤ maxInt64) (now : Int64)
    (body : Bytes) :
    messageSize library (localMessage identity sequence now body) =
      localMessageSize library identity sequence now body := by
  have valid := ((checkIdentity_eq_ok identity).mp accepted.checked).1
  obtain ⟨idTerminated, originTerminated, callsignTerminated⟩ :=
    localMessage_terminated accepted sequence now body
  -- Identifier, origin and channel are written as they are.
  have messageId : Json.escapedLength library.escape (identity.nodeId ++ 0x3A :: decimal sequence) =
      identity.nodeId.length + (decimal sequence).length + 1 := by
    rw [lawful.escapedLength_ordinary fun byte member =>
      (messageId_ordinary accepted member).1]
    simp only [List.length_append, List.length_cons]
    omega
  have origin : Json.escapedLength library.escape identity.nodeId = identity.nodeId.length :=
    lawful.escapedLength_ordinary fun byte member =>
      ordinary_of_isNodeIdByte (isValidNodeId_bytes valid member)
  have channel : Json.escapedLength library.escape defaultChannel = 9 :=
    lawful.escapedLength_ascii (by decide +kernel)
  have channelTerminated : cString defaultChannel = defaultChannel := by decide +kernel
  simp only [messageSize, cString_of_noNul idTerminated, cString_of_noNul originTerminated,
    cString_of_noNul callsignTerminated]
  simp only [localMessage, channelTerminated, decimalInt_ofNat inRange, messageId, origin, channel,
    localMessageSize]
  omega

end Local

end LesChat
