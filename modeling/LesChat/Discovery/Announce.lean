import LesChat.Discovery.DiscoveryService
import LesChat.Message.Encoding

/-! The announcements a node sends, and that every other node takes them for what they say. -/

namespace LesChat

open Foundation

/-- The version every announcement carries. -/
def appVersion : Bytes := ascii "0.1.18"

/-- The members `send_announce` adds, of which the last two are an authority's. -/
def announceMembers (identity : NodeIdentity) (httpPort : Nat) (mode : TimeSyncMode)
    (nowMs : Int) : List (Bytes × Json) :=
  [(ascii "protocol", .int protocolVersion),
    (ascii "type", .string (ascii "announce")),
    (ascii "node_id", .string (cString identity.nodeId)),
    (ascii "callsign", .string (cString identity.callsign)),
    (ascii "http_port", .int httpPort),
    (ascii "app_version", .string appVersion)] ++
  -- Only an authority announces its time.
  if mode = .authority then
    [(ascii "time_authority", .bool true), (ascii "time_ms", .int nowMs)]
  else []

/-- The object `send_announce` sends. -/
def announceJson (identity : NodeIdentity) (httpPort : Nat) (mode : TimeSyncMode) (nowMs : Int) :
    Json :=
  jsonObject (announceMembers identity httpPort mode nowMs)

/-- The announcement such an object stands for. -/
def announcement (identity : NodeIdentity) (httpPort : Nat) (mode : TimeSyncMode) (nowMs : Int) :
    Announcement where
  nodeId := identity.nodeId
  callsign := identity.callsign
  appVersion := appVersion
  httpPort := httpPort
  authorityTimeMs := if mode = .authority then some (Int64.ofIntClamp nowMs) else none

/-- The names of the members. -/
private def announceNames (mode : TimeSyncMode) : List Bytes :=
  [ascii "protocol", ascii "type", ascii "node_id", ascii "callsign", ascii "http_port",
    ascii "app_version"] ++
  if mode = .authority then [ascii "time_authority", ascii "time_ms"] else []

/-- The names are distinct C strings. -/
private theorem announceNames_distinct (mode : TimeSyncMode) :
    (announceNames mode).Nodup ∧ ∀ name ∈ announceNames mode, 0 ∉ name := by
  -- Three closed lists of names, one for each mode.
  cases mode with
  | off => decide +kernel
  | authority => decide +kernel
  | client => decide +kernel

section Announce

variable (identity : NodeIdentity) (httpPort : Nat) (mode : TimeSyncMode) (nowMs : Int)

/-- Every announcement has the same names. -/
private theorem map_fst_announceMembers :
    (announceMembers identity httpPort mode nowMs).map Prod.fst = announceNames mode := by
  -- One case for each mode, since only an authority announces its time.
  cases mode <;> rfl

/-- The object has exactly the members that were added. -/
theorem announceJson_eq : announceJson identity httpPort mode nowMs =
    .object (announceMembers identity httpPort mode nowMs) := by
  -- The names are distinct, so no member replaces an earlier one.
  apply jsonObject_of_nodup
  rw [map_fst_announceMembers]
  exact (announceNames_distinct mode).1

variable {httpPort nowMs}

/-- A port and a time in the range of a word make an announcement that can be read back. -/
theorem plain_announceJson (small : httpPort ≤ 65535) (low : -2 ^ 63 ≤ nowMs)
    (high : nowMs < 2 ^ 63) : Json.Plain 31 (announceJson identity httpPort mode nowMs) := by
  rw [announceJson_eq]
  have names := map_fst_announceMembers identity httpPort mode nowMs
  refine .object ?_ (names ▸ (announceNames_distinct mode).1) ?_
  · -- Integers are words, and strings may hold anything.
    intro member inMembers
    rcases List.mem_append.mp inMembers with common | timed
    · simp only [List.mem_cons, List.not_mem_nil, or_false] at common
      rcases common with rfl | rfl | rfl | rfl | rfl | rfl
      · exact .int 30 (by decide) (by decide)
      · exact .string 30 _
      · exact .string 30 _
      · exact .string 30 _
      · exact .int 30 (by omega) (by omega)
      · exact .string 30 _
    · split at timed
      · simp only [List.mem_cons, List.not_mem_nil, or_false] at timed
        rcases timed with rfl | rfl
        · exact .bool 30 true
        · exact .int 30 low high
      · simp at timed
  · intro member inMembers
    exact (announceNames_distinct mode).2 member.1 (names ▸ List.mem_map_of_mem inMembers)

end Announce

/-- Escaping makes a text at most six times as long. -/
theorem JsonC.Lawful.escapedLength_le {library : JsonC} (lawful : library.Lawful) (text : Bytes) :
    Json.escapedLength library.escape text ≤ 6 * text.length := by
  -- The induction follows the text, each byte of which takes at most six.
  induction text with
  | nil => exact Nat.le_refl 0
  | cons byte rest ih =>
    have head := (lawful.escape_length byte).2
    simp only [Json.escapedLength, List.map_cons, List.sum_cons, List.length_cons] at ih ⊢
    omega

/-- The numeral of a word has at most twenty bytes. -/
theorem decimalInt_length_le {value : Int} (low : -2 ^ 63 ≤ value) (high : value < 2 ^ 63) :
    (decimalInt value).length ≤ 20 := by
  cases value with
  | ofNat value =>
    have digits : (decimal value).length ≤ 19 :=
      decimal_length_le (by decide) (by simp only [Int.ofNat_eq_natCast] at high; omega)
    simp only [decimalInt]
    omega
  | negSucc value =>
    -- The sign takes one byte more.
    have digits : (decimal (value + 1)).length ≤ 19 :=
      decimal_length_le (by decide) (by omega)
    simp only [decimalInt, List.length_cons]
    omega

/-- No announcement is longer than the datagrams that are looked at. -/
theorem announce_length_le {library : JsonC} (lawful : library.Lawful) {identity : NodeIdentity}
    (accepted : identity.Accepted) {httpPort : Nat} (small : httpPort ≤ 65535)
    (mode : TimeSyncMode) {nowMs : Int} (low : -2 ^ 63 ≤ nowMs) (high : nowMs < 2 ^ 63) :
    (serializeJson library (announceJson identity httpPort mode nowMs)).length ≤
      maxDatagramBytes := by
  obtain ⟨valid, _, named⟩ := (checkIdentity_eq_ok identity).mp accepted.checked
  have node := Nat.le_trans (cString_length_le identity.nodeId) (isValidNodeId_length valid).2
  have callsign := Nat.le_trans (cString_length_le identity.callsign) named
  have escaped := lawful.escapedLength_le
  -- Each text is at most six times its length, and each numeral at most twenty bytes.
  have nodeText := escaped (cString identity.nodeId)
  have callsignText := escaped (cString identity.callsign)
  have version := decimalInt_length_le (show -2 ^ 63 ≤ protocolVersion by decide) (by decide)
  have port := decimalInt_length_le (show -2 ^ 63 ≤ (httpPort : Int) by omega) (by omega)
  have time := decimalInt_length_le low high
  have fixed : ∀ text ∈ [ascii "protocol", ascii "type", ascii "node_id", ascii "callsign",
      ascii "http_port", ascii "app_version", ascii "time_authority", ascii "time_ms",
      ascii "announce", appVersion], Json.escapedLength library.escape text ≤ 84 := by
    intro text member
    have short : text.length ≤ 14 := by
      revert text
      decide +kernel
    have bound := escaped text
    omega
  simp only [List.forall_mem_cons, List.not_mem_nil, false_implies, implies_true, and_true] at fixed
  rw [serializeJson, announceJson_eq, Json.plainText_object_length, announceMembers]
  split
  · simp only [List.cons_append, List.nil_append, List.map_cons, List.map_nil, List.sum_cons,
      List.sum_nil, List.length_cons, List.length_nil, Json.plainText, Json.quoted_length]
    have bool : (ascii "true").length = 4 := by decide +kernel
    simp only [maxDatagramBytes]
    omega
  · simp only [List.append_nil, List.map_cons, List.map_nil, List.sum_cons,
      List.sum_nil, List.length_cons, List.length_nil, Json.plainText, Json.quoted_length]
    simp only [maxDatagramBytes]
    omega

/-- An announcement sent by one node is valid for every other, and says what the node is. -/
theorem validPayload_announce {library : JsonC} (lawful : library.Lawful)
    {identity : NodeIdentity} (accepted : identity.Accepted) {httpPort : Nat}
    (inRange : 1 ≤ httpPort ∧ httpPort ≤ 65535) (mode : TimeSyncMode) {nowMs : Int}
    (low : -2 ^ 63 ≤ nowMs) (high : nowMs < 2 ^ 63) {ownId : Bytes}
    (other : identity.nodeId ≠ ownId) :
    ValidPayload library ownId (serializeJson library (announceJson identity httpPort mode nowMs))
      (announcement identity httpPort mode nowMs) := by
  have valid := ((checkIdentity_eq_ok identity).mp accepted.checked).1
  have nodeText := cString_of_noNul (isValidNodeId_noNul valid)
  have callsignText := cString_of_noNul accepted.terminated
  have port : (jsonGetInt64 (.int (httpPort : Int))).toInt = httpPort := by
    have word : ((Int64.ofNat httpPort).toInt : Int) = httpPort :=
      Int64.toInt_ofNat_of_lt (by omega)
    rw [jsonGetInt64, ← word, Int64.ofIntClamp_toInt]
  refine ⟨announceJson identity httpPort mode nowMs,
    announce_length_le lawful accepted inRange.2 mode low high,
    lawful.parse_plainText _ (by rw [announceJson_eq]; rfl) (plain_announceJson identity mode inRange.2 low high), ?_, ?_⟩
  · rw [announceJson_eq]
    rfl
  · rw [announceJson_eq, announceMembers, nodeText, callsignText]
    -- Each lookup finds its member behind those with other names.
    exact {
      protocol := ⟨protocolVersion, rfl, rfl⟩
      type := rfl
      nodeId := rfl
      nonempty := List.length_pos_iff.mp (isValidNodeId_length valid).1
      other := other
      callsign := rfl
      appVersion := rfl
      httpPort := ⟨httpPort, rfl, port⟩
      inRange := inRange
      authority := by cases mode <;> rfl }

end LesChat
