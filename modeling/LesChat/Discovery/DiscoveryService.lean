import LesChat.Discovery.Clock
import LesChat.Discovery.PeerRegistry
import LesChat.Foundation.Run
import LesChat.Message.JsonC
import LesChat.Message.Protocol
import Mathlib.Data.Option.Basic

/-! The discovery service: which datagrams are announcements, and what receiving one does. -/

namespace LesChat

open Foundation

/-- How a node takes part in time synchronization. -/
inductive TimeSyncMode where
  /-- Not at all. -/
  | off
  /-- It announces its own time. -/
  | authority
  /-- It follows an authority. -/
  | client
deriving DecidableEq

/-- The longest datagram that is looked at. -/
def maxDatagramBytes : Nat := 4096

/-- An IPv4 address. -/
structure Ipv4 where
  /-- The first byte. -/
  first : UInt8
  /-- The second byte. -/
  second : UInt8
  /-- The third byte. -/
  third : UInt8
  /-- The fourth byte. -/
  fourth : UInt8

/-- `inet_ntop` into a buffer that holds every such text: four numerals with periods between. -/
def inetNtop (address : Ipv4) : Bytes :=
  decimal address.first.toNat ++ 0x2E :: decimal address.second.toNat ++
    0x2E :: decimal address.third.toNat ++ 0x2E :: decimal address.fourth.toNat

/-- A datagram as it was received. -/
structure Datagram where
  /-- Its bytes. -/
  payload : Bytes
  /-- The address it came from. -/
  sender : Ipv4

/-- What a valid announcement says. -/
structure Announcement where
  /-- The identifier of the node. -/
  nodeId : Bytes
  /-- The display name of its user. -/
  callsign : Bytes
  /-- The version it runs. -/
  appVersion : Bytes
  /-- The port it serves requests on. -/
  httpPort : Nat
  /-- Its time, when it is a time authority. -/
  authorityTimeMs : Option Int64
deriving DecidableEq

/-- The object a datagram holds, if it is exactly one and not too long. -/
def readDatagram (library : JsonC) (payload : Bytes) : Option Json :=
  if payload.length > maxDatagramBytes then none
  else
    let parsed := parseJson library payload
    -- An incomplete object is an error of the parser; trailing bytes end the parse early.
    if !parsed.success || parsed.parseEnd != payload.length || !jsonIsObject parsed.object then none
    else some parsed.object

/-- The time an authority announces: absent from other nodes, and required of an authority. -/
def authorityTime (object : Json) : Option (Option Int64) :=
  match object.get? (ascii "time_authority") with
  | some (.bool true) =>
    match object.get? (ascii "time_ms") with
    -- The time may be any integer: whether it is positive is checked by `synchronize_time`.
    | some (.int value) => some (some (jsonGetInt64 (.int value)))
    | _ => none
  -- A member of any other type or value makes the node no authority.
  | _ => some none

/-- The checks `receive_announcements` makes on the members of an object, in their order. -/
def parseAnnouncement (ownId : Bytes) (object : Json) : Option Announcement := do
  let protocol ← (object.get? (ascii "protocol")).filter jsonIsInt
  guard (jsonGetInt protocol = protocolVersion)
  let type ← jsonGetString object (ascii "type")
  guard (type = ascii "announce")
  let nodeId ← jsonGetString object (ascii "node_id")
  guard (nodeId ≠ [])
  let callsign ← jsonGetString object (ascii "callsign")
  let appVersion ← jsonGetString object (ascii "app_version")
  let port ← (object.get? (ascii "http_port")).filter jsonIsInt
  let portValue := (jsonGetInt64 port).toInt
  -- The bounds are checked on 64 bits, before the value is cast to a port.
  guard (1 ≤ portValue ∧ portValue ≤ 65535)
  -- A node hears its own announcements too.
  guard (nodeId ≠ ownId)
  let authorityTimeMs ← authorityTime object
  return { nodeId, callsign, appVersion, httpPort := portValue.toNat, authorityTimeMs }

/-- The announcement a datagram holds, if it is a valid one of another node. -/
def decodeAnnouncement (library : JsonC) (ownId payload : Bytes) : Option Announcement :=
  (readDatagram library payload).bind (parseAnnouncement ownId)

/-- The discovery service of a node, with the registry it fills and the clocks it reads and sets. -/
structure DiscoveryService where
  /-- The identity of this node. -/
  identity : NodeIdentity
  /-- The configured mode. -/
  timeSyncMode : TimeSyncMode
  /-- The configured authority, empty when there is none. -/
  timeAuthorityId : Bytes
  /-- The peer registry. -/
  registry : PeerRegistry
  /-- The clocks. -/
  clock : Clock

/-- What an announcement makes known of its node. -/
def Announcement.peer (announcement : Announcement) (sender : Ipv4) (nowMs : Int) : Peer where
  nodeId := announcement.nodeId
  callsign := announcement.callsign
  address := inetNtop sender
  httpPort := announcement.httpPort
  appVersion := announcement.appVersion
  lastSeenMs := nowMs

/-- Whether the time an announcement carries is looked at. -/
def DiscoveryService.follows (service : DiscoveryService) (announcement : Announcement) : Prop :=
  service.timeSyncMode = .client ∧
    (service.timeAuthorityId = [] ∨ service.timeAuthorityId = announcement.nodeId)

/-- Whether a node is followed can be computed. -/
instance (service : DiscoveryService) (announcement : Announcement) :
    Decidable (service.follows announcement) := inferInstanceAs (Decidable (_ ∧ _))

/-- The clocks after an announcement was looked at. -/
def clockAfter (settable : Bool) (announcement : Announcement) (service : DiscoveryService) :
    Clock :=
  match announcement.authorityTimeMs with
  | some timeMs =>
    -- Without a configured identifier every authority is followed.
    if service.follows announcement then synchronizeTime settable timeMs.toInt service.clock
    else service.clock
  | none => service.clock

/-- One turn of `receive_announcements`, given whether the system lets its clock be set. -/
def receiveDatagram (library : JsonC) (settable : Bool) (datagram : Datagram)
    (service : DiscoveryService) : DiscoveryService :=
  match decodeAnnouncement library service.identity.nodeId datagram.payload with
  -- `continue`: the next datagram is looked at.
  | none => service
  | some announcement =>
    -- The clocks are set first, and the peer is registered by the new time.
    let clock := clockAfter settable announcement service
    { service with
      clock
      -- The clock is read again, so the entry is stamped by the time that was just set.
      registry := service.registry.update
        (announcement.peer datagram.sender (currentTimeMs clock)) }

/-- One thing that happens to the discovery service. -/
inductive DiscoveryAction where
  /-- A datagram is received. -/
  | receive (datagram : Datagram) (settable : Bool)
  /-- Real time passes. -/
  | elapse (elapsedMs : Nat)

/-- The service after one action. -/
def discoveryStep (library : JsonC) (service : DiscoveryService) :
    DiscoveryAction → DiscoveryService
  | .receive datagram settable => receiveDatagram library settable datagram service
  | .elapse elapsedMs => { service with clock := service.clock.elapse elapsedMs }

/-- What the checks on the members of an object amount to. -/
structure Announces (ownId : Bytes) (object : Json) (announcement : Announcement) : Prop where
  /-- The protocol is this one. -/
  protocol : ∃ value, object.get? (ascii "protocol") = some (.int value) ∧
    jsonGetInt (.int value) = protocolVersion
  /-- The document is an announcement. -/
  type : object.get? (ascii "type") = some (.string (ascii "announce"))
  /-- The node names itself. -/
  nodeId : object.get? (ascii "node_id") = some (.string announcement.nodeId)
  /-- Its identifier is not empty. -/
  nonempty : announcement.nodeId ≠ []
  /-- It is another node. -/
  other : announcement.nodeId ≠ ownId
  /-- It has a callsign. -/
  callsign : object.get? (ascii "callsign") = some (.string announcement.callsign)
  /-- It has a version. -/
  appVersion : object.get? (ascii "app_version") = some (.string announcement.appVersion)
  /-- It has a port. -/
  httpPort : ∃ value, object.get? (ascii "http_port") = some (.int value) ∧
    (jsonGetInt64 (.int value)).toInt = announcement.httpPort
  /-- The port is one that can be connected to. -/
  inRange : 1 ≤ announcement.httpPort ∧ announcement.httpPort ≤ 65535
  /-- It is no authority, or an authority with a time. -/
  authority : authorityTime object = some announcement.authorityTimeMs

/-- A string member is found exactly under its name. -/
theorem jsonGetString_eq_some (object : Json) (name text : Bytes) :
    jsonGetString object name = some text ↔ object.get? name = some (.string text) := by
  -- A member of another kind counts as absent.
  unfold jsonGetString
  split <;> simp_all

/-- An integer member is found exactly under its name. -/
theorem filter_jsonIsInt_eq_some (object : Json) (name : Bytes) (found : Json) :
    (object.get? name).filter jsonIsInt = some found ↔
      ∃ value, object.get? name = some (.int value) ∧ found = .int value := by
  -- Of the values that are read, only integers pass the filter.
  rw [Option.filter_eq_some_iff]
  constructor
  · intro passed
    cases found with
    | int value => exact ⟨value, passed.1, rfl⟩
    | _ => simp [jsonIsInt] at passed
  · intro member
    obtain ⟨value, present, rfl⟩ := member
    exact ⟨present, rfl⟩

/-- An object is taken for an announcement exactly when every check passes. -/
theorem parseAnnouncement_eq_some (ownId : Bytes) (object : Json) (announcement : Announcement) :
    parseAnnouncement ownId object = some announcement ↔ Announces ownId object announcement := by
  -- The chain of checks computes exactly when each of them passes.
  simp only [parseAnnouncement, Option.bind_eq_bind, Option.bind_eq_some_iff, Option.guard_eq_some',
    filter_jsonIsInt_eq_some, jsonGetString_eq_some]
  constructor
  · intro checked
    obtain ⟨_, ⟨protocol, protocolFound, rfl⟩, _, isProtocol, type, typeFound, _, isType, nodeId,
      nodeFound, _, nonempty, callsign, callsignFound, appVersion, versionFound, _,
      ⟨port, portFound, rfl⟩, _, inRange, _, other, authorityTimeMs, authority, built⟩ := checked
    simp only [pure, Option.some.injEq] at built
    subst built
    exact {
      protocol := ⟨protocol, protocolFound, isProtocol⟩
      type := isType ▸ typeFound
      nodeId := nodeFound
      nonempty := nonempty
      other := other
      callsign := callsignFound
      appVersion := versionFound
      httpPort := ⟨port, portFound, by simp only []; omega⟩
      inRange := by simp only []; omega
      authority := authority }
  · intro announces
    obtain ⟨protocol, protocolFound, isProtocol⟩ := announces.protocol
    obtain ⟨port, portFound, isPort⟩ := announces.httpPort
    have inRange := announces.inRange
    refine ⟨_, ⟨protocol, protocolFound, rfl⟩, (), isProtocol, _, announces.type, (), rfl, _,
      announces.nodeId, (), announces.nonempty, _, announces.callsign, _, announces.appVersion, _,
      ⟨port, portFound, rfl⟩, (), by omega, (), announces.other, _, announces.authority, ?_⟩
    simp only [pure, isPort, Int.toNat_natCast]

/-- A datagram is taken for an object exactly when it is short enough and holds one and no more. -/
theorem readDatagram_eq_some (library : JsonC) (payload : Bytes) (object : Json) :
    readDatagram library payload = some object ↔
      payload.length ≤ maxDatagramBytes ∧
        parseJson library payload = ⟨object, true, payload.length⟩ ∧ jsonIsObject object = true := by
  unfold readDatagram
  by_cases long : payload.length > maxDatagramBytes
  · simp [long, Nat.not_le.mpr long]
  · rw [if_neg long]
    -- The text is parsed only when it is short enough.
    generalize parseJson library payload = parsed
    obtain ⟨value, success, parseEnd⟩ := parsed
    cases success with
    | false => simp
    | true =>
      simp only [Bool.not_true, Bool.false_or, Bool.or_eq_true, bne_iff_ne, Bool.not_eq_true',
        Nat.not_lt.mp long, JsonParse.mk.injEq, true_and]
      by_cases complete : parseEnd = payload.length
      · -- It was parsed to its end, so the kind of the value decides.
        cases isObject : jsonIsObject value with
        | true =>
          simp only [complete, ne_eq, not_true_eq_false, false_or, Bool.true_eq_false, if_false,
            Option.some.injEq, and_true]
          exact ⟨fun same => ⟨same, same ▸ isObject⟩, fun same => same.1⟩
        | false =>
          simp only [complete, or_true, if_true, reduceCtorEq, false_iff, not_and,
            Bool.not_eq_true]
          exact fun same => same.1 ▸ isObject
      · simp [complete]

/-- A payload that is exactly one object, short enough, whose members pass every check. -/
def ValidPayload (library : JsonC) (ownId payload : Bytes) (announcement : Announcement) : Prop :=
  ∃ object, payload.length ≤ maxDatagramBytes ∧
    parseJson library payload = ⟨object, true, payload.length⟩ ∧ jsonIsObject object = true ∧
    Announces ownId object announcement

/-- A payload is decoded exactly when it is valid. -/
theorem decodeAnnouncement_eq_some (library : JsonC) (ownId payload : Bytes)
    (announcement : Announcement) :
    decodeAnnouncement library ownId payload = some announcement ↔
      ValidPayload library ownId payload announcement := by
  -- Reading the datagram and checking its announcement come one after the other.
  simp only [decodeAnnouncement, ValidPayload, Option.bind_eq_some_iff, readDatagram_eq_some,
    parseAnnouncement_eq_some, and_assoc]

end LesChat
