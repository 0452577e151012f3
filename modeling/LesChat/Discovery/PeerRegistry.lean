import LesChat.Foundation.Bytes
import LesChat.Foundation.Keyed
import LesChat.Foundation.Sorting
import Mathlib.Data.List.Lex

/-! The peer registry: what is known of each peer, and which peers count as active. -/

namespace LesChat

open Foundation

/-- What a node knows of a peer. -/
structure Peer where
  /-- The identifier the peer announces. -/
  nodeId : Bytes
  /-- The display name it announces. -/
  callsign : Bytes
  /-- The address its announcement came from. -/
  address : Bytes
  /-- The port it serves requests on, below 65536. -/
  httpPort : Nat
  /-- The version it announces. -/
  appVersion : Bytes
  /-- The clock when it was last heard. -/
  lastSeenMs : Int
deriving DecidableEq

/-- The table `peers_`, which has one entry for each identifier. -/
structure PeerRegistry where
  /-- The entries, each under its key. -/
  peers : List (Bytes × Peer)
  /-- No key repeats. -/
  unique : (peers.map Prod.fst).Nodup
  /-- A peer is kept under its own identifier. -/
  named : ∀ entry ∈ peers, entry.2.nodeId = entry.1

/-- The silence after which a peer is not active any more. -/
def peerTimeoutMs : Int := 20000

/--
The order the table is iterated in.

The standard leaves it open, so all that is known is that every entry is met once.
-/
structure PeerOrder where
  /-- The entries in the order the loop meets them. -/
  arrange : List (Bytes × Peer) → List (Bytes × Peer)
  /-- Nothing is left out or met twice. -/
  complete : ∀ entries, (arrange entries).Perm entries

/-- Iterating in the order of the table. -/
def PeerOrder.stored : PeerOrder := ⟨id, fun _ => List.Perm.refl _⟩

/-- What `std::ranges::sort` compares peers by. -/
def peerKey (peer : Peer) : List Nat := peer.nodeId.map UInt8.toNat

/-- Whether a peer was last heard recently, and not in the future. -/
def Peer.isActive (nowMs : Int) (peer : Peer) : Bool :=
  let ageMs := nowMs - peer.lastSeenMs
  ageMs ≥ 0 && ageMs ≤ peerTimeoutMs

namespace PeerRegistry

/-- A registry that has heard of nobody. -/
def empty : PeerRegistry := ⟨[], List.nodup_nil, by simp⟩

/-- What is known of a peer. -/
def get? (registry : PeerRegistry) (nodeId : Bytes) : Option Peer :=
  Keyed.lookup registry.peers nodeId

/-- `PeerRegistry::update`. -/
def update (registry : PeerRegistry) (peer : Peer) : PeerRegistry where
  peers := Keyed.upsert registry.peers peer.nodeId peer
  unique := Keyed.nodup_keys_upsert registry.unique _ _
  named := by
    -- An entry is either the one stored or one that was there.
    intro entry member
    have kept := registry.named entry
    unfold Keyed.upsert at member
    split at member
    · obtain ⟨old, inOld, rfl⟩ := List.mem_map.mp member
      have oldNamed := registry.named old inOld
      by_cases same : old.1 = peer.nodeId
      · simp [same]
      · simpa [same] using oldNamed
    · rcases List.mem_append.mp member with old | new
      · exact kept old
      · rw [List.mem_singleton.mp new]

/-- `PeerRegistry::active_peers`. -/
def activePeers (order : PeerOrder) (nowMs : Int) (registry : PeerRegistry) : List Peer :=
  -- Identifiers do not repeat, so sorting by them leaves only one order.
  sortBy peerKey (((order.arrange registry.peers).map Prod.snd).filter (Peer.isActive nowMs))

/-- Nobody is known to an empty registry. -/
@[simp] theorem get?_empty (nodeId : Bytes) : empty.get? nodeId = none := rfl

/-- A peer that was heard is known as it was heard. -/
@[simp] theorem get?_update_same (registry : PeerRegistry) (peer : Peer) :
    (registry.update peer).get? peer.nodeId = some peer :=
  -- The registry is a list of pairs, in which the new one replaces the old.
  Keyed.lookup_upsert_same _ _ _

/-- Hearing a peer changes nothing that is known of the others. -/
theorem get?_update_other (registry : PeerRegistry) (peer : Peer) {nodeId : Bytes}
    (other : nodeId ≠ peer.nodeId) : (registry.update peer).get? nodeId = registry.get? nodeId :=
  -- Only the pair of the new peer is written.
  Keyed.lookup_upsert_other _ _ other

/-- What is known of a peer carries its identifier. -/
theorem nodeId_of_get? {registry : PeerRegistry} {nodeId : Bytes} {peer : Peer}
    (known : registry.get? nodeId = some peer) : peer.nodeId = nodeId :=
  -- Every peer is stored under its own identifier.
  registry.named (nodeId, peer) (Keyed.mem_of_lookup known)

/-- The active peers are those known and heard recently. -/
theorem mem_activePeers (order : PeerOrder) (nowMs : Int) (registry : PeerRegistry) (peer : Peer) :
    peer ∈ registry.activePeers order nowMs ↔
      registry.get? peer.nodeId = some peer ∧
        0 ≤ nowMs - peer.lastSeenMs ∧ nowMs - peer.lastSeenMs ≤ peerTimeoutMs := by
  -- Neither the iteration nor the sort adds or loses an entry.
  have stored : peer ∈ (order.arrange registry.peers).map Prod.snd ↔
      registry.get? peer.nodeId = some peer := by
    rw [((order.complete registry.peers).map Prod.snd).mem_iff, List.mem_map]
    constructor
    · intro present
      obtain ⟨entry, member, rfl⟩ := present
      have named := registry.named entry member
      rw [get?, named]
      exact Keyed.lookup_of_mem registry.unique member
    · intro known
      exact ⟨(peer.nodeId, peer), Keyed.mem_of_lookup known, rfl⟩
  unfold activePeers
  rw [(sortBy_perm peerKey _).mem_iff, List.mem_filter, stored]
  simp [Peer.isActive]

/-- The identifiers of the entries met by an iteration do not repeat. -/
theorem nodup_arranged (order : PeerOrder) (registry : PeerRegistry) :
    (((order.arrange registry.peers).map Prod.snd).map Peer.nodeId).Nodup := by
  -- The identifiers are the keys.
  have keys : (registry.peers.map Prod.snd).map Peer.nodeId = registry.peers.map Prod.fst := by
    rw [List.map_map]
    exact List.map_congr_left fun entry member => registry.named entry member
  have rearranged := ((order.complete registry.peers).map Prod.snd).map Peer.nodeId
  rw [keys] at rearranged
  exact rearranged.nodup_iff.mpr registry.unique

/-- The active peers are listed in strictly increasing order of their identifiers. -/
theorem activePeers_ordered (order : PeerOrder) (nowMs : Int) (registry : PeerRegistry) :
    (registry.activePeers order nowMs).Pairwise fun left right =>
      bytesLess left.nodeId right.nodeId := by
  have sorted := sortBy_ordered peerKey
    (((order.arrange registry.peers).map Prod.snd).filter (Peer.isActive nowMs))
  -- No two entries share an identifier, so the order is strict.
  have distinct : (registry.activePeers order nowMs).Pairwise fun left right =>
      left.nodeId ≠ right.nodeId := by
    have active : ((((order.arrange registry.peers).map Prod.snd).filter
        (Peer.isActive nowMs)).map Peer.nodeId).Nodup :=
      (registry.nodup_arranged order).sublist (List.filter_sublist.map _)
    have listed := ((sortBy_perm peerKey _).map Peer.nodeId).nodup_iff.mpr active
    exact List.pairwise_map.mp listed
  refine (sorted.and distinct).imp ?_
  intro left right ordered
  have different : peerKey left ≠ peerKey right := fun same =>
    ordered.2 (map_toNat_injective same)
  exact lt_of_le_of_ne ordered.1 different

end PeerRegistry

end LesChat
