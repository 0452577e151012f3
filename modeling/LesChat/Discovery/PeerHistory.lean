import LesChat.Discovery.Announce

/-! The peer list read off the history of announcements. -/

namespace LesChat

open Foundation

/-- What a datagram processed at a clock reading makes known, if it is a valid announcement. -/
def announcedPeer (library : JsonC) (ownId : Bytes) (heard : Datagram × Int) : Option Peer :=
  (decodeAnnouncement library ownId heard.1.payload).map fun announcement =>
    announcement.peer heard.1.sender heard.2

/-- What the most recent valid announcement of a node made known. -/
def latestPeer (library : JsonC) (ownId : Bytes) (history : List (Datagram × Int))
    (nodeId : Bytes) : Option Peer :=
  ((history.filterMap (announcedPeer library ownId)).filter fun peer =>
    peer.nodeId = nodeId).getLast?

/-- A datagram that is received, with the clocks as they stand when it is. -/
structure Reception where
  /-- The datagram. -/
  datagram : Datagram
  /-- Whether the system lets its clock be set. -/
  settable : Bool
  /-- The clocks, whatever moved them since the last reception. -/
  clock : Clock

/-- The service after a reception. -/
def receptionStep (library : JsonC) (service : DiscoveryService) (reception : Reception) :
    DiscoveryService :=
  receiveDatagram library reception.settable reception.datagram
    { service with clock := reception.clock }

/-- The datagrams received in a run, each with the clock reading it was processed at. -/
def history (library : JsonC) : DiscoveryService → List Reception → List (Datagram × Int)
  | _, [] => []
  | service, reception :: rest =>
    let after := receptionStep library service reception
    (reception.datagram, currentTimeMs after.clock) :: history library after rest

/-- A datagram that holds no valid announcement changes nothing. -/
theorem receiveDatagram_rejected {library : JsonC} {datagram : Datagram}
    {service : DiscoveryService}
    (rejected : decodeAnnouncement library service.identity.nodeId datagram.payload = none)
    (settable : Bool) : receiveDatagram library settable datagram service = service := by
  -- Without an announcement there is nothing to do.
  simp only [receiveDatagram, rejected]

/-- A valid announcement sets the clocks and then registers its node. -/
theorem receiveDatagram_accepted {library : JsonC} {datagram : Datagram}
    {service : DiscoveryService} {announcement : Announcement}
    (accepted : decodeAnnouncement library service.identity.nodeId datagram.payload =
      some announcement) (settable : Bool) :
    receiveDatagram library settable datagram service =
      { service with
        clock := clockAfter settable announcement service
        registry := service.registry.update (announcement.peer datagram.sender
          (currentTimeMs (clockAfter settable announcement service))) } := by
  -- An announcement goes to the clock first, and to the registry after that.
  simp only [receiveDatagram, accepted]

/-- Receiving a datagram changes neither the identity nor the settings. -/
theorem receiveDatagram_settings (library : JsonC) (settable : Bool) (datagram : Datagram)
    (service : DiscoveryService) :
    (receiveDatagram library settable datagram service).identity = service.identity ∧
      (receiveDatagram library settable datagram service).timeSyncMode = service.timeSyncMode ∧
      (receiveDatagram library settable datagram service).timeAuthorityId =
        service.timeAuthorityId := by
  -- Neither branch touches what the service was made with.
  unfold receiveDatagram
  split <;> exact ⟨rfl, rfl, rfl⟩

/-- The registry after receiving a datagram, told from the datagram and the clock reading. -/
theorem receiveDatagram_registry (library : JsonC) (settable : Bool) (datagram : Datagram)
    (service : DiscoveryService) :
    (receiveDatagram library settable datagram service).registry.peers =
      ((announcedPeer library service.identity.nodeId (datagram,
        currentTimeMs (receiveDatagram library settable datagram service).clock)).toList).foldl
        (fun built peer => Keyed.upsert built peer.nodeId peer) service.registry.peers := by
  -- What is announced is stored, and a datagram without an announcement stores nothing.
  cases decoded : decodeAnnouncement library service.identity.nodeId datagram.payload with
  | none => simp [receiveDatagram_rejected decoded, announcedPeer, decoded]
  | some announcement =>
    rw [receiveDatagram_accepted decoded]
    simp only [announcedPeer, decoded, Option.map_some, Option.toList_some, List.foldl_cons,
      List.foldl_nil]
    rfl

/-- After a run, the table holds what storing the announcements one after the other leaves. -/
theorem run_registry (library : JsonC) (receptions : List Reception)
    (service : DiscoveryService) :
    (run (receptionStep library) service receptions).registry.peers =
      ((history library service receptions).filterMap
        (announcedPeer library service.identity.nodeId)).foldl
          (fun built peer => Keyed.upsert built peer.nodeId peer) service.registry.peers := by
  -- The induction follows the receptions, each of which hears at most one announcement.
  induction receptions generalizing service with
  | nil => rfl
  | cons reception rest ih =>
    have identity := (receiveDatagram_settings library reception.settable reception.datagram
      { service with clock := reception.clock }).1
    have registry := receiveDatagram_registry library reception.settable reception.datagram
      { service with clock := reception.clock }
    rw [run_cons, ih]
    simp only [receptionStep, history, identity, registry]
    cases heard : announcedPeer library service.identity.nodeId (reception.datagram, currentTimeMs
        (receiveDatagram library reception.settable reception.datagram
          { service with clock := reception.clock }).clock) with
    | none => simp [heard]
    | some peer => simp [heard]

/-- What is known of a node after a run is what its latest announcement made known. -/
theorem run_get? (library : JsonC) (receptions : List Reception) {service : DiscoveryService}
    (unheard : service.registry = PeerRegistry.empty) (nodeId : Bytes) :
    (run (receptionStep library) service receptions).registry.get? nodeId =
      latestPeer library service.identity.nodeId (history library service receptions) nodeId := by
  -- Of the peers stored under an identifier, the last one is found.
  have stored := run_registry library receptions service
  rw [PeerRegistry.get?, stored, unheard]
  have last := Keyed.lookup_foldl_upsert Peer.nodeId id ((history library service receptions).filterMap
    (announcedPeer library service.identity.nodeId)) PeerRegistry.empty.peers nodeId
  have start : Keyed.lookup PeerRegistry.empty.peers nodeId = none := rfl
  simp only [start, Option.or_none, Option.map_id] at last
  exact last

/-- Everything an announcement makes known passed the checks. -/
theorem latestPeer_valid {library : JsonC} {ownId : Bytes} {heard : List (Datagram × Int)}
    {nodeId : Bytes} {peer : Peer} (latest : latestPeer library ownId heard nodeId = some peer) :
    peer.nodeId ≠ ownId ∧ 1 ≤ peer.httpPort ∧ peer.httpPort ≤ 65535 := by
  -- The latest announcement is one that was decoded, with all its checks.
  have member := List.mem_of_mem_filter (List.mem_of_getLast? latest)
  obtain ⟨entry, _, announced⟩ := List.mem_filterMap.mp member
  obtain ⟨announcement, decoded, rfl⟩ := Option.map_eq_some_iff.mp announced
  obtain ⟨object, _, parsed⟩ := Option.bind_eq_some_iff.mp decoded
  have announces := (parseAnnouncement_eq_some ownId object announcement).mp parsed
  exact ⟨announces.other, announces.inRange⟩

/--
The peer list after a run of received datagrams, at any query time.

The run starts with an empty registry, in any mode, and the clocks may stand anywhere at each
reception.
-/
theorem peers_faithful (library : JsonC) (order : PeerOrder) (service : DiscoveryService)
    (unheard : service.registry = PeerRegistry.empty) (receptions : List Reception)
    (nowMs : Int) :
    let ownId := service.identity.nodeId
    let heard := history library service receptions
    let reached := run (receptionStep library) service receptions
    let active := reached.registry.activePeers order nowMs
    -- The list is strictly increasing, so nobody is on it twice.
    (active.Pairwise fun left right => bytesLess left.nodeId right.nodeId) ∧
    -- It has exactly the nodes heard lately, as they last announced themselves.
    (∀ peer, peer ∈ active ↔ latestPeer library ownId heard peer.nodeId = some peer ∧
      0 ≤ nowMs - peer.lastSeenMs ∧ nowMs - peer.lastSeenMs ≤ 20000) ∧
    (∀ peer ∈ active, peer.nodeId ≠ ownId ∧ 1 ≤ peer.httpPort ∧ peer.httpPort ≤ 65535) ∧
    -- A datagram that fails any check changes nothing.
    (∀ datagram settable,
      (∀ announcement, ¬ValidPayload library ownId datagram.payload announcement) →
        receiveDatagram library settable datagram reached = reached) ∧
    -- A valid announcement is registered, and changes the entry of its own node only.
    (∀ datagram settable announcement,
      ValidPayload library ownId datagram.payload announcement →
        let after := receiveDatagram library settable datagram reached
        after.registry.get? announcement.nodeId =
          some (announcement.peer datagram.sender (currentTimeMs after.clock)) ∧
        ∀ nodeId, nodeId ≠ announcement.nodeId →
          after.registry.get? nodeId = reached.registry.get? nodeId) := by
  intro ownId heard reached active
  have known := run_get? library receptions unheard
  have identity : reached.identity.nodeId = ownId := by
    -- No reception changes the identity.
    have kept := @run_invariant _ _ (receptionStep library)
      (fun state => state.identity = service.identity) (fun state reception same =>
        (receiveDatagram_settings library reception.settable reception.datagram
          { state with clock := reception.clock }).1.trans same) receptions service rfl
    exact congrArg NodeIdentity.nodeId kept
  have listed : ∀ peer, peer ∈ active ↔ latestPeer library ownId heard peer.nodeId = some peer ∧
      0 ≤ nowMs - peer.lastSeenMs ∧ nowMs - peer.lastSeenMs ≤ 20000 := by
    intro peer
    rw [← known peer.nodeId]
    exact PeerRegistry.mem_activePeers order nowMs reached.registry peer
  refine ⟨reached.registry.activePeers_ordered order nowMs, listed,
    fun peer member => latestPeer_valid ((listed peer).mp member).1, ?_, ?_⟩
  · intro datagram settable invalid
    apply receiveDatagram_rejected
    cases decoded : decodeAnnouncement library reached.identity.nodeId datagram.payload with
    | none => rfl
    | some announcement =>
      rw [identity, decodeAnnouncement_eq_some] at decoded
      exact absurd decoded (invalid announcement)
  · intro datagram settable announcement valid after
    rw [← decodeAnnouncement_eq_some, ← identity] at valid
    have accepted := receiveDatagram_accepted valid settable
    have registered : after.registry = reached.registry.update
        (announcement.peer datagram.sender (currentTimeMs after.clock)) := by
      rw [show after = _ from accepted]
    rw [registered]
    exact ⟨PeerRegistry.get?_update_same _ _, fun nodeId other =>
      PeerRegistry.get?_update_other _ _ other⟩

/-- A node that announced itself a second ago is on the list. -/
theorem peers_faithful_announced :
    let alice : NodeIdentity := ⟨ascii "a", ascii "Alice"⟩
    let service : DiscoveryService :=
      ⟨⟨ascii "b", ascii "Bob"⟩, .off, [], PeerRegistry.empty, ⟨0, 0, 0⟩⟩
    let datagram : Datagram :=
      ⟨serializeJson plainJsonC (announceJson alice 7777 .off 0), ⟨10, 0, 0, 1⟩⟩
    let reached := run (receptionStep plainJsonC) service [⟨datagram, false, ⟨1000, 1000, 0⟩⟩]
    (⟨ascii "a", ascii "Alice", ascii "10.0.0.1", 7777, ascii "0.1.18", 1000⟩ : Peer) ∈
      reached.registry.activePeers PeerOrder.stored 2000 :=
  -- The peer was heard a second ago, and is of nobody else's name.
  ((peers_faithful plainJsonC PeerOrder.stored _ rfl _ 2000).2.1 _).mpr (by decide +kernel)

end LesChat
