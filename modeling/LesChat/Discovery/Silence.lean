import LesChat.Discovery.TimeAuthority

/-! How long a peer has been silent in real time, and how long by the clock it is judged by. -/

namespace LesChat

open Foundation

/-- A valid announcement as it was processed: what it made known, and the clocks at that moment. -/
structure Hearing where
  /-- What is known of the node. -/
  peer : Peer
  /-- The clocks, after the announcement may have set them. -/
  clock : Clock

section Hearings

variable (library : JsonC)

/-- What is heard by one action, given the service after it. -/
def heardBy (after : DiscoveryService) : DiscoveryAction → Option Hearing
  | .receive datagram _ =>
    (decodeAnnouncement library after.identity.nodeId datagram.payload).map fun announcement =>
      ⟨announcement.peer datagram.sender (currentTimeMs after.clock), after.clock⟩
  | .elapse _ => none

/-- The valid announcements of a run, in the order they were heard. -/
def hearings : DiscoveryService → List DiscoveryAction → List Hearing
  | _, [] => []
  | service, action :: rest =>
    let after := discoveryStep library service action
    (heardBy library after action).toList ++ hearings after rest

/-- The last valid announcement of a node. -/
def lastHearing (service : DiscoveryService) (actions : List DiscoveryAction) (nodeId : Bytes) :
    Option Hearing :=
  ((hearings library service actions).filter fun heard => heard.peer.nodeId = nodeId).getLast?

/-- The real time since an announcement was heard. -/
def Hearing.silenceMs (heard : Hearing) (now : Clock) : Int :=
  now.monotonicMs - heard.clock.monotonicMs

/-- How far the clock was corrected since an announcement was heard, in all. -/
def Hearing.correctionMs (heard : Hearing) (now : Clock) : Int := now.lead - heard.clock.lead

/--
At the end of a run, the active peers are the nodes whose last valid announcement was heard at most
twenty seconds of real time ago.
-/
def JudgedBySilence (order : PeerOrder) (service : DiscoveryService)
    (actions : List DiscoveryAction) : Prop :=
  let reached := run (discoveryStep library) service actions
  ∀ nodeId, (∃ peer ∈ reached.registry.activePeers order (currentTimeMs reached.clock),
      peer.nodeId = nodeId) ↔
    ∃ heard, lastHearing library service actions nodeId = some heard ∧
      heard.silenceMs reached.clock ≤ 20000

end Hearings

/-- What is heard is registered by the clock it is heard with. -/
theorem heardBy_lastSeenMs {library : JsonC} {after : DiscoveryService} {action : DiscoveryAction}
    {heard : Hearing} (hears : heardBy library after action = some heard) :
    heard.peer.lastSeenMs = currentTimeMs heard.clock := by
  -- Only a datagram is heard, and it is registered by the clock it leaves.
  cases action with
  | elapse elapsedMs => simp [heardBy] at hears
  | receive datagram settable =>
    obtain ⟨announcement, _, rfl⟩ := Option.map_eq_some_iff.mp hears
    rfl

/-- One action stores what it hears, and nothing else. -/
theorem discoveryStep_peers (library : JsonC) (service : DiscoveryService)
    (action : DiscoveryAction) :
    (discoveryStep library service action).registry.peers =
      ((heardBy library (discoveryStep library service action) action).toList).foldl
        (fun built heard => Keyed.upsert built heard.peer.nodeId heard.peer)
        service.registry.peers := by
  -- Time passing hears nothing, and a datagram that is rejected stores nothing.
  cases action with
  | elapse elapsedMs => rfl
  | receive datagram settable =>
    cases decoded : decodeAnnouncement library service.identity.nodeId datagram.payload with
    | none => simp [heardBy, decoded, discoveryStep, receiveDatagram_rejected decoded]
    | some announcement =>
      have identity := (discoveryStep_settings library service (.receive datagram settable)).1
      simp only [heardBy, identity, decoded, Option.map_some, Option.toList_some, List.foldl_cons,
        List.foldl_nil]
      simp only [discoveryStep, receiveDatagram_accepted decoded]
      rfl

/-- After a run, the table holds what storing the hearings one after the other leaves. -/
theorem run_peers (library : JsonC) (actions : List DiscoveryAction) (service : DiscoveryService) :
    (run (discoveryStep library) service actions).registry.peers =
      (hearings library service actions).foldl
        (fun built heard => Keyed.upsert built heard.peer.nodeId heard.peer)
        service.registry.peers := by
  -- The induction follows the actions.
  induction actions generalizing service with
  | nil => rfl
  | cons action rest ih =>
    have here := discoveryStep_peers library service action
    rw [run_cons, ih, here, hearings, List.foldl_append]

/-- Everything heard in a run was registered by the clock it was heard with. -/
theorem mem_hearings {library : JsonC} {actions : List DiscoveryAction}
    {service : DiscoveryService} {heard : Hearing}
    (member : heard ∈ hearings library service actions) :
    heard.peer.lastSeenMs = currentTimeMs heard.clock := by
  -- The induction follows the actions.
  induction actions generalizing service with
  | nil => simp [hearings] at member
  | cons action rest ih =>
    rcases List.mem_append.mp member with here | later
    · exact heardBy_lastSeenMs (Option.mem_toList.mp here)
    · exact ih later

/-- What is known of a node after a run is what its last hearing made known. -/
theorem run_get?_hearing (library : JsonC) (actions : List DiscoveryAction)
    {service : DiscoveryService} (unheard : service.registry = PeerRegistry.empty)
    (nodeId : Bytes) :
    (run (discoveryStep library) service actions).registry.get? nodeId =
      (lastHearing library service actions nodeId).map Hearing.peer := by
  -- Of the peers stored under an identifier, the last one is found.
  have stored := run_peers library actions service
  rw [PeerRegistry.get?, stored, unheard]
  have last := Keyed.lookup_foldl_upsert (fun heard : Hearing => heard.peer.nodeId) Hearing.peer
    (hearings library service actions) PeerRegistry.empty.peers nodeId
  have start : Keyed.lookup PeerRegistry.empty.peers nodeId = none := rfl
  simp only [start, Option.or_none] at last
  exact last

/--
A node is on the list of active peers exactly when its silence and the corrections of the clock
since it was heard add up to at most twenty seconds, and not to less than nothing.
-/
theorem active_iff_hearing (library : JsonC) (order : PeerOrder) {service : DiscoveryService}
    (unheard : service.registry = PeerRegistry.empty) (actions : List DiscoveryAction)
    (nodeId : Bytes) :
    let now := (run (discoveryStep library) service actions).clock
    (∃ peer ∈ (run (discoveryStep library) service actions).registry.activePeers order
        (currentTimeMs now), peer.nodeId = nodeId) ↔
      ∃ heard, lastHearing library service actions nodeId = some heard ∧
        0 ≤ heard.silenceMs now + heard.correctionMs now ∧
        heard.silenceMs now + heard.correctionMs now ≤ 20000 := by
  intro now
  have known := run_get?_hearing library actions unheard nodeId
  -- The clock's reading of the silence is the real one with the corrections.
  have age : ∀ heard, lastHearing library service actions nodeId = some heard →
      currentTimeMs now - heard.peer.lastSeenMs =
        heard.silenceMs now + heard.correctionMs now := by
    intro heard last
    -- The entry was stamped by the clock the announcement was heard with.
    have registered := mem_hearings (List.mem_of_mem_filter (List.mem_of_getLast? last))
    rw [registered]
    simp only [Hearing.silenceMs, Hearing.correctionMs, Clock.lead]
    omega
  constructor
  · intro listed
    -- A listed peer is in the registry, by its last hearing.
    obtain ⟨peer, member, rfl⟩ := listed
    obtain ⟨stored, low, high⟩ := (PeerRegistry.mem_activePeers order _ _ peer).mp member
    rw [known] at stored
    obtain ⟨heard, last, rfl⟩ := Option.map_eq_some_iff.mp stored
    rw [age heard last] at low high
    exact ⟨heard, last, low, high⟩
  · intro recent
    obtain ⟨heard, last, low, high⟩ := recent
    rw [last] at known
    have named := PeerRegistry.nodeId_of_get? known
    refine ⟨heard.peer, (PeerRegistry.mem_activePeers order _ _ heard.peer).mpr ⟨?_, ?_⟩, named⟩
    · rw [named]
      exact known
    · rw [age heard last]
      exact ⟨low, high⟩

/--
The active peers are those not silent for long in real time exactly when, for each node heard, the
clock's corrections since then do not carry its silence across either bound.
-/
theorem judgedBySilence_iff (library : JsonC) (order : PeerOrder) (service : DiscoveryService)
    (unheard : service.registry = PeerRegistry.empty) (actions : List DiscoveryAction) :
    JudgedBySilence library order service actions ↔
      ∀ nodeId heard, lastHearing library service actions nodeId = some heard →
        let now := (run (discoveryStep library) service actions).clock
        (0 ≤ heard.silenceMs now + heard.correctionMs now ∧
          heard.silenceMs now + heard.correctionMs now ≤ 20000 ↔ heard.silenceMs now ≤ 20000) := by
  -- A node that was never heard is on neither side.
  have active := active_iff_hearing library order unheard actions
  unfold JudgedBySilence
  simp only [active]
  constructor
  · intro judged nodeId heard last
    have here := judged nodeId
    simpa only [last, Option.some.injEq, exists_eq_left'] using here
  · intro uncrossed nodeId
    cases last : lastHearing library service actions nodeId with
    | none => simp
    | some heard => simpa only [Option.some.injEq, exists_eq_left'] using uncrossed nodeId heard last

/-- Looking at an announcement takes no real time. -/
theorem clockAfter_monotonicMs (settable : Bool) (announcement : Announcement)
    (service : DiscoveryService) :
    (clockAfter settable announcement service).monotonicMs = service.clock.monotonicMs := by
  -- Whether the authority is followed or not, only settings change.
  unfold clockAfter
  split
  · split
    · exact synchronizeTime_monotonicMs _ _ _
    · rfl
  · rfl

/-- No action turns real time back. -/
theorem monotonicMs_le_discoveryStep (library : JsonC) (service : DiscoveryService)
    (action : DiscoveryAction) :
    service.clock.monotonicMs ≤ (discoveryStep library service action).clock.monotonicMs := by
  -- Time passing moves it on, and a datagram leaves it.
  cases action with
  | elapse elapsedMs =>
    simp only [discoveryStep, Clock.elapse]
    omega
  | receive datagram settable =>
    cases decoded : decodeAnnouncement library service.identity.nodeId datagram.payload with
    | none => rw [discoveryStep, receiveDatagram_rejected decoded]
    | some announcement =>
      rw [discoveryStep, receiveDatagram_accepted decoded]
      exact (clockAfter_monotonicMs settable announcement service).ge

/-- A node that is no client never sets its clocks. -/
theorem setting_discoveryStep_of_not_client (library : JsonC) {service : DiscoveryService}
    (follower : service.timeSyncMode ≠ .client) (action : DiscoveryAction) :
    (discoveryStep library service action).clock.setting = service.clock.setting := by
  -- A clock that was set was set by a client.
  by_contra moved
  obtain ⟨_, _, _, client, _⟩ := (setting_discoveryStep_iff library service action).mp moved
  exact follower client

/-- What a node that is no client heard, it heard in the past, with its clocks set as they are. -/
theorem hearing_of_not_client {library : JsonC} {actions : List DiscoveryAction}
    {service : DiscoveryService} (follower : service.timeSyncMode ≠ .client) :
    service.clock.monotonicMs ≤ (run (discoveryStep library) service actions).clock.monotonicMs ∧
    (run (discoveryStep library) service actions).clock.setting = service.clock.setting ∧
    ∀ heard ∈ hearings library service actions,
      heard.clock.monotonicMs ≤
        (run (discoveryStep library) service actions).clock.monotonicMs ∧
      heard.clock.setting = service.clock.setting := by
  -- The induction follows the actions, from each of which real time only goes on.
  induction actions generalizing service with
  | nil => exact ⟨le_refl _, rfl, by simp [hearings]⟩
  | cons action rest ih =>
    have mode := (discoveryStep_settings library service action).2.1
    have before := monotonicMs_le_discoveryStep library service action
    have kept := setting_discoveryStep_of_not_client library follower action
    obtain ⟨later, set, heardLater⟩ := ih (mode ▸ follower)
    rw [kept] at set
    refine ⟨le_trans before later, set, ?_⟩
    intro heard member
    rcases List.mem_append.mp member with here | after
    · -- What is heard now is heard with the clocks after this action.
      have now : heard.clock = (discoveryStep library service action).clock := by
        cases action with
        | elapse elapsedMs => simp [heardBy] at here
        | receive datagram settable =>
          obtain ⟨announcement, _, rfl⟩ := Option.map_eq_some_iff.mp (Option.mem_toList.mp here)
          rfl
      rw [now]
      exact ⟨later, kept⟩
    · obtain ⟨past, same⟩ := heardLater heard after
      exact ⟨past, same.trans kept⟩

/-- A node that follows no authority judges its peers by their real silence. -/
theorem judgedBySilence_of_not_client (library : JsonC) (order : PeerOrder)
    {service : DiscoveryService} (unheard : service.registry = PeerRegistry.empty)
    (follower : service.timeSyncMode ≠ .client) (actions : List DiscoveryAction) :
    JudgedBySilence library order service actions := by
  have active := active_iff_hearing library order unheard actions
  obtain ⟨_, set, past⟩ := hearing_of_not_client follower
  unfold JudgedBySilence
  simp only [active]
  intro nodeId
  -- Without corrections the two ways of reading a silence agree.
  have agree : ∀ heard, lastHearing library service actions nodeId = some heard →
      0 ≤ heard.silenceMs (run (discoveryStep library) service actions).clock ∧
        heard.correctionMs (run (discoveryStep library) service actions).clock = 0 := by
    intro heard last
    obtain ⟨earlier, same⟩ := past heard (List.mem_of_mem_filter (List.mem_of_getLast? last))
    -- The offset and the lead of the system clock are what they were when the node was heard.
    have setting := set.trans same.symm
    simp only [Clock.setting, systemTimeMs, Prod.mk.injEq] at setting
    simp only [Hearing.silenceMs, Hearing.correctionMs, Clock.lead, currentTimeMs]
    omega
  constructor
  · intro recent
    obtain ⟨heard, last, _, high⟩ := recent
    have := agree heard last
    exact ⟨heard, last, by omega⟩
  · intro recent
    obtain ⟨heard, last, high⟩ := recent
    have := agree heard last
    exact ⟨heard, last, by omega, by omega⟩

/-- A peer heard a second ago is judged by its silence while nobody sets the clock. -/
theorem judgedBySilence_second :
    JudgedBySilence plainJsonC PeerOrder.stored
      ⟨⟨ascii "b", ascii "Bob"⟩, .client, [], PeerRegistry.empty, ⟨0, 1000000, 0⟩⟩
      [.receive ⟨serializeJson plainJsonC (announceJson ⟨ascii "c", ascii "Carol"⟩ 7777 .off 0),
        ⟨10, 0, 0, 3⟩⟩ true, .elapse 1000] := by
  -- Nobody announced a time, so the corrections add up to nothing.
  apply (judgedBySilence_iff _ _ _ rfl _).mpr
  intro nodeId heard last
  have member := List.mem_of_mem_filter (List.mem_of_getLast? last)
  clear last
  revert heard
  decide +kernel

/-- A client drops a peer it has just heard when an authority moves its clock an hour ahead. -/
theorem judgedBySilence_dropped :
    let carol : DiscoveryAction := .receive ⟨serializeJson plainJsonC
      (announceJson ⟨ascii "c", ascii "Carol"⟩ 7777 .off 0), ⟨10, 0, 0, 3⟩⟩ true
    let gate : DiscoveryAction := .receive ⟨serializeJson plainJsonC
      (announceJson ⟨ascii "gate", ascii "Gate"⟩ 7777 .authority 4600000), ⟨10, 0, 0, 1⟩⟩ true
    let service : DiscoveryService :=
      ⟨⟨ascii "b", ascii "Bob"⟩, .client, [], PeerRegistry.empty, ⟨0, 1000000, 0⟩⟩
    ¬JudgedBySilence plainJsonC PeerOrder.stored service [carol, gate] := by
  intro carol gate service judged
  let now := (run (discoveryStep plainJsonC) service [carol, gate]).clock
  have silence : (lastHearing plainJsonC service [carol, gate] (ascii "c")).map
      (fun heard => (heard.silenceMs now, heard.correctionMs now)) = some (0, 3600000) := by
    decide +kernel
  obtain ⟨heard, last, both⟩ := Option.map_eq_some_iff.mp silence
  obtain ⟨silent, corrected⟩ := Prod.mk.inj both
  -- Carol was heard just now, so she should be on the list, and the clock says an hour ago.
  have listed := (judged (ascii "c")).mpr ⟨heard, last, by
    show heard.silenceMs now ≤ 20000
    omega⟩
  obtain ⟨other, otherLast, _, recent⟩ :=
    (active_iff_hearing plainJsonC PeerOrder.stored rfl [carol, gate] (ascii "c")).mp listed
  obtain rfl := Option.some.inj (last.symm.trans otherLast)
  have crossed : heard.silenceMs now + heard.correctionMs now ≤ 20000 := recent
  omega

end LesChat
