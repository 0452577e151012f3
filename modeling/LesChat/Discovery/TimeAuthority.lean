import LesChat.Discovery.PeerHistory

/-! Which announcements set the clocks of a node, over whole runs with any number of authorities. -/

namespace LesChat

open Foundation

section Authorities

variable (library : JsonC)

/-- The authority whose valid announcement an action receives, if it receives one. -/
def heardAuthority (ownId : Bytes) : DiscoveryAction → Option Bytes
  | .receive datagram _ =>
    (decodeAnnouncement library ownId datagram.payload).bind fun announcement =>
      announcement.authorityTimeMs.map fun _ => announcement.nodeId
  -- Passing time announces nothing.
  | .elapse _ => none

/-- The authority a node should trust: the configured one, or the first one it heard. -/
def trustedAuthority (service : DiscoveryService) (heard : List DiscoveryAction) : Option Bytes :=
  if service.timeAuthorityId ≠ [] then some service.timeAuthorityId
  else (heard.filterMap (heardAuthority library service.identity.nodeId)).head?

/-- An action receives a valid announcement of a node that is an authority, with its time. -/
def ReceivesTime (ownId : Bytes) (action : DiscoveryAction) (nodeId : Bytes) (timeMs : Int64) :
    Prop :=
  ∃ datagram settable announcement, action = .receive datagram settable ∧
    ValidPayload library ownId datagram.payload announcement ∧
    announcement.nodeId = nodeId ∧ announcement.authorityTimeMs = some timeMs

/--
Every action of a run that sets the clocks anew receives the time of the trusted authority, and the
node is a client.
-/
def TrustedOnly (service : DiscoveryService) (actions : List DiscoveryAction) : Prop :=
  ∀ before action after, actions = before ++ action :: after →
    let reached := run (discoveryStep library) service before
    (discoveryStep library reached action).clock.setting ≠ reached.clock.setting →
      service.timeSyncMode = .client ∧ ∃ nodeId timeMs,
        ReceivesTime library service.identity.nodeId action nodeId timeMs ∧
          trustedAuthority library service (before ++ [action]) = some nodeId

/-- Every time in a run that differs from the node's own comes from the first authority heard. -/
def OneAuthority (service : DiscoveryService) (actions : List DiscoveryAction) : Prop :=
  ∀ before action after, actions = before ++ action :: after → ∀ nodeId timeMs,
    ReceivesTime library service.identity.nodeId action nodeId timeMs →
      (run (discoveryStep library) service before).clock.Differs timeMs.toInt →
        ((before ++ [action]).filterMap (heardAuthority library service.identity.nodeId)).head? =
          some nodeId

end Authorities

/-- No action changes the identity or the settings. -/
theorem discoveryStep_settings (library : JsonC) (service : DiscoveryService)
    (action : DiscoveryAction) :
    (discoveryStep library service action).identity = service.identity ∧
      (discoveryStep library service action).timeSyncMode = service.timeSyncMode ∧
      (discoveryStep library service action).timeAuthorityId = service.timeAuthorityId := by
  -- Time passing changes only the clock.
  cases action with
  | elapse elapsedMs => exact ⟨rfl, rfl, rfl⟩
  | receive datagram settable => exact receiveDatagram_settings library settable datagram service

/-- No run changes the identity or the settings. -/
theorem run_settings (library : JsonC) (service : DiscoveryService)
    (actions : List DiscoveryAction) :
    (run (discoveryStep library) service actions).identity = service.identity ∧
      (run (discoveryStep library) service actions).timeSyncMode = service.timeSyncMode ∧
      (run (discoveryStep library) service actions).timeAuthorityId = service.timeAuthorityId := by
  -- Each action leaves them as it finds them.
  refine @run_invariant _ _ (discoveryStep library) (fun state =>
    state.identity = service.identity ∧ state.timeSyncMode = service.timeSyncMode ∧
      state.timeAuthorityId = service.timeAuthorityId) ?_ actions service ⟨rfl, rfl, rfl⟩
  intro state action same
  obtain ⟨identity, mode, authority⟩ := discoveryStep_settings library state action
  exact ⟨identity.trans same.1, mode.trans same.2.1, authority.trans same.2.2⟩

/--
What it takes to set the clocks: the time of an authority that is followed, and that differs from
the current one.
-/
theorem setting_discoveryStep_iff (library : JsonC) (service : DiscoveryService)
    (action : DiscoveryAction) :
    (discoveryStep library service action).clock.setting ≠ service.clock.setting ↔
      ∃ nodeId timeMs, ReceivesTime library service.identity.nodeId action nodeId timeMs ∧
        service.timeSyncMode = .client ∧
        (service.timeAuthorityId = [] ∨ service.timeAuthorityId = nodeId) ∧
        service.clock.Differs timeMs.toInt := by
  -- A datagram sets the clocks in one branch only, behind all of the checks.
  cases action with
  -- Passing time moves the clock, but not what it is set to.
  | elapse elapsedMs => simp [discoveryStep, ReceivesTime]
  | receive datagram settable =>
    constructor
    · intro moved
      cases decoded : decodeAnnouncement library service.identity.nodeId datagram.payload with
      | none => exact absurd (by rw [discoveryStep, receiveDatagram_rejected decoded]) moved
      | some announcement =>
        have valid := (decodeAnnouncement_eq_some _ _ _ _).mp decoded
        simp only [discoveryStep, receiveDatagram_accepted decoded, clockAfter] at moved
        cases timed : announcement.authorityTimeMs with
        | none => simp [timed] at moved
        | some timeMs =>
          simp only [timed] at moved
          by_cases followed : service.follows announcement
          · rw [if_pos followed, setting_synchronizeTime_iff] at moved
            exact ⟨announcement.nodeId, timeMs,
              ⟨datagram, settable, announcement, rfl, valid, rfl, timed⟩, followed.1, followed.2,
              moved⟩
          · simp [followed] at moved
    · intro followed
      obtain ⟨nodeId, timeMs, ⟨_, _, announcement, same, valid, rfl, timed⟩, client, trusted,
        differs⟩ := followed
      obtain ⟨rfl, rfl⟩ := DiscoveryAction.receive.inj same
      -- Conversely, every check passes, so the branch is reached.
      have decoded := (decodeAnnouncement_eq_some _ _ _ _).mpr valid
      have follows : service.follows announcement := ⟨client, trusted⟩
      simp only [discoveryStep, receiveDatagram_accepted decoded, clockAfter, timed,
        if_pos follows]
      exact (setting_synchronizeTime_iff _ _ _).mpr differs

/--
Only the trusted authority sets the clocks in a run exactly when one is configured, or the node is
no client, or all the times that matter come from the first authority heard.
-/
theorem trustedOnly_iff (library : JsonC) (service : DiscoveryService)
    (actions : List DiscoveryAction) :
    TrustedOnly library service actions ↔
      (service.timeSyncMode = .client → service.timeAuthorityId = [] →
        OneAuthority library service actions) := by
  constructor
  · intro trusted client unconfigured before action after split nodeId timeMs receives differs
    obtain ⟨identity, mode, authority⟩ := run_settings library service before
    -- The time would be taken over, so its node has to be the trusted one.
    have moved := (setting_discoveryStep_iff library
      (run (discoveryStep library) service before) action).mpr ⟨nodeId, timeMs,
        by rw [identity]; exact receives, mode.trans client, .inl (authority.trans unconfigured),
        differs⟩
    -- A datagram is decoded in one way only, so both announcements are the same.
    obtain ⟨_, other, otherMs, otherReceives, first⟩ := trusted before action after split moved
    obtain ⟨_, _, announcement, same, valid, rfl, _⟩ := receives
    obtain ⟨_, _, otherAnnouncement, otherSame, otherValid, rfl, _⟩ := otherReceives
    rw [same] at otherSame
    obtain ⟨rfl, rfl⟩ := DiscoveryAction.receive.inj otherSame
    rw [← decodeAnnouncement_eq_some] at valid otherValid
    rw [valid, Option.some.injEq] at otherValid
    rw [trustedAuthority, if_neg (by simpa using unconfigured)] at first
    rw [first, otherValid]
  · intro single before action after split reached moved
    obtain ⟨identity, mode, authority⟩ := run_settings library service before
    obtain ⟨nodeId, timeMs, receives, client, trusted, differs⟩ :=
      (setting_discoveryStep_iff library reached action).mp moved
    rw [show reached.identity = service.identity from identity] at receives
    rw [show reached.timeAuthorityId = service.timeAuthorityId from authority] at trusted
    have isClient : service.timeSyncMode = .client := mode.symm.trans client
    refine ⟨isClient, nodeId, timeMs, receives, ?_⟩
    -- The trusted authority is the configured one, or else the first one heard.
    unfold trustedAuthority
    by_cases unconfigured : service.timeAuthorityId = []
    · rw [if_neg (by simpa using unconfigured)]
      exact single isClient unconfigured before action after split nodeId timeMs receives differs
    · rw [if_pos unconfigured, trusted.resolve_left unconfigured]

/-- A client without a configured authority is moved an hour ahead by the second one it hears. -/
theorem trustedOnly_second :
    let announce (name : String) (timeMs : Int) : DiscoveryAction :=
      .receive ⟨serializeJson plainJsonC
        (announceJson ⟨ascii name, ascii "Gate"⟩ 7777 .authority timeMs), ⟨10, 0, 0, 1⟩⟩ true
    let service : DiscoveryService :=
      ⟨⟨ascii "b", ascii "Bob"⟩, .client, [], PeerRegistry.empty, ⟨0, 1000000, 0⟩⟩
    ¬TrustedOnly plainJsonC service [announce "first" 2000000, announce "second" 5600000] := by
  intro announce service trusted
  obtain ⟨_, nodeId, timeMs, ⟨_, _, announcement, same, valid, rfl, _⟩, first⟩ :=
    trusted [announce "first" 2000000] (announce "second" 5600000) [] rfl (by decide +kernel)
  obtain ⟨rfl, rfl⟩ := DiscoveryAction.receive.inj same
  rw [← decodeAnnouncement_eq_some] at valid
  -- The second time was followed, although the first authority is the trusted one.
  have isSecond : (decodeAnnouncement plainJsonC service.identity.nodeId
    (serializeJson plainJsonC (announceJson ⟨ascii "second", ascii "Gate"⟩ 7777 .authority
      5600000))).map Announcement.nodeId = some (ascii "second") := by decide +kernel
  have isFirst : trustedAuthority plainJsonC service ([announce "first" 2000000] ++
    [announce "second" 5600000]) = some (ascii "first") := by decide +kernel
  rw [valid, Option.map_some, Option.some.injEq] at isSecond
  rw [isFirst, isSecond] at first
  exact absurd first (by decide)

end LesChat
