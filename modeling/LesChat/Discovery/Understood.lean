import LesChat.Discovery.PeerHistory

/-! Every announcement a node sends is understood by every other node. -/

namespace LesChat

open Foundation

/-- `DiscoveryService::send_announce`: the payload of the datagram of a node on an HTTP port. -/
def sendAnnounce (library : JsonC) (httpPort : Nat) (sender : DiscoveryService) : Bytes :=
  serializeJson library
    (announceJson sender.identity httpPort sender.timeSyncMode (currentTimeMs sender.clock))

/-- An announcement carries a time exactly when its sender is an authority, and then its own. -/
theorem announcement_authorityTimeMs (identity : NodeIdentity) (httpPort : Nat)
    (mode : TimeSyncMode) {nowMs : Int} (low : -2 ^ 63 ≤ nowMs) (high : nowMs < 2 ^ 63)
    (timeMs : Int64) :
    (announcement identity httpPort mode nowMs).authorityTimeMs = some timeMs ↔
      mode = .authority ∧ timeMs.toInt = nowMs := by
  -- A reading in the range of a word is the word it is sent as.
  have word : (Int64.ofIntClamp nowMs).toInt = nowMs := by
    have least : Int64.minValue.toInt ≤ nowMs := low
    have greatest : nowMs ≤ Int64.maxValue.toInt := Int.le_sub_one_of_lt high
    rw [Int64.ofIntClamp, dif_pos least, dif_pos greatest, Int64.toInt_ofIntLE]
  simp only [announcement]
  split
  · rename_i authority
    rw [Option.some.injEq, and_iff_right authority, ← Int64.toInt_inj, word, eq_comm]
  · rename_i other
    simp [other]

/--
Whatever identity, port, mode and clock a node has, its announcement fits a datagram, and every
node with another identifier accepts it and registers exactly what was sent. The announcement is
that of a time authority, with exactly the time sent, if and only if the sender is one; and the
receiver's clocks are synchronized to that time if and only if it follows the sender.
-/
theorem announce_understood {library : JsonC} (lawful : library.Lawful)
    {sender : DiscoveryService} (accepted : sender.identity.Accepted) {httpPort : Nat}
    (inRange : 1 ≤ httpPort ∧ httpPort ≤ 65535)
    (reading : 0 < currentTimeMs sender.clock ∧ currentTimeMs sender.clock < 2 ^ 63)
    {receiver : DiscoveryService} (other : sender.identity.nodeId ≠ receiver.identity.nodeId)
    (address : Ipv4) (settable : Bool) :
    let payload := sendAnnounce library httpPort sender
    let after := receiveDatagram library settable ⟨payload, address⟩ receiver
    payload.length ≤ maxDatagramBytes ∧
      (∃ announcement,
        decodeAnnouncement library receiver.identity.nodeId payload = some announcement ∧
        ∀ timeMs : Int64, announcement.authorityTimeMs = some timeMs ↔
          sender.timeSyncMode = .authority ∧ timeMs.toInt = currentTimeMs sender.clock) ∧
      after.registry.get? sender.identity.nodeId = some {
        nodeId := sender.identity.nodeId
        callsign := sender.identity.callsign
        address := inetNtop address
        httpPort := httpPort
        appVersion := appVersion
        lastSeenMs := currentTimeMs after.clock } ∧
      after.clock =
        if sender.timeSyncMode = .authority ∧ receiver.timeSyncMode = .client ∧
            (receiver.timeAuthorityId = [] ∨
              receiver.timeAuthorityId = sender.identity.nodeId) then
          synchronizeTime settable (currentTimeMs sender.clock) receiver.clock
        else receiver.clock := by
  intro payload after
  have low : -2 ^ 63 ≤ currentTimeMs sender.clock := by omega
  have valid :=
    validPayload_announce lawful accepted inRange sender.timeSyncMode low reading.2 other
  have decoded := (decodeAnnouncement_eq_some _ _ _ _).mpr valid
  have authority := announcement_authorityTimeMs sender.identity httpPort sender.timeSyncMode low
    reading.2
  have received : after = _ := receiveDatagram_accepted decoded settable
  refine ⟨announce_length_le lawful accepted inRange.2 sender.timeSyncMode low reading.2,
    ⟨_, decoded, authority⟩, ?_, ?_⟩
  · -- The entry is stamped by the clock as it was just set.
    rw [received]
    exact PeerRegistry.get?_update_same _ _
  · rw [received]
    simp only [clockAfter]
    cases sent : (announcement sender.identity httpPort sender.timeSyncMode
        (currentTimeMs sender.clock)).authorityTimeMs with
    | none =>
      -- Without a time, the sender is no authority.
      have noAuthority : sender.timeSyncMode ≠ .authority := by
        intro same
        simp [announcement, same] at sent
      simp [noAuthority]
    | some timeMs =>
      obtain ⟨same, time⟩ := (authority timeMs).mp sent
      simp only [same, time, true_and, DiscoveryService.follows]
      rfl

/-- The announcement of an authority reaches a client with its name, its port and its time. -/
theorem announce_understood_gate :
    let gate : DiscoveryService :=
      ⟨⟨ascii "gate", [0x22, 0xFF]⟩, .authority, [], PeerRegistry.empty, ⟨0, 5000, 700⟩⟩
    let client : DiscoveryService :=
      ⟨⟨ascii "a", ascii "Alice"⟩, .client, ascii "gate", PeerRegistry.empty, ⟨0, 10, 0⟩⟩
    (receiveDatagram plainJsonC true ⟨sendAnnounce plainJsonC 7777 gate, ⟨10, 0, 0, 1⟩⟩
      client).clock = ⟨0, 5700, 0⟩ := by
  -- The callsign is no text at all, and the announcement is understood all the same.
  intro gate client
  have accepted : gate.identity.Accepted := ⟨by decide +kernel, by decide +kernel⟩
  have port : 1 ≤ 7777 ∧ 7777 ≤ 65535 := by decide
  have other : gate.identity.nodeId ≠ client.identity.nodeId := by decide +kernel
  have understood := announce_understood plainJsonC_lawful accepted port (by decide) other
    ⟨10, 0, 0, 1⟩ true
  exact understood.2.2.2.trans (by decide +kernel)

end LesChat
