import LesChat.Discovery.TimeAuthority
import LesChat.Discovery.Understood
import LesChat.Http.DeliveryOrder
import Mathlib.Logic.Function.Basic

/-! How close the clocks of the clients of one authority stay, however late its time reaches them. -/

namespace LesChat

open Foundation

/-- An authority and its clients, whose clocks run at the same speed. -/
structure TimeMesh (ι : Type*) where
  /-- The real time. -/
  realMs : Int
  /-- The authority. -/
  authority : DiscoveryService
  /-- The clients. -/
  clients : ι → DiscoveryService
  /-- Every announcement of the authority, with the real time it was sent at. -/
  announced : List (Bytes × Int)
  /-- Which clients took a time from a datagram yet. -/
  heard : ι → Bool

/-- One thing that happens. -/
inductive TimeAction (ι : Type*) where
  /-- Real time passes, for every clock alike. -/
  | elapse (elapsedMs : Nat)
  /-- The authority announces itself. -/
  | announce (httpPort : Nat)
  /-- A client receives a datagram, from anybody. -/
  | receive (client : ι) (datagram : Datagram) (settable : Bool)

/-- The time a service takes from a datagram, if it follows the one who sent it. -/
def followedTime (library : JsonC) (service : DiscoveryService) (datagram : Datagram) :
    Option Int64 :=
  (decodeAnnouncement library service.identity.nodeId datagram.payload).bind fun announcement =>
    if service.follows announcement then announcement.authorityTimeMs else none

/-- A service after real time passed. -/
def DiscoveryService.elapse (elapsedMs : Nat) (service : DiscoveryService) : DiscoveryService :=
  { service with clock := service.clock.elapse elapsedMs }

section Steps

variable {ι : Type*} [DecidableEq ι] (library : JsonC)

/-- The mesh after one action. -/
def timeStep (mesh : TimeMesh ι) : TimeAction ι → TimeMesh ι
  | .elapse elapsedMs =>
    { mesh with
      realMs := mesh.realMs + elapsedMs
      authority := mesh.authority.elapse elapsedMs
      clients := fun client => (mesh.clients client).elapse elapsedMs }
  | .announce httpPort =>
    { mesh with
      announced := mesh.announced ++
        [(sendAnnounce library httpPort mesh.authority, mesh.realMs)] }
  | .receive client datagram settable =>
    { mesh with
      clients := Function.update mesh.clients client
        (receiveDatagram library settable datagram (mesh.clients client))
      heard := Function.update mesh.heard client (mesh.heard client ||
        (followedTime library (mesh.clients client) datagram).isSome) }

/--
Whatever time a client takes from a datagram was announced by the authority a short time ago.

The clock of the authority can be announced.
-/
def TimeAction.Prompt (delayMs : Nat) (mesh : TimeMesh ι) : TimeAction ι → Prop
  | .elapse _ => True
  | .announce httpPort => (1 ≤ httpPort ∧ httpPort ≤ 65535) ∧
      0 < currentTimeMs mesh.authority.clock ∧ currentTimeMs mesh.authority.clock < 2 ^ 63
  | .receive client datagram _ =>
    (followedTime library (mesh.clients client) datagram).isSome →
      ∃ sentMs, (datagram.payload, sentMs) ∈ mesh.announced ∧ mesh.realMs - sentMs ≤ delayMs

/-- Nothing was announced or heard yet, and the authority is none of its clients. -/
structure TimeMesh.Fresh (mesh : TimeMesh ι) : Prop where
  /-- The authority announces its time. -/
  announces : mesh.authority.timeSyncMode = .authority
  /-- Its identity passed the checks of `main`. -/
  accepted : mesh.authority.identity.Accepted
  /-- No client has its identifier. -/
  others : ∀ client,
    mesh.authority.identity.nodeId ≠ (mesh.clients client).identity.nodeId
  /-- Nothing was announced. -/
  silent : mesh.announced = []
  /-- Nobody took a time. -/
  unheard : ∀ client, mesh.heard client = false

end Steps

section Readings

/-- Time passing moves the current time on. -/
@[simp] theorem currentTimeMs_elapse (elapsedMs : Nat) (clock : Clock) :
    currentTimeMs (clock.elapse elapsedMs) = currentTimeMs clock + elapsedMs := by
  -- Both clocks move on by the same time.
  simp only [currentTimeMs, Clock.elapse]
  omega

/-- A time that is taken leaves the current time less than a quarter of a second away from it. -/
theorem synchronizeTime_close {authorityTimeMs : Int} (positive : 0 < authorityTimeMs)
    (settable : Bool) (clock : Clock) :
    authorityTimeMs - 250 < currentTimeMs (synchronizeTime settable authorityTimeMs clock) ∧
      currentTimeMs (synchronizeTime settable authorityTimeMs clock) < authorityTimeMs + 250 := by
  by_cases differs : clock.Differs authorityTimeMs
  · rw [currentTimeMs_synchronizeTime differs]
    omega
  · -- A time that is close already is not taken over.
    rw [synchronizeTime_of_not_differs differs]
    simp only [Clock.Differs, positive, true_and, not_not] at differs
    omega

/-- A datagram sets the clock to the time that is followed, or leaves it alone. -/
theorem receiveDatagram_clock (library : JsonC) (settable : Bool) (datagram : Datagram)
    (service : DiscoveryService) :
    (receiveDatagram library settable datagram service).clock =
      match followedTime library service datagram with
      | some timeMs => synchronizeTime settable timeMs.toInt service.clock
      | none => service.clock := by
  cases decoded : decodeAnnouncement library service.identity.nodeId datagram.payload with
  | none => simp [receiveDatagram_rejected decoded, followedTime, decoded]
  | some announcement =>
    -- The time that is followed is the one the clock is set by.
    rw [receiveDatagram_accepted decoded]
    simp only [clockAfter, followedTime, decoded, Option.bind_some]
    cases timed : announcement.authorityTimeMs with
    | none => simp
    | some timeMs =>
      by_cases follows : service.follows announcement
      · simp [follows]
      · simp [follows]

end Readings

section Agreement

variable {ι : Type*} {library : JsonC}

/-- What the announcements in flight say, and how far the clients are from the authority. -/
structure TimeMesh.Agreeing (library : JsonC) (delayMs : Nat) (mesh : TimeMesh ι) : Prop where
  /-- The authority announces its time. -/
  announces : mesh.authority.timeSyncMode = .authority
  /-- Its identity passed the checks of `main`. -/
  accepted : mesh.authority.identity.Accepted
  /-- No client has its identifier. -/
  others : ∀ client,
    mesh.authority.identity.nodeId ≠ (mesh.clients client).identity.nodeId
  /-- A time that can be taken from an announcement is what the authority's clock was. -/
  timed : ∀ entry ∈ mesh.announced, ∀ client announcement timeMs,
    decodeAnnouncement library (mesh.clients client).identity.nodeId entry.1 = some announcement →
    announcement.authorityTimeMs = some timeMs →
      0 < timeMs.toInt ∧ entry.2 ≤ mesh.realMs ∧
        timeMs.toInt = currentTimeMs mesh.authority.clock - (mesh.realMs - entry.2)
  /-- A client that took a time is close to the authority. -/
  close : ∀ client, mesh.heard client = true →
    currentTimeMs mesh.authority.clock - (250 + delayMs) <
        currentTimeMs (mesh.clients client).clock ∧
      currentTimeMs (mesh.clients client).clock < currentTimeMs mesh.authority.clock + 250

/-- A mesh in which nothing happened agrees. -/
theorem TimeMesh.Fresh.agreeing {mesh : TimeMesh ι} (fresh : mesh.Fresh) (delayMs : Nat) :
    mesh.Agreeing library delayMs where
  announces := fresh.announces
  accepted := fresh.accepted
  others := fresh.others
  timed := by simp [fresh.silent]
  close := by simp [fresh.unheard]

variable [DecidableEq ι] {delayMs : Nat} {mesh : TimeMesh ι}

/-- Announcing the time keeps a mesh agreeing. -/
theorem TimeMesh.Agreeing.announce (lawful : library.Lawful)
    (agreeing : mesh.Agreeing library delayMs) {httpPort : Nat}
    (prompt : TimeAction.Prompt library delayMs mesh (.announce httpPort)) :
    (timeStep library mesh (.announce httpPort)).Agreeing library delayMs where
  announces := agreeing.announces
  accepted := agreeing.accepted
  others := agreeing.others
  close := agreeing.close
  timed := by
    obtain ⟨inRange, positive, word⟩ := prompt
    intro entry listed client announcement timeMs decoded time
    rcases List.mem_append.mp listed with old | new
    · exact agreeing.timed entry old client announcement timeMs decoded time
    · -- Every client reads the new one as it was sent.
      rw [List.mem_singleton.mp new] at decoded ⊢
      have low : -2 ^ 63 ≤ currentTimeMs mesh.authority.clock := by omega
      have valid := validPayload_announce lawful agreeing.accepted inRange
        mesh.authority.timeSyncMode low word (agreeing.others client)
      have sent := (decodeAnnouncement_eq_some _ _ _ _).mpr valid
      have same : announcement = _ := Option.some.inj (decoded.symm.trans sent)
      rw [same] at time
      have reading := ((announcement_authorityTimeMs _ _ _ low word timeMs).mp time).2
      simp only [timeStep]
      omega

/-- Time passing keeps a mesh agreeing. -/
theorem TimeMesh.Agreeing.elapse (agreeing : mesh.Agreeing library delayMs) (elapsedMs : Nat) :
    (timeStep library mesh (.elapse elapsedMs)).Agreeing library delayMs where
  announces := agreeing.announces
  accepted := agreeing.accepted
  others := agreeing.others
  timed := by
    intro entry listed client announcement timeMs decoded time
    -- An announcement grows as much older as the clock moves on.
    have before := agreeing.timed entry listed client announcement timeMs decoded time
    simp only [timeStep, DiscoveryService.elapse, currentTimeMs_elapse]
    omega
  close := by
    intro client took
    -- All clocks move on together.
    have before := agreeing.close client took
    simp only [timeStep, DiscoveryService.elapse, currentTimeMs_elapse]
    omega

/-- Receiving a datagram changes no identity. -/
theorem timeStep_receive_identity (mesh : TimeMesh ι) (client : ι) (datagram : Datagram)
    (settable : Bool) (other : ι) :
    ((timeStep library mesh (.receive client datagram settable)).clients other).identity =
      (mesh.clients other).identity := by
  -- A datagram changes no identity, and only one client receives it.
  simp only [timeStep]
  by_cases acts : other = client
  · subst acts
    rw [Function.update_self]
    exact (receiveDatagram_settings library settable datagram (mesh.clients other)).1
  · rw [Function.update_of_ne acts]

/-- A datagram that is received keeps a mesh agreeing. -/
theorem TimeMesh.Agreeing.receive (agreeing : mesh.Agreeing library delayMs) {client : ι}
    {datagram : Datagram} {settable : Bool}
    (prompt : TimeAction.Prompt library delayMs mesh (.receive client datagram settable)) :
    (timeStep library mesh (.receive client datagram settable)).Agreeing library delayMs where
  announces := agreeing.announces
  accepted := agreeing.accepted
  others := by
    intro other
    rw [timeStep_receive_identity]
    exact agreeing.others other
  timed := by
    intro entry listed other announcement timeMs decoded time
    rw [timeStep_receive_identity] at decoded
    exact agreeing.timed entry listed other announcement timeMs decoded time
  close := by
    intro other took
    simp only [timeStep] at took ⊢
    by_cases acts : other = client
    · subst acts
      rw [Function.update_self] at took ⊢
      rw [receiveDatagram_clock]
      cases followed : followedTime library (mesh.clients other) datagram with
      | none =>
        rw [followed, Option.isSome_none, Bool.or_false] at took
        exact agreeing.close other took
      | some timeMs =>
        -- The time was announced at most so long ago, and the clock is set close to it.
        obtain ⟨sentMs, listed, recent⟩ := prompt (by rw [followed]; rfl)
        obtain ⟨announcement, decoded, timed⟩ := Option.bind_eq_some_iff.mp followed
        rw [Option.ite_none_right_eq_some] at timed
        obtain ⟨positive, past, reading⟩ :=
          agreeing.timed _ listed other announcement timeMs decoded timed.2
        have near := synchronizeTime_close positive settable (mesh.clients other).clock
        simp only at past reading ⊢
        omega
    · rw [Function.update_of_ne acts] at took ⊢
      exact agreeing.close other took

/-- Every prompt action keeps a mesh agreeing. -/
theorem timeStep_agreeing (lawful : library.Lawful) (action : TimeAction ι)
    (agreeing : mesh.Agreeing library delayMs) (prompt : action.Prompt library delayMs mesh) :
    (timeStep library mesh action).Agreeing library delayMs := by
  -- One lemma for each action.
  cases action with
  | elapse elapsedMs => exact agreeing.elapse elapsedMs
  | announce httpPort => exact agreeing.announce lawful prompt
  | receive client datagram settable => exact agreeing.receive prompt

/-- Every mesh a prompt run reaches agrees. -/
theorem run_agreeing_times (lawful : library.Lawful) {start : TimeMesh ι} (fresh : start.Fresh)
    {actions : List (TimeAction ι)}
    (prompt : Guarded (timeStep library) (TimeAction.Prompt library delayMs) start actions) :
    (run (timeStep library) start actions).Agreeing library delayMs :=
  -- Every prompt action keeps a mesh agreeing.
  guarded_invariant (fun _ action agreeing here => timeStep_agreeing lawful action agreeing here)
    prompt (fresh.agreeing delayMs)

/-- The authority's clock runs with the real time. -/
theorem run_lead (start : TimeMesh ι) (actions : List (TimeAction ι)) :
    currentTimeMs (run (timeStep library) start actions).authority.clock -
        (run (timeStep library) start actions).realMs =
      currentTimeMs start.authority.clock - start.realMs := by
  -- Only passing time moves the two, and it moves both alike.
  apply @run_invariant _ _ (timeStep library) (fun mesh =>
    currentTimeMs mesh.authority.clock - mesh.realMs =
      currentTimeMs start.authority.clock - start.realMs)
  · intro mesh action same
    cases action with
    | elapse elapsedMs =>
      simp only [timeStep, DiscoveryService.elapse, currentTimeMs_elapse]
      omega
    | announce httpPort => exact same
    | receive client datagram settable => exact same
  · rfl

/--
The clocks of the clients of one authority, after any run in which no time is older than a delay
when it is received, and clients only take times from the authority.

Between the announcements all clocks run at one speed, that of the real time.
A client that took a time, however often and in whatever order the announcements came, is less than
a quarter of a second ahead of the authority, and behind it by less than that and the delay. Two of
them are apart by less than half a second and the delay.
-/
theorem clocks_agree (lawful : library.Lawful) {start : TimeMesh ι} (fresh : start.Fresh)
    (delayMs : Nat) {actions : List (TimeAction ι)}
    (prompt : Guarded (timeStep library) (TimeAction.Prompt library delayMs) start actions) :
    let reached := run (timeStep library) start actions
    let now := fun client => currentTimeMs (reached.clients client).clock
    (∀ client, reached.heard client = true →
      currentTimeMs reached.authority.clock - (250 + delayMs) < now client ∧
        now client < currentTimeMs reached.authority.clock + 250) ∧
    ∀ first second, reached.heard first = true → reached.heard second = true →
      now first - now second < 500 + delayMs := by
  intro reached now
  have agreeing : reached.Agreeing library delayMs := run_agreeing_times lawful fresh prompt
  refine ⟨agreeing.close, ?_⟩
  intro first second firstTook secondTook
  -- Each is close to the authority, and so to the other.
  have left := agreeing.close first firstTook
  have right := agreeing.close second secondTook
  show currentTimeMs (reached.clients first).clock -
    currentTimeMs (reached.clients second).clock < 500 + delayMs
  omega

/-- A gate whose clock two clients follow. -/
def gateMesh : TimeMesh Bool where
  realMs := 0
  authority :=
    ⟨⟨ascii "gate", ascii "Gate"⟩, .authority, [], PeerRegistry.empty, ⟨0, 5000, 0⟩⟩
  clients
    | false => ⟨⟨ascii "a", ascii "Alice"⟩, .client, [], PeerRegistry.empty, ⟨0, 90000, 0⟩⟩
    | true => ⟨⟨ascii "b", ascii "Bob"⟩, .client, ascii "gate", PeerRegistry.empty, ⟨0, 4900, 0⟩⟩
  announced := []
  heard := fun _ => false

/-- What the gate announces first. -/
def gateDatagram : Datagram := ⟨sendAnnounce plainJsonC 7777 gateMesh.authority, ⟨10, 0, 0, 1⟩⟩

/-- The gate is none of its clients, and has announced nothing. -/
theorem gateMesh_fresh : gateMesh.Fresh where
  announces := rfl
  accepted := ⟨by decide +kernel, by decide +kernel⟩
  others := by decide +kernel
  silent := rfl
  unheard := fun _ => rfl

/-- One announcement reaches both clients a little later. -/
theorem gateMesh_prompt : Guarded (timeStep plainJsonC) (TimeAction.Prompt plainJsonC 40) gateMesh
    [.announce 7777, .elapse 40, .receive false gateDatagram true,
      .receive true gateDatagram false] :=
  -- The announcement is forty milliseconds old when it is received.
  ⟨⟨by decide, by decide, by decide⟩, trivial, fun _ => ⟨0, List.mem_singleton_self _, by decide⟩,
    fun _ => ⟨0, List.mem_singleton_self _, by decide⟩, trivial⟩

/-- Two clients, one of which can set its clock, are close after one announcement. -/
theorem clocks_agree_gate :
    let reached := run (timeStep plainJsonC) gateMesh [.announce 7777, .elapse 40,
      .receive false gateDatagram true, .receive true gateDatagram false]
    (reached.heard false = true ∧ reached.heard true = true) ∧
      currentTimeMs (reached.clients false).clock - currentTimeMs (reached.clients true).clock <
        500 + 40 := by
  -- Both clients take the time of the one announcement.
  intro reached
  have took : reached.heard false = true ∧ reached.heard true = true := by decide +kernel
  have agree := clocks_agree plainJsonC_lawful gateMesh_fresh 40 gateMesh_prompt
  exact ⟨took, agree.2 false true took.1 took.2⟩

/-- A message with an earlier stamp is listed before one with a later stamp. -/
theorem pair_sublist_sortedMessages {left right : ChatMessage}
    (less : left.createdAtMs.toInt < right.createdAtMs.toInt) {messages : List ChatMessage}
    (leftStored : left ∈ messages) (rightStored : right ∈ messages) :
    [left, right].Sublist (sortedMessages messages) := by
  -- The stamps are the first thing the histories are sorted by.
  have smaller : sortKey left < sortKey right := by
    apply (messageLess_iff left right).mp
    unfold messageLess
    rw [if_pos fun same => absurd less (by rw [same]; exact lt_irrefl _)]
    exact decide_eq_true (Int64.lt_iff_toInt_lt.mpr less)
  rw [sortedMessages_eq]
  exact pair_sublist_of_ordered sortKey (sortBy_ordered sortKey messages)
    ((sortBy_perm sortKey messages).mem_iff.mpr leftStored)
    ((sortBy_perm sortKey messages).mem_iff.mpr rightStored) smaller

/--
Messages of clients that have taken a time are listed in the order they were written in.

One such client writes a message, and by real time half a second and the delay later or more,
another or the same one writes a second message, each stamped by its own clock at that point of the
run. Then every service that has both lists the first before the second when it is asked for its
messages.
-/
theorem written_in_order (lawful : library.Lawful) {start : TimeMesh ι} (fresh : start.Fresh)
    (delayMs : Nat) {earlier later : List (TimeAction ι)}
    (prompt : Guarded (timeStep library) (TimeAction.Prompt library delayMs) start
      (earlier ++ later)) (first second : ι) {leftNow rightNow : Int64}
    {leftResults rightResults : AddResults} {leftBody rightBody : Bytes}
    {leftService rightService : MessageService} {left right : ChatMessage} :
    let before := run (timeStep library) start earlier
    let after := run (timeStep library) start (earlier ++ later)
    before.heard first = true → after.heard second = true →
      500 + (delayMs : Int) ≤ after.realMs - before.realMs →
      leftNow.toInt = currentTimeMs (before.clients first).clock →
      rightNow.toInt = currentTimeMs (after.clients second).clock →
      (createLocal library leftNow leftResults leftBody leftService).1 = .ok left →
      (createLocal library rightNow rightResults rightBody rightService).1 = .ok right →
      ∀ service : MessageService, left ∈ service.store.messages →
        right ∈ service.store.messages →
        let listed := sortedMessages service.store.messages
        getMessages library service.store.messages = okResponse (serializeJson library (.object [
          (ascii "messages", .array (listed.map messageToJson)),
          (ascii "count", .int listed.length)])) ∧
        [left, right].Sublist listed := by
  intro before after firstTook secondTook apart leftStamp rightStamp leftWritten rightWritten
    service leftStored rightStored listed
  have beginning := ((guarded_append start earlier later).mp prompt).1
  have beforeAgreeing : before.Agreeing library delayMs :=
    run_agreeing_times lawful fresh beginning
  have afterAgreeing : after.Agreeing library delayMs := run_agreeing_times lawful fresh prompt
  have leftClose := beforeAgreeing.close first firstTook
  have rightClose := afterAgreeing.close second secondTook
  -- Between the two points the authority's clock ran with the real time.
  have beforeLead : currentTimeMs before.authority.clock - before.realMs = _ :=
    run_lead start earlier
  have afterLead : currentTimeMs after.authority.clock - after.realMs = _ :=
    run_lead start (earlier ++ later)
  -- The messages were stamped with the readings of the two clocks.
  have leftAt : left.createdAtMs = leftNow := by rw [(createLocal_ok library leftWritten).1]; rfl
  have rightAt : right.createdAtMs = rightNow := by
    rw [(createLocal_ok library rightWritten).1]
    rfl
  have less : left.createdAtMs.toInt < right.createdAtMs.toInt := by
    rw [leftAt, rightAt]
    omega
  constructor
  · rw [getMessages_eq, messagesDocument_eq]
  · exact pair_sublist_sortedMessages less leftStored rightStored

/-- Bob writes half a second after Alice, with a clock that is behind hers. -/
theorem written_in_order_gate :
    let left := localMessage ⟨ascii "a", ascii "Alice"⟩ 1 5000 (ascii "first")
    let right := localMessage ⟨ascii "b", ascii "Bob"⟩ 1 5480 (ascii "second")
    let alice := MessageService.initial ⟨ascii "a", ascii "Alice"⟩
    let bob := MessageService.initial ⟨ascii "b", ascii "Bob"⟩
    let service := (ingestReplica plainJsonC .ok {} left
      (createLocal plainJsonC 5480 {} (ascii "second") bob).2).2
    let listed := sortedMessages service.store.messages
    (createLocal plainJsonC 5000 {} (ascii "first") alice).1 = .ok left ∧
      getMessages plainJsonC service.store.messages = okResponse (serializeJson plainJsonC
        (.object [(ascii "messages", .array (listed.map messageToJson)),
          (ascii "count", .int listed.length)])) ∧
      [left, right].Sublist listed := by
  intro left right alice bob service listed
  -- Alice writes when the announcement was received, and Bob 540 ms later.
  have prompt : Guarded (timeStep plainJsonC) (TimeAction.Prompt plainJsonC 40) gateMesh
      ([.announce 7777, .elapse 40, .receive false gateDatagram true,
        .receive true gateDatagram false] ++ [.elapse 540]) :=
    (guarded_append _ _ _).mpr ⟨gateMesh_prompt, trivial, trivial⟩
  have leftWritten : (createLocal plainJsonC 5000 {} (ascii "first") alice).1 = .ok left := rfl
  have rightWritten : (createLocal plainJsonC 5480 {} (ascii "second") bob).1 = .ok right := rfl
  exact ⟨leftWritten, written_in_order plainJsonC_lawful gateMesh_fresh 40 prompt false true
    (by decide +kernel) (by decide +kernel) (by decide +kernel) (by decide +kernel)
    (by decide +kernel) leftWritten rightWritten service (by decide +kernel) (by decide +kernel)⟩

end Agreement

end LesChat
