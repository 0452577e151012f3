import LesChat.Store.UsedNumbers
import LesChat.Sync.SummaryLimit
import LesChat.Sync.SyncRound

/-! Which marks survive being written under C strings, whatever order they are written in. -/

namespace LesChat

open Foundation

/-- The order of the table, except that one entry comes last. -/
def IterationOrder.endingWith (entry : Bytes × Nat) : IterationOrder where
  arrange entries := if entry ∈ entries then entries.erase entry ++ [entry] else entries
  complete entries := by
    split
    · rename_i member
      exact List.perm_append_comm.trans (List.perm_cons_erase member).symm
    · exact List.Perm.refl entries

section Summary

variable {order : IterationOrder} {database : Database}

/-- Of the origins that agree with a name as C strings, the last one written gives its mark. -/
theorem originsJson_get?_cString (name : Bytes) :
    (originsJson order (sequenceSummary database)).get? name =
      ((order.arrange (sequenceSummary database)).filter fun entry =>
        cString entry.1 = name).getLast?.map fun entry => .int (Int64.ofNat entry.2).toInt := by
  -- Of origins that agree as C strings, the last one written stays.
  rw [originsJson, jsonObject, List.foldl_map]
  change Keyed.lookup _ name = _
  rw [Keyed.lookup_foldl_upsert (fun entry : Bytes × Nat => cString entry.1)]
  exact Option.or_none

/-- The mark read for a message is that of the last origin that agrees with its own. -/
theorem summaryLast_cString (consistent : database.Consistent) (message : ChatMessage) :
    summaryLast (originsJson order (sequenceSummary database)) message =
      (((order.arrange (sequenceSummary database)).filter fun entry =>
        cString entry.1 = cString message.origin).getLast?.map Prod.snd).getD 0 := by
  rw [summaryLast, originsJson_get?_cString]
  cases last : ((order.arrange (sequenceSummary database)).filter fun entry =>
      cString entry.1 = cString message.origin).getLast? with
  | none => rfl
  | some entry =>
    -- A stored mark is in the range of a signed word.
    have member := (List.mem_filter.mp (List.mem_of_getLast? last)).1
    have stored := (database.sequences.mem_entries_iff entry.1 entry.2).mp
      ((order.complete _).mem_iff.mp member)
    have bounded := consistent.mark_le entry.1
    simp only [Marks.value, stored, Option.getD_some] at bounded
    simp only [Option.map_some, jsonGetInt64, Int64.ofIntClamp_toInt, Option.getD_some]
    rw [toInt_ofNat_of_le bounded]
    rfl

end Summary

section Answer

variable (library : JsonC)

/-- The mark `send_missing` reads for a message out of an answer, if it can read any. -/
def answeredMark (response : HttpResponse) (message : ChatMessage) : Option Nat :=
  let parsed := parseJson library response.body
  if !parsed.success || !jsonIsObject parsed.object then none
  else
    match parsed.object.get? (ascii "origins") with
    | some (.object origins) => some (summaryLast (.object origins) message)
    | _ => none

/-- Whatever order the marks are written in, a peer reads the mark of exactly this origin. -/
def MarkSurvives (request : HttpRequest) (service : MessageService) (message : ChatMessage) :
    Prop :=
  ∀ order, answeredMark library (syncSummary library order request service) message =
    some (service.store.database.sequences.value message.origin)

/-- An answer has the mark its origins were written with. -/
theorem answeredMark_syncSummary {library : JsonC} (lawful : library.Lawful)
    {order : IterationOrder} {request : HttpRequest} {service : MessageService}
    (answered : (syncSummary library order request service).status = 200) (message : ChatMessage) :
    answeredMark library (syncSummary library order request service) message =
      some (summaryLast (originsJson order (sequenceSummary service.store.database)) message) := by
  -- The answer is a summary, which is parsed to its end.
  obtain ⟨success, object, origins⟩ :=
    parseJson_summaryJson lawful order (sequenceSummary service.store.database)
  rw [syncSummary_answered answered, answeredMark, okResponse, synchronize]
  simp only [success, object, origins, Bool.not_true, Bool.or_self, Bool.false_eq_true, if_false]
  rfl

/--
In every state a store reaches, the mark a peer reads for an origin is the one stored for it, in
whatever order the marks are written, exactly when every stored origin that agrees with it up to the
first NUL byte has that mark too.
-/
theorem markSurvives_iff {library : JsonC} (lawful : library.Lawful) (calls : List StoreCall)
    {service : MessageService} (reached : service.store = run storeStep .empty calls)
    {request : HttpRequest}
    (answered : ∀ order, (syncSummary library order request service).status = 200)
    (message : ChatMessage) :
    MarkSurvives library request service message ↔
      ∀ origin mark, service.store.database.sequences.get? origin = some mark →
        cString origin = cString message.origin →
          mark = service.store.database.sequences.value message.origin := by
  have consistent : service.store.database.Consistent := reached ▸ run_consistent calls
  have read : ∀ order, answeredMark library (syncSummary library order request service) message =
      some ((((order.arrange (sequenceSummary service.store.database)).filter fun entry =>
        cString entry.1 = cString message.origin).getLast?.map Prod.snd).getD 0) := by
    intro order
    rw [answeredMark_syncSummary lawful (answered order), summaryLast_cString consistent]
  simp only [MarkSurvives, read, Option.some.injEq]
  constructor
  · -- The entry may be the last one written.
    intro survives origin mark stored same
    have member : (origin, mark) ∈ sequenceSummary service.store.database :=
      (service.store.database.sequences.mem_entries_iff origin mark).mpr stored
    have written := survives (.endingWith (origin, mark))
    simpa [IterationOrder.endingWith, member, same] using written
  · intro alike order
    cases last : ((order.arrange (sequenceSummary service.store.database)).filter fun entry =>
        cString entry.1 = cString message.origin).getLast? with
    | none =>
      -- No stored origin agrees with it, so it is not stored itself.
      have absent : service.store.database.sequences.get? message.origin = none := by
        rw [Option.eq_none_iff_forall_ne_some]
        intro mark stored
        have member : (message.origin, mark) ∈ sequenceSummary service.store.database :=
          (service.store.database.sequences.mem_entries_iff _ _).mpr stored
        have found := List.filter_eq_nil_iff.mp (List.getLast?_eq_none_iff.mp last) _
          ((order.complete _).mem_iff.mpr member)
        exact found (decide_eq_true rfl)
      simp [Marks.value, absent]
    | some entry =>
      obtain ⟨member, same⟩ := List.mem_filter.mp (List.mem_of_getLast? last)
      have stored := (service.store.database.sequences.mem_entries_iff entry.1 entry.2).mp
        ((order.complete _).mem_iff.mp member)
      exact alike entry.1 entry.2 stored (of_decide_eq_true same)

/-- The marks of two plain origins both survive. -/
theorem markSurvives_pair :
    let first : ChatMessage :=
      ⟨5, ascii "a:5", ascii "a", ascii "Alice", defaultChannel, 0, ascii "hi"⟩
    let second : ChatMessage :=
      ⟨9, ascii "b:9", ascii "b", ascii "Bob", defaultChannel, 0, ascii "ho"⟩
    let service := { MessageService.initial ⟨ascii "c", ascii "Carol"⟩ with
      store := run storeStep .empty [.add {} first, .add {} second] }
    let request := jsonRequest (synchronize plainJsonC .stored .empty)
    MarkSurvives plainJsonC request service first := by
  intro first second service request
  have answered : ∀ order, (syncSummary plainJsonC order request service).status = 200 := by
    intro order
    rw [syncSummary_synchronize plainJsonC_lawful, if_pos (by decide +kernel)]
    rfl
  refine (markSurvives_iff plainJsonC_lawful [.add {} first, .add {} second] rfl answered
    first).mpr ?_
  -- Two origins are stored, and their names differ as C strings.
  intro origin mark stored
  have entries : service.store.database.sequences.entries = [(ascii "a", 5), (ascii "b", 9)] := by
    decide +kernel
  have member := (service.store.database.sequences.mem_entries_iff origin mark).mpr stored
  simp only [entries, List.mem_cons, Prod.mk.injEq, List.not_mem_nil, or_false] at member
  rcases member with ⟨rfl, rfl⟩ | ⟨rfl, rfl⟩
  · decide +kernel
  · decide +kernel

/-- The mark of an origin that goes on behind a NUL byte hides the mark of what stands before it. -/
theorem markSurvives_shadowed :
    let first : ChatMessage :=
      ⟨5, ascii "1", ascii "a", ascii "Alice", defaultChannel, 0, ascii "hi"⟩
    let second : ChatMessage :=
      ⟨9, ascii "2", [0x61, 0x00, 0x62], ascii "Bob", defaultChannel, 0, ascii "ho"⟩
    let service := { MessageService.initial ⟨ascii "c", ascii "Carol"⟩ with
      store := run storeStep .empty [.add {} first, .add {} second] }
    let request := jsonRequest (synchronize plainJsonC .stored .empty)
    (∃ object, parseMessage object = some first) ∧ (∃ object, parseMessage object = some second) ∧
      service.store.database.sequences.get? first.origin = some 5 ∧
      answeredMark plainJsonC (syncSummary plainJsonC .stored request service) first = some 9 ∧
      ¬MarkSurvives plainJsonC request service first := by
  intro first second service request
  -- The same members as the encoder's, with the origin in full.
  let object : Json := .object [
    (ascii "sequence", .int 9), (ascii "id", .string (ascii "2")),
    (ascii "callsign", .string (ascii "Bob")), (ascii "channel", .string defaultChannel),
    (ascii "created_at_ms", .int 0), (ascii "body", .string (ascii "ho")),
    (ascii "origin", .string [0x61, 0x00, 0x62])]
  have firstRead : parseMessage (messageToJson first) = some first := by decide +kernel
  have secondRead : parseMessage object = some second := by decide +kernel
  have answered : (syncSummary plainJsonC .stored request service).status = 200 := by
    rw [syncSummary_synchronize plainJsonC_lawful, if_pos (by decide +kernel)]
    rfl
  have marked : service.store.database.sequences.get? first.origin = some 5 := by decide +kernel
  have hidden : answeredMark plainJsonC (syncSummary plainJsonC .stored request service) first =
      some 9 := by
    rw [answeredMark_syncSummary plainJsonC_lawful answered]
    decide +kernel
  refine ⟨⟨_, firstRead⟩, ⟨object, secondRead⟩, marked, hidden, fun survives => ?_⟩
  have same := survives .stored
  rw [hidden, Marks.value, marked] at same
  exact absurd same (by decide)

end Answer

end LesChat
