import LesChat.Http.DeliveryOrder
import LesChat.Web.Page

/-! What a page shows after any run, and the runs in which it misses nothing. -/

namespace LesChat

open Foundation

section Sorting

/-- The key tells messages with different identifiers apart. -/
theorem sortKey_injOn {messages : List ChatMessage}
    (identified : (messages.map ChatMessage.messageId).Nodup) :
    ∀ first ∈ messages, ∀ second ∈ messages, sortKey first = sortKey second → first = second :=
  -- The key contains the identifier.
  fun _ firstMember _ secondMember same =>
    List.inj_on_of_nodup_map identified firstMember secondMember (sortKey_messageId same)

/-- Rows in the order of their keys are what `get_messages` makes of them. -/
theorem sortedMessages_eq_of_ordered {messages ordered : List ChatMessage}
    (identified : (messages.map ChatMessage.messageId).Nodup) (distinct : ordered.Nodup)
    (same : ∀ message, message ∈ ordered ↔ message ∈ messages)
    (increasing : ordered.Pairwise fun left right => sortKey left ≤ sortKey right) :
    sortedMessages messages = ordered := by
  -- A list that is in order already is what sorting would make of it.
  rw [sortedMessages_eq]
  refine sortBy_eq_of_ordered sortKey ?_ increasing (sortKey_injOn identified)
  exact (List.perm_ext_iff_of_nodup distinct (identified.of_map _)).mpr same

/-- Every message is in the sorted list exactly when it is in the list. -/
theorem mem_sortedMessages {messages : List ChatMessage} {message : ChatMessage} :
    message ∈ sortedMessages messages ↔ message ∈ messages := by
  -- Sorting only rearranges.
  rw [sortedMessages_eq]
  exact (sortBy_perm sortKey messages).mem_iff

/-- The sorted list is in order. -/
theorem sortedMessages_ordered (messages : List ChatMessage) :
    (sortedMessages messages).Pairwise fun left right => sortKey left ≤ sortKey right := by
  -- The history is sorted by the key.
  rw [sortedMessages_eq]
  exact sortBy_ordered sortKey messages

/-- Sorting keeps distinct messages distinct. -/
theorem nodup_sortedMessages {messages : List ChatMessage} (distinct : messages.Nodup) :
    (sortedMessages messages).Nodup := by
  -- Sorting only rearranges.
  rw [sortedMessages_eq]
  exact (sortBy_perm sortKey messages).nodup_iff.mpr distinct

/-- Of the sorted messages, those that are left are sorted. -/
theorem filter_sortedMessages {messages left : List ChatMessage}
    (identified : (messages.map ChatMessage.messageId).Nodup)
    (leftIdentified : (left.map ChatMessage.messageId).Nodup)
    (kept : ∀ message ∈ left, message ∈ messages) :
    (sortedMessages messages).filter (· ∈ left) = sortedMessages left := by
  -- Leaving messages out of an ordered list keeps the others in order.
  refine (sortedMessages_eq_of_ordered leftIdentified ?_ ?_ ?_).symm
  · exact (nodup_sortedMessages (identified.of_map _)).filter _
  · intro message
    rw [List.mem_filter, mem_sortedMessages, decide_eq_true_eq]
    exact ⟨fun both => both.2, fun member => ⟨kept message member, member⟩⟩
  · exact (sortedMessages_ordered messages).sublist List.filter_sublist

/-- A message that sorts after all those left comes last. -/
theorem sortedMessages_concat {messages left : List ChatMessage} {message : ChatMessage}
    (identified : (messages.map ChatMessage.messageId).Nodup)
    (leftIdentified : (left.map ChatMessage.messageId).Nodup) (new : message ∉ messages)
    (member : message ∈ left) (kept : ∀ other ∈ left, other ∈ messages ∨ other = message)
    (last : ∀ other ∈ left, other ≠ message → messageLess other message = true) :
    (sortedMessages messages).filter (· ∈ left) ++ [message] = sortedMessages left := by
  -- The messages left are in order, and the new one follows them all.
  have distinct := (nodup_sortedMessages (identified.of_map _)).filter fun other =>
    decide (other ∈ left)
  refine (sortedMessages_eq_of_ordered leftIdentified ?_ ?_ ?_).symm
  · refine List.nodup_append.mpr ⟨distinct, List.nodup_singleton _, ?_⟩
    intro other inFront same isNew
    rw [List.mem_singleton.mp isNew]
    intro equal
    exact new (mem_sortedMessages.mp (List.mem_of_mem_filter (equal ▸ inFront)))
  · intro other
    rw [List.mem_append, List.mem_filter, mem_sortedMessages, decide_eq_true_eq,
      List.mem_singleton]
    constructor
    · intro either
      rcases either with ⟨_, inLeft⟩ | rfl
      · exact inLeft
      · exact member
    · intro inLeft
      rcases kept other inLeft with old | same
      · exact .inl ⟨old, inLeft⟩
      · exact .inr same
  · refine List.pairwise_append.mpr ⟨(sortedMessages_ordered messages).sublist
      List.filter_sublist, List.pairwise_singleton _ _, ?_⟩
    intro other inFront same isNew
    rw [List.mem_singleton.mp isNew]
    obtain ⟨inMessages, inLeft⟩ := List.mem_filter.mp inFront
    have different : other ≠ message := by
      intro equal
      exact new (mem_sortedMessages.mp (equal ▸ inMessages))
    exact le_of_lt ((messageLess_iff _ _).mp (last other (of_decide_eq_true inLeft) different))

end Sorting

/-- No two rows share an identifier. -/
theorem Database.nodup_messageId (database : Database) :
    (database.rows.map ChatMessage.messageId).Nodup :=
  -- The identifier is the first key of the table.
  database.messages.nodup_first

section Script

variable {τ : Type*} [DecidableEq τ] (text : Bytes → τ)

/-- An element can be created for the message. -/
def isDatable (message : ChatMessage) : Bool := isValidDate message.createdAtMs

/-- Appending a message passes over what is displayed, and over what cannot be. -/
theorem appendMessage_eq (displayed : List ChatMessage) (message : ChatMessage) :
    appendMessage text displayed message =
      Feed.add (elementId text) isDatable displayed message := by
  -- Both look for the identifier first, and for a valid date after that.
  by_cases shows : Feed.Shows (elementId text) displayed message
  · rw [Feed.add_of_shows shows]
    exact if_pos shows
  · rw [Feed.add, if_neg shows]
    refine (if_neg shows).trans ?_
    unfold createMessageElement isDatable
    cases isValidDate message.createdAtMs <;> rfl

/-- The elements of a rendered response are its messages. -/
theorem renderMessages_eq_some {messages elements : List ChatMessage}
    (rendered : renderMessages messages = some elements) : elements = messages := by
  -- The induction follows the messages: each is its own element, or rendering fails.
  induction messages generalizing elements with
  | nil => simpa [renderMessages] using rendered.symm
  | cons message rest ih =>
    unfold renderMessages at rendered ih
    rw [List.mapM_cons] at rendered
    obtain ⟨first, created, rendered⟩ := Option.bind_eq_some_iff.mp rendered
    obtain ⟨others, later, rendered⟩ := Option.bind_eq_some_iff.mp rendered
    simp only [createMessageElement, Option.ite_none_right_eq_some, Option.some.injEq] at created
    rw [← Option.some.inj rendered, ← created.2, ih later]

end Script

section Invariant

variable {library : JsonC} {τ : Type*} [DecidableEq τ] (text : Bytes → τ)

namespace Page

/-- The view is the list it starts from, fed with the events on their way. -/
theorem view_eq (page : Page) (base : List ChatMessage) :
    page.view text base = Feed.feed (elementId text) isDatable base page.inFlight := by
  -- Appending a message is adding it to the list.
  have same : appendMessage text = Feed.add (elementId text) isDatable := by
    funext displayed message
    exact appendMessage_eq text displayed message
  -- The fold of the script is the fold of the feed.
  rw [Page.view, same]
  rfl

/-- What holds in every state of a run in time. -/
structure OnTrack (page : Page) : Prop where
  /-- The store of the daemon is sound. -/
  sound : page.service.store.Sound
  /-- Of what the page will display, the stored messages are those stored, in their order. -/
  shown : ∀ base ∈ page.base, (page.view text base).filter
    (· ∈ page.service.store.database.rows) = sortedMessages page.service.store.database.rows

variable {text} {page : Page} {base : List ChatMessage}

/-- A stored message is in the view. -/
theorem OnTrack.mem_view (onTrack : page.OnTrack text) (starts : base ∈ page.base)
    {message : ChatMessage} (stored : message ∈ page.service.store.database.rows) :
    message ∈ page.view text base := by
  -- The stored messages of the view are all the stored messages.
  have sorted := mem_sortedMessages.mpr stored
  rw [← onTrack.shown base starts] at sorted
  exact List.mem_of_mem_filter sorted

/-- A page that has no list to start from is on track. -/
theorem OnTrack.of_none (sound : page.service.store.Sound) (none : page.base = none) :
    page.OnTrack text :=
  -- There is no list that could show anything.
  ⟨sound, fun base starts => by simp [none] at starts⟩

/-- A cache with every row in it sorts like the rows. -/
theorem sortedMessages_cache (sound : page.service.store.Sound)
    (complete : ∀ row ∈ page.service.store.database.rows, row ∈ page.service.store.messages) :
    sortedMessages page.service.store.messages =
      sortedMessages page.service.store.database.rows := by
  -- A cache lists rows, so it lists them all when none is missing.
  apply sortedMessages_eq_of_ordered sound.nodup_messageId
  · exact nodup_sortedMessages (page.service.store.database.nodup_messageId.of_map _)
  · intro message
    rw [mem_sortedMessages]
    exact ⟨complete message, fun member => sound.cached.subset member⟩
  · exact sortedMessages_ordered _

/-- The snapshot is on track when it is taken from a cache with every row in it. -/
theorem OnTrack.handleMessages (onTrack : page.OnTrack text)
    (complete : ∀ row ∈ page.service.store.database.rows, row ∈ page.service.store.messages) :
    OnTrack text { page with
      snapshot := .answered (sortedMessages page.service.store.messages) } := by
  refine ⟨onTrack.sound, ?_⟩
  intro base starts
  have same : sortedMessages page.service.store.database.rows = base := by
    rw [← sortedMessages_cache onTrack.sound complete]
    exact Option.some.inj starts
  subst same
  -- Every stored message is in the snapshot, so the events add nothing that is stored.
  rw [view_eq, Feed.filter_feed_of_shows, List.filter_eq_self]
  · intro message member
    exact decide_eq_true (mem_sortedMessages.mp member)
  · intro event _ stored
    exact ⟨event, mem_sortedMessages.mpr (of_decide_eq_true stored), rfl⟩

/-- Losing the events on their way keeps a page on track when all of them can be spared. -/
theorem OnTrack.subscribe (onTrack : page.OnTrack text)
    (spared : ∀ base ∈ page.base, ∀ event ∈ page.inFlight, Spared text page base event) :
    OnTrack text { page with subscribed := true, inFlight := [] } := by
  -- The events that are lost would have added nothing that is stored.
  refine ⟨onTrack.sound, ?_⟩
  intro base starts
  rw [← onTrack.shown base starts, view_eq text page]
  show base.filter _ = (Feed.feed (elementId text) isDatable base page.inFlight).filter _
  refine (Feed.filter_feed_of_shows _ ?_).symm
  intro event member stored
  exact spared base starts event member (of_decide_eq_true stored)

/-- Rendering the snapshot keeps a page on track. -/
theorem OnTrack.rendered (onTrack : page.OnTrack text) {messages : List ChatMessage}
    (answered : page.snapshot = .answered messages) :
    OnTrack text { page with snapshot := .rendered, displayed := messages } := by
  -- The snapshot that was on its way is what is displayed now.
  refine ⟨onTrack.sound, ?_⟩
  intro base starts
  obtain rfl := Option.some.inj starts
  exact onTrack.shown messages (by rw [Page.base, answered]; rfl)

/-- Before the snapshot is rendered, what the page displays does not matter. -/
theorem base_of_unrendered (unrendered : page.snapshot ≠ .rendered)
    (displayed inFlight : List ChatMessage) :
    ({ page with displayed, inFlight } : Page).base = page.base := by
  -- Until the snapshot is rendered, nothing depends on what is displayed.
  unfold Page.base
  cases snapshot : page.snapshot with
  | rendered => exact absurd snapshot unrendered
  | _ => rfl

/-- Processing an event before the snapshot keeps a page on track when the event can be spared. -/
theorem OnTrack.overwritten (onTrack : page.OnTrack text) (unrendered : page.snapshot ≠ .rendered)
    {event : ChatMessage} {rest : List ChatMessage} (next : page.inFlight = event :: rest)
    (spared : ∀ base ∈ page.base, Spared text page base event) (displayed : List ChatMessage) :
    OnTrack text { page with displayed, inFlight := rest } := by
  -- The snapshot replaces what was displayed, so the event is as good as lost.
  refine ⟨onTrack.sound, ?_⟩
  rw [base_of_unrendered unrendered]
  intro messages starts
  have before := onTrack.shown messages starts
  have fed : page.view text messages = Feed.feed (elementId text) isDatable
      (Feed.add (elementId text) isDatable messages event) rest := by
    rw [view_eq, next, Feed.feed_cons]
  rw [← before, fed, view_eq]
  show (Feed.feed (elementId text) isDatable messages rest).filter _ = _
  by_cases stored : event ∈ page.service.store.database.rows
  · rw [Feed.add_of_shows (spared messages starts stored)]
  · -- The event is not stored, and it stands in the way of no stored message.
    apply Feed.filter_feed_congr
    · rw [Feed.filter_add_of_neg _ (by simpa using stored)]
    · intro other member isStored
      rw [Feed.shows_add_iff]
      constructor
      · exact .inl
      · intro either
        rcases either with before | named
        · exact before
        · have shows := (Feed.shows_add_iff messages event other).mpr (.inr named)
          have inView := onTrack.mem_view starts (of_decide_eq_true isStored)
          rw [fed] at inView
          have inFront := Feed.mem_of_mem_feed inView shows
          rcases @Feed.add_cases _ _ _ (elementId text) isDatable messages event with
            kept | ⟨_, added⟩
          · exact ⟨other, kept ▸ inFront, rfl⟩
          · rw [added] at inFront
            rcases List.mem_append.mp inFront with old | new
            · exact ⟨other, old, rfl⟩
            · rw [List.mem_singleton.mp new] at isStored
              exact absurd (of_decide_eq_true isStored) stored

/-- Processing an event after the snapshot keeps a page on track. -/
theorem OnTrack.appended (onTrack : page.OnTrack text) (rendered : page.snapshot = .rendered)
    {event : ChatMessage} {rest : List ChatMessage} (next : page.inFlight = event :: rest) :
    OnTrack text { page with
      displayed := appendMessage text page.displayed event, inFlight := rest } := by
  -- The event moves from the stream into the list, and the view stays what it was.
  have before := onTrack.shown page.displayed (by rw [Page.base, rendered]; rfl)
  refine ⟨onTrack.sound, ?_⟩
  intro base starts
  have same : appendMessage text page.displayed event = base := by
    simpa [Page.base, rendered] using starts
  subst same
  have fed : page.view text page.displayed = Feed.feed (elementId text) isDatable
      (Feed.add (elementId text) isDatable page.displayed event) rest := by
    rw [view_eq, next, Feed.feed_cons]
  rw [← before, fed, appendMessage_eq, view_eq]

/-- Of what the page will display, the rows that are left are in their order. -/
theorem OnTrack.shown_left (onTrack : page.OnTrack text) (starts : base ∈ page.base)
    {left : List ChatMessage} (within : ∀ message ∈ page.view text base, message ∈ left →
      message ∈ page.service.store.database.rows) :
    (page.view text base).filter (· ∈ left) =
      (sortedMessages page.service.store.database.rows).filter (· ∈ left) := by
  -- A filter by fewer messages can be applied after the filter by the rows.
  rw [← onTrack.shown base starts, List.filter_filter]
  apply List.filter_congr
  intro message member
  by_cases isLeft : message ∈ left
  · simp [isLeft, within message member isLeft]
  · simp [isLeft]

/-- Publishing an event adds it to what the page will display, when the page is subscribed. -/
theorem view_publish (page : Page) (base : List ChatMessage) (event : ChatMessage) :
    (page.publish [event]).view text base =
      if page.subscribed then Feed.add (elementId text) isDatable (page.view text base) event
      else page.view text base := by
  -- An event that is published is the last one on its way.
  unfold Page.publish
  split
  · rw [view_eq, view_eq]
    exact Feed.feed_concat _ _ _ _ _
  · rfl

/-- Publishing an event the page has changes nothing. -/
theorem view_publish_of_mem {event : ChatMessage} (member : event ∈ page.view text base) :
    (page.publish [event]).view text base = page.view text base := by
  -- The identifier is shown already, so the event is skipped.
  rw [view_publish, Feed.add_of_shows ⟨event, member, rfl⟩, ite_self]

/-- A call that stores nothing keeps a page on track, whatever it publishes. -/
theorem OnTrack.served_nothing (onTrack : page.OnTrack text) {after : MessageService}
    (sound : after.store.Sound) (events : Option ChatMessage)
    (kept : ∀ row ∈ after.store.database.rows, row ∈ page.service.store.database.rows) :
    OnTrack text ({ page with service := after }.publish events.toList) := by
  -- Rows may go, and the event adds nothing that is stored.
  refine ⟨by simpa using sound, ?_⟩
  simp only [service_publish, base_publish]
  intro base starts
  -- The rows that are left stay in their order in the view.
  have left := onTrack.shown_left starts fun message _ isLeft => kept message isLeft
  rw [filter_sortedMessages page.service.store.database.nodup_messageId
    after.store.database.nodup_messageId kept] at left
  rw [← left]
  cases events with
  | none =>
    unfold Page.publish
    split
    · rw [view_eq, view_eq]
      simp
    · rfl
  | some event =>
    rw [Option.toList_some]
    by_cases stored : event ∈ after.store.database.rows
    · -- The page has every stored message already.
      have shown : event ∈ ({ page with service := after } : Page).view text base :=
        onTrack.mem_view starts (kept event stored)
      rw [view_publish_of_mem shown]
      rfl
    · rw [view_publish]
      split
      · exact Feed.filter_add_of_neg _ (by simpa using stored) _
      · rfl

section Storing

variable {after : MessageService} {message : ChatMessage}

/-- A message that reaches the page is put at the end, which is its place. -/
theorem OnTrack.shown_of_reaches (onTrack : page.OnTrack text) (starts : base ∈ page.base)
    (listed : message ∈ after.store.database.rows)
    (kept : ∀ row ∈ after.store.database.rows,
      row ∈ page.service.store.database.rows ∨ row = message)
    (reaches : ReachesPage text page after base message) :
    (({ page with service := after }.publish [message]).view text base).filter
      (· ∈ after.store.database.rows) = sortedMessages after.store.database.rows := by
  obtain ⟨subscribed, datable, fresh, last⟩ := reaches
  -- The identifier is not on its way, so the message is not passed over.
  have new : ¬Feed.Shows (elementId text) (page.view text base) message := by
    intro shows
    obtain ⟨other, member, same⟩ := shows
    rw [view_eq] at member
    exact fresh ⟨other, List.mem_append.mpr (Feed.mem_feed member), same⟩
  -- What was stored before would be in the view, and the message is not.
  have unstored : message ∉ page.service.store.database.rows := by
    intro stored
    exact new ⟨message, onTrack.mem_view starts stored, rfl⟩
  have added : ({ page with service := after }.publish [message]).view text base =
      page.view text base ++ [message] := by
    rw [view_publish, if_pos subscribed]
    exact Feed.add_of_new new datable
  have left := onTrack.shown_left starts fun other member isLeft =>
    (kept other isLeft).resolve_right fun same => new ⟨other, member, by rw [same]⟩
  have single : [message].filter (· ∈ after.store.database.rows) = [message] := by
    simpa using listed
  rw [added, List.filter_append, left, single]
  exact sortedMessages_concat page.service.store.database.nodup_messageId
    after.store.database.nodup_messageId unstored listed kept last

/-- A message that occurs once splits a list into what is before it and what is behind it. -/
theorem exists_split_of_count {list : List ChatMessage} (once : list.count message = 1) :
    ∃ front behind, list = front ++ message :: behind ∧ message ∉ front ∧ message ∉ behind ∧
      list.takeWhile (· != message) = front := by
  obtain ⟨front, behind, rfl⟩ :=
    List.append_of_mem (List.count_pos_iff.mp (show 0 < list.count message by omega))
  rw [List.count_append, List.count_cons_self] at once
  have inFront : message ∉ front := List.count_eq_zero.mp (by omega)
  have inBehind : message ∉ behind := List.count_eq_zero.mp (by omega)
  refine ⟨front, behind, rfl, inFront, inBehind, ?_⟩
  -- Nothing before it stops the search, and the message itself does.
  rw [List.takeWhile_append_of_pos, List.takeWhile_cons_of_neg (by simp), List.append_nil]
  intro other member
  simpa using fun same : other = message => inFront (same ▸ member)

/-- A message that is in its place stays there. -/
theorem OnTrack.shown_of_inPlace (onTrack : page.OnTrack text) (starts : base ∈ page.base)
    (listed : message ∈ after.store.database.rows)
    (kept : ∀ row ∈ after.store.database.rows,
      row ∈ page.service.store.database.rows ∨ row = message)
    (inPlace : InPlace text page after base message) :
    (({ page with service := after }.publish [message]).view text base).filter
      (· ∈ after.store.database.rows) = sortedMessages after.store.database.rows := by
  -- The event is passed over, and the view has the stored messages in order already.
  obtain ⟨once, placed⟩ := inPlace
  obtain ⟨front, behind, split, notBefore, notBehind, before⟩ := exists_split_of_count once
  have member : message ∈ page.view text base := List.count_pos_iff.mp (by omega)
  rw [before] at placed
  -- The event is passed over, so the view stays what it is.
  have shown : message ∈ ({ page with service := after } : Page).view text base := member
  rw [view_publish_of_mem shown]
  show (page.view text base).filter (· ∈ after.store.database.rows) = _
  have parted : (page.view text base).filter (· ∈ after.store.database.rows) =
      front.filter (· ∈ after.store.database.rows) ++
        message :: behind.filter (· ∈ after.store.database.rows) := by
    rw [split, List.filter_append, List.filter_cons_of_pos (by simpa using listed)]
  have different : ∀ other, other ∈ front ++ behind → other ≠ message := by
    rintro other inList rfl
    rcases List.mem_append.mp inList with inFront | inBehind
    · exact notBefore inFront
    · exact notBehind inBehind
  have stored : ∀ other ∈ front ++ behind, other ∈ after.store.database.rows →
      other ∈ page.service.store.database.rows := fun other inList left =>
    (kept other left).resolve_right (different other inList)
  -- The other rows that are left were stored before, and stand in their order.
  have others : (front.filter (· ∈ after.store.database.rows) ++
      behind.filter (· ∈ after.store.database.rows)).Sublist
        (sortedMessages page.service.store.database.rows) := by
    rw [← onTrack.shown base starts, ← List.filter_append]
    have narrowed : (front ++ behind).filter (· ∈ after.store.database.rows) =
        ((front ++ behind).filter (· ∈ page.service.store.database.rows)).filter
          (· ∈ after.store.database.rows) := by
      rw [List.filter_filter]
      refine List.filter_congr fun other inList => ?_
      by_cases left : other ∈ after.store.database.rows
      · simp [left, stored other inList left]
      · simp [left]
    rw [narrowed]
    refine List.filter_sublist.trans (List.Sublist.filter _ ?_)
    rw [split]
    exact List.Sublist.append_left (List.sublist_cons_self _ _) _
  have distinct := others.nodup (nodup_sortedMessages
    (page.service.store.database.nodup_messageId.of_map ChatMessage.messageId))
  have increasing := (sortedMessages_ordered page.service.store.database.rows).sublist others
  rw [parted]
  refine (sortedMessages_eq_of_ordered after.store.database.nodup_messageId ?_ ?_ ?_).symm
  · refine List.nodup_middle.mpr (List.nodup_cons.mpr ⟨fun inOthers => ?_, distinct⟩)
    rw [← List.filter_append] at inOthers
    exact different message (List.mem_of_mem_filter inOthers) rfl
  · intro other
    rw [← parted, List.mem_filter, decide_eq_true_eq]
    refine ⟨fun both => both.2, fun stored => ⟨?_, stored⟩⟩
    rcases kept other stored with old | rfl
    · exact onTrack.mem_view starts old
    · exact member
  · rw [List.pairwise_append] at increasing
    rw [List.pairwise_append, List.pairwise_cons]
    -- What is before the message is smaller, and what is behind it is not.
    have smaller : ∀ other ∈ front.filter (· ∈ after.store.database.rows),
        sortKey other ≤ sortKey message := by
      intro other inFront
      obtain ⟨inFront, left⟩ := List.mem_filter.mp inFront
      have inList : other ∈ front ++ behind := List.mem_append_left _ inFront
      have left := of_decide_eq_true left
      have less :=
        (placed other (stored other inList left) left (different other inList)).mp inFront
      exact le_of_lt ((messageLess_iff _ _).mp less)
    have larger : ∀ other ∈ behind.filter (· ∈ after.store.database.rows),
        sortKey message ≤ sortKey other := by
      intro other inBehind
      obtain ⟨isBehind, left⟩ := List.mem_filter.mp inBehind
      have inList : other ∈ front ++ behind := List.mem_append_right _ isBehind
      have isLeft := of_decide_eq_true left
      refine not_lt.mp fun less => ?_
      have inFront := (placed other (stored other inList isLeft) isLeft
        (different other inList)).mpr ((messageLess_iff _ _).mpr less)
      exact (List.nodup_append.mp distinct).2.2 other (List.mem_filter.mpr ⟨inFront, left⟩) other
        inBehind rfl
    refine ⟨increasing.1, ⟨larger, increasing.2.1⟩, fun other inFront later inRest => ?_⟩
    rcases List.mem_cons.mp inRest with rfl | inBehind
    · exact smaller other inFront
    · exact increasing.2.2 other inFront later inBehind

/-- A call that stores a message keeps a page on track when that was in time. -/
theorem OnTrack.served_one (onTrack : page.OnTrack text) (sound : after.store.Sound)
    (listed : message ∈ after.store.database.rows)
    (kept : ∀ row ∈ after.store.database.rows,
      row ∈ page.service.store.database.rows ∨ row = message)
    (inTime : ∀ base ∈ page.base,
      ReachesPage text page after base message ∨ InPlace text page after base message) :
    OnTrack text ({ page with service := after }.publish [message]) := by
  -- The message is published at the end, or stands in its place already.
  refine ⟨by simpa using sound, ?_⟩
  simp only [service_publish, base_publish]
  intro base starts
  rcases inTime base starts with reaches | inPlace
  · exact onTrack.shown_of_reaches starts listed kept reaches
  · exact onTrack.shown_of_inPlace starts listed kept inPlace

end Storing

end Page

/-- Every action in time keeps a page on track. -/
theorem pageStep_onTrack {page : Page} {action : PageAction} (onTrack : page.OnTrack text)
    (inTime : InTime library text page action) :
    (pageStep library text page action).OnTrack text := by
  -- One case for each action, and for each state of the snapshot it can meet.
  cases action with
  | handleMessages =>
    dsimp only [pageStep]
    cases snapshot : page.snapshot with
    | requested => exact onTrack.handleMessages (inTime snapshot)
    | _ => exact onTrack
  | handleEvents =>
    dsimp only [pageStep, Page.subscribe]
    cases subscribed : page.subscribed with
    | true => exact onTrack
    | false => exact onTrack.subscribe (inTime subscribed)
  | serve call =>
    have sound : (call.after library page.service).store.Sound := call.sound_after onTrack.sound
    have stored : ServiceCall.Stored page.service (call.after library page.service)
        (call.event library page.service) := call.stored_after
    dsimp only [pageStep]
    cases published : call.event library page.service with
    | none =>
      rw [published] at stored
      cases stored with
      | nothing _ kept => exact onTrack.served_nothing sound none kept
    | some message =>
      rw [published] at stored
      cases stored with
      | nothing _ kept => exact onTrack.served_nothing sound (some message) kept
      | one _ new listed kept =>
        refine onTrack.served_one sound listed kept fun base starts => ?_
        exact inTime base starts message published new
  | deliverSnapshot =>
    dsimp only [pageStep]
    cases snapshot : page.snapshot with
    | answered messages =>
      dsimp only
      cases rendering : renderMessages messages with
      | none => exact .of_none onTrack.sound rfl
      | some elements =>
        rw [renderMessages_eq_some rendering]
        exact onTrack.rendered snapshot
    | _ => exact onTrack
  | deliverEvent =>
    dsimp only [pageStep]
    cases next : page.inFlight with
    | nil => exact onTrack
    | cons event rest =>
      by_cases rendered : page.snapshot = .rendered
      · exact onTrack.appended rendered next
      · refine onTrack.overwritten rendered next (fun base starts => ?_) _
        exact inTime rendered base starts event (by rw [next]; rfl)
  | disconnect => exact ⟨onTrack.sound, onTrack.shown⟩

/-- A settled page on track shows what its daemon has. -/
theorem Page.OnTrack.missesNothing {page : Page} (onTrack : page.OnTrack text)
    (settled : page.Settled) : page.MissesNothing := by
  -- Nothing is on its way, so the page displays its whole view.
  have base : page.displayed ∈ page.base := by
    rw [Page.base, settled.rendered]
    rfl
  have shown := onTrack.shown page.displayed base
  rw [Page.view_eq, settled.quiet] at shown
  change page.displayed.filter _ = _ at shown
  have cached := onTrack.sound.cached.subset
  constructor
  · intro message stored
    have distinct := nodup_sortedMessages
      ((page.service.store.database.nodup_messageId).of_map ChatMessage.messageId)
    -- It stands once among the sorted rows, which are the stored part of what is displayed.
    have once := List.count_eq_one_of_mem distinct (mem_sortedMessages.mpr stored)
    rw [← shown] at once
    exact (List.count_filter (by simpa using stored)).symm.trans once
  · rw [← filter_sortedMessages page.service.store.database.nodup_messageId
      onTrack.sound.nodup_messageId fun message member => cached member, ← shown,
      List.filter_filter]
    apply List.filter_congr
    intro message member
    by_cases listed : message ∈ page.service.store.messages
    · simp [listed, cached listed]
    · simp [listed]

/--
A page misses nothing in any state of a run whose actions are all in time.

The daemon starts with any sound store, and the run interleaves the two requests, the calls that
store and publish messages, the deliveries and the breaks of the stream as it likes.
-/
theorem page_missesNothing {service : MessageService} (sound : service.store.Sound)
    {actions : List PageAction}
    (inTime : Guarded (pageStep library text) (InTime library text) (Page.initial service) actions)
    (count : Nat)
    (settled : (run (pageStep library text) (Page.initial service) (actions.take count)).Settled) :
    (run (pageStep library text) (Page.initial service) (actions.take count)).MissesNothing := by
  -- A page that was just loaded has no list to start from.
  have start : (Page.initial service).OnTrack text := .of_none sound rfl
  have onTrack := guarded_invariant (fun page action => pageStep_onTrack text) (inTime.take count)
    start
  exact onTrack.missesNothing text settled

end Invariant

/-- A page whose stream is connected in time shows a message of before and one of after. -/
theorem page_missesNothing_connected :
    let service := (createLocal plainJsonC 1 {} (ascii "one")
      (MessageService.initial ⟨ascii "a", ascii "Alice"⟩)).2
    let actions : List PageAction := [.handleEvents, .handleMessages,
      .serve (.createLocal 2 {} (ascii "two")), .deliverSnapshot, .deliverEvent]
    let page := run (pageStep plainJsonC id) (Page.initial service) actions
    page.Settled ∧ page.MissesNothing ∧
      page.displayed.map ChatMessage.messageId = [ascii "a:1", ascii "a:2"] := by
  intro service actions page
  have settled : page.Settled := ⟨by decide +kernel, by decide +kernel, by decide +kernel⟩
  have started : (MessageService.initial ⟨ascii "a", ascii "Alice"⟩).Sound
      ⟨ascii "a", ascii "Alice"⟩ := Node.initial_sound _
  have sound : service.store.Sound := (started.createLocal plainJsonC 1 {} (ascii "one")).stored
  refine ⟨settled, ?_, by decide +kernel⟩
  -- The stream is opened before the messages are asked for.
  have inTime : Guarded (pageStep plainJsonC id) (InTime plainJsonC id) (Page.initial service)
      actions := by decide +kernel
  exact page_missesNothing id sound inTime 5 settled

/--
A message stored between the two requests is missed.

The server answers the request for the messages, a message is created, and only then the stream is
connected: the page shows neither a snapshot nor an event with the message.
-/
theorem page_missesSomething :
    let actions : List PageAction := [.handleMessages, .serve (.createLocal 1 {} (ascii "one")),
      .handleEvents, .deliverSnapshot]
    let page := run (pageStep plainJsonC id)
      (Page.initial (MessageService.initial ⟨ascii "a", ascii "Alice"⟩)) actions
    page.Settled ∧ ¬page.MissesNothing := by
  -- The message is stored between the two requests.
  intro actions page
  refine ⟨⟨by decide +kernel, by decide +kernel, by decide +kernel⟩, fun missesNothing => ?_⟩
  have once := missesNothing.once (localMessage ⟨ascii "a", ascii "Alice"⟩ 1 1 (ascii "one"))
    (by decide +kernel)
  exact absurd once (by decide +kernel)

end LesChat
