import LesChat.Foundation.Bytes

/-! A parser of server-sent event streams, byte by byte, and what it makes of whole lines. -/

namespace Foundation

/-- An event a stream dispatches. -/
structure StreamEvent where
  /-- The type of the event, which names the listeners it is for. -/
  name : Bytes
  /-- The data of the event. -/
  data : Bytes
  /-- The identifier in force when the event was dispatched. -/
  lastId : Bytes
deriving DecidableEq

/-- The event a stream is building, and those it has dispatched. -/
structure EventBuilder where
  /-- The event type buffer. -/
  eventType : Bytes
  /-- The data buffer, each value followed by a line feed. -/
  data : Bytes
  /-- The last identifier buffer. -/
  lastId : Bytes
  /-- The events dispatched so far. -/
  events : List StreamEvent

namespace EventBuilder

/-- Before the first line of a stream. -/
def start : EventBuilder := ⟨[], [], [], []⟩

/-- What an empty line does: the event that was built is dispatched, unless it has no data. -/
def dispatch (builder : EventBuilder) : EventBuilder :=
  if builder.data.isEmpty then { builder with eventType := [] }
  else
    -- An event without a type is a message, and the last line feed is not part of the data.
    let name := if builder.eventType.isEmpty then ascii "message" else builder.eventType
    { builder with
      eventType := []
      data := []
      events := builder.events ++ [⟨name, builder.data.dropLast, builder.lastId⟩] }

/-- What a field does; unknown fields and the reconnection time change no event. -/
def field (builder : EventBuilder) (name value : Bytes) : EventBuilder :=
  if name = ascii "event" then { builder with eventType := value }
  else if name = ascii "data" then { builder with data := builder.data ++ value ++ [0x0A] }
  else if name = ascii "id" then
    -- An identifier with a NUL byte is ignored.
    if 0 ∈ value then builder else { builder with lastId := value }
  else builder

/-- What a finished line does. -/
def line (builder : EventBuilder) (text : Bytes) : EventBuilder :=
  if text = [] then builder.dispatch
  else
    let name := text.takeWhile (· ≠ 0x3A)
    match text.drop name.length with
    -- A line without a colon is a field with an empty value.
    | [] => builder.field text []
    | _ :: value =>
      -- A line that starts with a colon is a comment.
      if name = [] then builder
      -- One space behind the colon is not part of the value.
      else builder.field name (if value.head? = some 0x20 then value.tail else value)

/-- A field on a line of its own, with a space behind the colon. -/
theorem line_field {builder : EventBuilder} {name value : Bytes} (named : name ≠ [])
    (plain : 0x3A ∉ name) :
    builder.line (name ++ 0x3A :: 0x20 :: value) = builder.field name value := by
  -- The name reaches up to the first colon, which is the one behind it.
  have before : (name ++ 0x3A :: 0x20 :: value).takeWhile (· ≠ 0x3A) = name := by
    rw [List.takeWhile_append_of_pos]
    · simp
    · intro byte member
      have other : byte ≠ 0x3A := fun same => plain (same ▸ member)
      simpa using other
  rw [line, if_neg (by simp), before]
  simp [named]

end EventBuilder

/-- The state of a parser between two bytes. -/
structure EventParser where
  /-- The bytes of the unfinished line. -/
  line : Bytes
  /-- Whether the last byte was a carriage return that ended a line. -/
  afterReturn : Bool
  /-- What the finished lines have built. -/
  builder : EventBuilder

namespace EventParser

/-- A parser at the start of a line. -/
def between (builder : EventBuilder) : EventParser := ⟨[], false, builder⟩

/-- One byte: a line feed right after a carriage return belongs to the same line end. -/
def feed (parser : EventParser) (byte : UInt8) : EventParser :=
  if byte = 0x0A then
    if parser.afterReturn then { parser with afterReturn := false }
    else between (parser.builder.line parser.line)
  else if byte = 0x0D then ⟨[], true, parser.builder.line parser.line⟩
  else { parser with line := parser.line ++ [byte], afterReturn := false }

/-- A whole text, byte by byte. -/
def feedAll (parser : EventParser) (text : Bytes) : EventParser := text.foldl feed parser

/-- One text after the other is the concatenation. -/
theorem feedAll_append (parser : EventParser) (first second : Bytes) :
    parser.feedAll (first ++ second) = (parser.feedAll first).feedAll second :=
  -- The parser goes on where it stopped.
  List.foldl_append

/-- Bytes that end no line extend the unfinished one. -/
theorem feedAll_open {before text : Bytes} (builder : EventBuilder) (noFeed : 0x0A ∉ text)
    (noReturn : 0x0D ∉ text) :
    feedAll ⟨before, false, builder⟩ text = ⟨before ++ text, false, builder⟩ := by
  -- The induction is on the bytes, each of which is appended.
  induction text generalizing before with
  | nil => simp [feedAll]
  | cons byte rest ih =>
    have feedByte : byte ≠ 0x0A := fun same => noFeed (by simp [same])
    have returnByte : byte ≠ 0x0D := fun same => noReturn (by simp [same])
    have step : feed ⟨before, false, builder⟩ byte = ⟨before ++ [byte], false, builder⟩ := by
      rw [feed, if_neg feedByte, if_neg returnByte]
    have later : feedAll ⟨before ++ [byte], false, builder⟩ rest =
        ⟨before ++ [byte] ++ rest, false, builder⟩ :=
      ih (fun member => noFeed (by simp [member])) (fun member => noReturn (by simp [member]))
    rw [feedAll, List.foldl_cons, step, ← feedAll, later]
    simp

/-- A line and its line feed are processed as that line. -/
theorem feedAll_line {text : Bytes} (builder : EventBuilder) (noFeed : 0x0A ∉ text)
    (noReturn : 0x0D ∉ text) :
    (between builder).feedAll (text ++ [0x0A]) = between (builder.line text) := by
  -- The line is open until its break arrives, which closes it.
  rw [feedAll_append, between, feedAll_open builder noFeed noReturn]
  rfl

end EventParser

/-- The events of a stream, which may start with a byte order mark. -/
def parseEvents (stream : Bytes) : List StreamEvent :=
  let text := if stream.take 3 = [0xEF, 0xBB, 0xBF] then stream.drop 3 else stream
  ((EventParser.between EventBuilder.start).feedAll text).builder.events

/-- The lines of an event with a type and one line of data. -/
def eventLines (name data : Bytes) : Bytes :=
  -- The empty line at the end dispatches the event.
  ascii "event: " ++ name ++ ascii "\ndata: " ++ data ++ ascii "\n\n"

/-- Text on one line: it has no byte that ends a line. -/
def OneLine (text : Bytes) : Prop := 0x0A ∉ text ∧ 0x0D ∉ text

/-- Two texts on one line make one line. -/
theorem OneLine.append {left right : Bytes} (first : OneLine left) (second : OneLine right) :
    OneLine (left ++ right) := by
  -- A break would be in one of the two parts.
  constructor
  · intro member
    rcases List.mem_append.mp member with inLeft | inRight
    · exact first.1 inLeft
    · exact second.1 inRight
  · intro member
    rcases List.mem_append.mp member with inLeft | inRight
    · exact first.2 inLeft
    · exact second.2 inRight

/-- Text without control characters is on one line. -/
theorem oneLine_of_printable {text : Bytes} (printable : ∀ byte ∈ text, 0x20 ≤ byte.toNat) :
    OneLine text := by
  -- Both line ends are control characters.
  constructor
  · intro member
    exact absurd (printable 0x0A member) (by decide)
  · intro member
    exact absurd (printable 0x0D member) (by decide)

/-- No event begun: neither a type nor data was given. -/
def EventBuilder.Idle (builder : EventBuilder) : Prop :=
  builder.eventType = [] ∧ builder.data = []

/-- The event of a name and data, under an identifier given before. -/
def EventBuilder.dispatched (builder : EventBuilder) (name data : Bytes) : EventBuilder :=
  { builder with events := builder.events ++ [⟨name, data, builder.lastId⟩] }

/-- The lines of an event dispatch that event, and nothing of it is left behind. -/
theorem feedAll_eventLines {builder : EventBuilder} (idle : builder.Idle) {name data : Bytes}
    (named : name ≠ []) (nameLine : OneLine name) (dataLine : OneLine data) :
    (EventParser.between builder).feedAll (eventLines name data) =
      EventParser.between (builder.dispatched name data) := by
  have lines : eventLines name data =
      (ascii "event" ++ 0x3A :: 0x20 :: name ++ [0x0A]) ++
        ((ascii "data" ++ 0x3A :: 0x20 :: data ++ [0x0A]) ++ ([] ++ [0x0A])) := by
    have event : ascii "event: " = ascii "event" ++ [0x3A, 0x20] := by decide
    have data : ascii "\ndata: " = 0x0A :: ascii "data" ++ [0x3A, 0x20] := by decide
    have blank : ascii "\n\n" = [0x0A, 0x0A] := by decide
    simp [eventLines, event, data, blank]
  -- The first line sets the type, the second adds the data, and the empty one dispatches.
  have typeLine : OneLine (ascii "event" ++ [0x3A, 0x20] ++ name) :=
    OneLine.append ⟨by decide, by decide⟩ nameLine
  have valueLine : OneLine (ascii "data" ++ [0x3A, 0x20] ++ data) :=
    OneLine.append ⟨by decide, by decide⟩ dataLine
  simp only [List.append_assoc, List.cons_append, List.nil_append] at typeLine valueLine
  rw [lines, EventParser.feedAll_append, EventParser.feedAll_append,
    EventParser.feedAll_line _ typeLine.1 typeLine.2,
    EventParser.feedAll_line _ valueLine.1 valueLine.2,
    EventParser.feedAll_line _ (by simp) (by simp),
    EventBuilder.line_field (by decide) (by decide),
    EventBuilder.line_field (by decide) (by decide)]
  obtain ⟨noType, noData⟩ := idle
  have different : ascii "data" ≠ ascii "event" := by decide
  simp [EventBuilder.field, different, noData, EventBuilder.line, EventBuilder.dispatch,
    List.isEmpty_iff, named, EventBuilder.dispatched, noType]

/-- The events of a sequence of names and data, all under one identifier. -/
def namedEvents (lastId : Bytes) (parts : List (Bytes × Bytes)) : List StreamEvent :=
  parts.map fun part => ⟨part.1, part.2, lastId⟩

/-- The lines of several events dispatch them in order. -/
theorem feedAll_flatMap {builder : EventBuilder} (idle : builder.Idle)
    {parts : List (Bytes × Bytes)}
    (each : ∀ part ∈ parts, part.1 ≠ [] ∧ OneLine part.1 ∧ OneLine part.2) :
    (EventParser.between builder).feedAll (parts.flatMap fun part => eventLines part.1 part.2) =
      EventParser.between { builder with
        events := builder.events ++ namedEvents builder.lastId parts } := by
  -- The induction is on the events, each of which leaves the parser between two events.
  induction parts generalizing builder with
  | nil => simp [EventParser.feedAll, namedEvents]
  | cons part rest ih =>
    obtain ⟨named, nameLine, dataLine⟩ := each part (by simp)
    have next : (builder.dispatched part.1 part.2).Idle := idle
    rw [List.flatMap_cons, EventParser.feedAll_append,
      feedAll_eventLines idle named nameLine dataLine,
      ih next fun other member => each other (by simp [member])]
    simp [EventBuilder.dispatched, namedEvents]

/-- A stream of events, one after the other, is parsed into exactly these events. -/
theorem parseEvents_flatMap {parts : List (Bytes × Bytes)}
    (each : ∀ part ∈ parts, part.1 ≠ [] ∧ OneLine part.1 ∧ OneLine part.2) :
    parseEvents (parts.flatMap fun part => eventLines part.1 part.2) = namedEvents [] parts := by
  -- The first byte is a letter, so there is no byte order mark.
  have noMark : ¬(parts.flatMap fun part => eventLines part.1 part.2).take 3 =
      [0xEF, 0xBB, 0xBF] := by
    cases parts with
    | nil => simp
    | cons part rest =>
      have letters : ascii "event: " = [0x65, 0x76, 0x65, 0x6E, 0x74, 0x3A, 0x20] := by decide
      simp [eventLines, letters]
  have idle : EventBuilder.start.Idle := ⟨rfl, rfl⟩
  simp only [parseEvents, if_neg noMark, feedAll_flatMap idle each]
  rfl

end Foundation
