import LesChat.Foundation.Json
import LesChat.Foundation.Unicode

/-! The bytes of plain JSON text: no control characters, and UTF-8 exactly where the strings are. -/

namespace Foundation.Json

/-! The strings a value holds, its keys among them. -/

mutual

/-- The texts of a value, in the order they are written. -/
def strings : Json → List Bytes
  -- Strings and keys are escaped, and the literal of a number is written as it is.
  | string text => [text]
  | double literal => [literal]
  | array items => itemStrings items
  | object members => memberStrings members
  | null | bool _ | int _ => []

/-- The strings of an array's items. -/
def itemStrings : List Json → List Bytes
  | [] => []
  | item :: rest => strings item ++ itemStrings rest

/-- The strings of an object's members, each key before its value. -/
def memberStrings : List (Bytes × Json) → List Bytes
  | [] => []
  | (key, value) :: rest => key :: strings value ++ memberStrings rest

end

/-- A text is one of an array when it is one of an item. -/
theorem mem_itemStrings {text : Bytes} {items : List Json} :
    text ∈ itemStrings items ↔ ∃ item ∈ items, text ∈ strings item := by
  -- The recursion visits the items one by one.
  induction items with
  | nil => simp [itemStrings]
  | cons item rest ih => simp [itemStrings, ih]

/-! No byte of plain text is a control character. -/

/-- A byte of joined texts is a comma or a byte of one of them. -/
theorem mem_joinComma {byte : UInt8} {texts : List Bytes} (member : byte ∈ joinComma texts) :
    byte = 0x2C ∨ ∃ text ∈ texts, byte ∈ text := by
  -- The induction follows the separator recursion.
  induction texts using joinComma.induct with
  | case1 => simp [joinComma] at member
  | case2 text => exact .inr ⟨text, by simp, by simpa [joinComma] using member⟩
  | case3 text next rest ih =>
    rw [joinComma, List.mem_append, List.mem_cons] at member
    rcases member with first | comma | later
    · exact .inr ⟨text, by simp, first⟩
    · exact .inl comma
    · rcases ih later with comma | ⟨other, inRest, found⟩
      · exact .inl comma
      · exact .inr ⟨other, List.mem_cons_of_mem _ inRest, found⟩

/-- A byte of a string literal is a quote or part of an escape. -/
theorem mem_quoted {escape : UInt8 → Bytes} {text : Bytes} {byte : UInt8}
    (member : byte ∈ quoted escape text) : byte = 0x22 ∨ ∃ source, byte ∈ escape source := by
  -- A byte is one of the two quotes, or comes from escaping.
  simp only [quoted, List.mem_cons, List.mem_append, List.mem_flatMap, List.not_mem_nil,
    or_false] at member
  rcases member with quote | ⟨source, _, found⟩ | quote
  · exact .inl quote
  · exact .inr ⟨source, found⟩
  · exact .inl quote

/-- A decimal numeral is printable ASCII. -/
theorem mem_decimalInt {value : Int} {byte : UInt8} (member : byte ∈ decimalInt value) :
    0x20 ≤ byte.toNat ∧ byte.toNat < 0x80 := by
  -- It consists of digits, behind a minus sign on negative values.
  have digit : ∀ number, byte ∈ decimal number → 0x20 ≤ byte.toNat ∧ byte.toNat < 0x80 := by
    intro number found
    have range := (isDigit_iff byte).mp (isDigit_of_mem_decimal found)
    omega
  cases value with
  | ofNat number => exact digit number member
  | negSucc number =>
    rcases List.mem_cons.mp member with minus | found
    · subst minus
      decide
    · exact digit _ found

/-- Plain text has no control character when no escape has one. -/
theorem plainText_printable {escape : UInt8 → Bytes}
    (printable : ∀ source, ∀ byte ∈ escape source, 0x20 ≤ byte.toNat) {depth : Nat} {value : Json}
    (plain : Plain depth value) : ∀ byte ∈ plainText escape value, 0x20 ≤ byte.toNat := by
  -- The induction follows the value; punctuation, keywords and numerals are printable.
  have literal : ∀ text, ∀ byte ∈ quoted escape text, 0x20 ≤ byte.toNat := by
    intro text byte member
    rcases mem_quoted member with quote | ⟨source, found⟩
    · subst quote
      decide
    · exact printable source byte found
  have joined : ∀ texts : List Bytes, (∀ text ∈ texts, ∀ byte ∈ text, 0x20 ≤ byte.toNat) →
      ∀ byte ∈ joinComma texts, 0x20 ≤ byte.toNat := by
    intro texts each byte member
    rcases mem_joinComma member with comma | ⟨text, inTexts, found⟩
    · subst comma
      decide
    · exact each text inTexts byte found
  induction plain with
  | null => simp only [plainText]; decide +kernel
  | bool depth value =>
    cases value with
    | true => simp only [plainText]; decide +kernel
    | false => simp only [plainText]; decide +kernel
  | int depth low high => exact fun byte member => (mem_decimalInt member).1
  | string depth text => exact literal text
  | array each ih =>
    rw [plainText, List.forall_mem_cons, List.forall_mem_append, itemTexts_eq_map]
    refine ⟨by decide, joined _ ?_, by decide +kernel⟩
    intro text inTexts
    obtain ⟨item, inItems, same⟩ := List.mem_map.mp inTexts
    rw [← same]
    exact ih item inItems
  | object each distinct terminated ih =>
    rw [plainText, List.forall_mem_cons, List.forall_mem_append, memberTexts_eq_map]
    refine ⟨by decide, joined _ ?_, by decide +kernel⟩
    intro text inTexts
    obtain ⟨entry, inMembers, same⟩ := List.mem_map.mp inTexts
    rw [← same, List.forall_mem_append, List.forall_mem_cons]
    exact ⟨literal entry.1, by decide, ih entry inMembers⟩

/-! Plain text is UTF-8 exactly when the strings of the value are. -/

/-- Text between two ASCII bytes decides about the whole. -/
theorem wellFormedUtf8_enclosed {first last : UInt8} {text : Bytes} (opening : first.toNat < 0x80)
    (closing : last.toNat < 0x80) :
    WellFormedUtf8 (first :: (text ++ [last])) ↔ WellFormedUtf8 text := by
  -- Both bytes are cut off, and added again.
  constructor
  · intro whole
    have inside : WellFormedUtf8 [] ∧ WellFormedUtf8 (text ++ [last]) :=
      WellFormedUtf8.cut opening whole
    exact (inside.2.cut closing).1
  · intro inside
    exact (wellFormedUtf8_singleton opening).append
      (inside.append (wellFormedUtf8_singleton closing))

/-- Texts around an ASCII byte decide about the whole. -/
theorem wellFormedUtf8_separated {separator : UInt8} {left right : Bytes}
    (small : separator.toNat < 0x80) :
    WellFormedUtf8 (left ++ separator :: right) ↔ WellFormedUtf8 left ∧ WellFormedUtf8 right :=
  -- An ASCII byte is a character of its own, so the text can be cut there.
  ⟨fun whole => whole.cut small,
    fun parts => parts.1.append ((wellFormedUtf8_singleton small).append parts.2)⟩

/-- Joined texts are well-formed exactly when each of them is. -/
theorem wellFormedUtf8_joinComma (texts : List Bytes) :
    WellFormedUtf8 (joinComma texts) ↔ ∀ text ∈ texts, WellFormedUtf8 text := by
  -- The induction follows the separator recursion, cutting at each comma.
  induction texts using joinComma.induct with
  | case1 => simp [joinComma, wellFormedUtf8_nil]
  | case2 text => simp [joinComma]
  | case3 text next rest ih =>
    rw [joinComma, wellFormedUtf8_separated (by decide), ih, ← List.forall_mem_cons]

/-- A string literal is well-formed exactly when the string is. -/
theorem wellFormedUtf8_quoted {escape : UInt8 → Bytes} (law : AsciiEscape escape) (text : Bytes) :
    WellFormedUtf8 (quoted escape text) ↔ WellFormedUtf8 text := by
  -- The quotes are ASCII, and so is what escaping adds.
  rw [quoted, wellFormedUtf8_enclosed (by decide) (by decide), law.wellFormedUtf8_flatMap]

section WellFormed

variable {escape : UInt8 → Bytes}

mutual

/-- Plain text is well-formed exactly when every text of the value is. -/
theorem wellFormedUtf8_plainText (law : AsciiEscape escape) : (value : Json) →
    (WellFormedUtf8 (plainText escape value) ↔ ∀ text ∈ strings value, WellFormedUtf8 text)
  -- The recursion follows the value; all punctuation is ASCII, so it separates the texts.
  | null => by simpa [plainText, strings] using wellFormedUtf8_ascii (by decide +kernel)
  | bool true => by simpa [plainText, strings] using wellFormedUtf8_ascii (by decide +kernel)
  | bool false => by simpa [plainText, strings] using wellFormedUtf8_ascii (by decide +kernel)
  | int value => by
    have numeral : WellFormedUtf8 (decimalInt value) :=
      wellFormedUtf8_ascii fun byte member => (mem_decimalInt member).2
    simpa [plainText, strings] using numeral
  | double literal => by simp [plainText, strings]
  | string text => by simpa [plainText, strings] using wellFormedUtf8_quoted law text
  | array items => by
    rw [plainText, wellFormedUtf8_enclosed (by decide) (by decide), wellFormedUtf8_joinComma,
      wellFormedUtf8_itemTexts law items, strings]
  | object members => by
    rw [plainText, wellFormedUtf8_enclosed (by decide) (by decide), wellFormedUtf8_joinComma,
      wellFormedUtf8_memberTexts law members, strings]

/-- The texts of the items are well-formed exactly when all they hold is. -/
theorem wellFormedUtf8_itemTexts (law : AsciiEscape escape) : (items : List Json) →
    ((∀ text ∈ itemTexts escape items, WellFormedUtf8 text) ↔
      ∀ text ∈ itemStrings items, WellFormedUtf8 text)
  | [] => by simp [itemTexts, itemStrings]
  | item :: rest => by
    rw [itemTexts, itemStrings, List.forall_mem_cons, List.forall_mem_append,
      wellFormedUtf8_plainText law item, wellFormedUtf8_itemTexts law rest]

/-- The texts of the members are well-formed exactly when all they hold is. -/
theorem wellFormedUtf8_memberTexts (law : AsciiEscape escape) : (members : List (Bytes × Json)) →
    ((∀ text ∈ memberTexts escape members, WellFormedUtf8 text) ↔
      ∀ text ∈ memberStrings members, WellFormedUtf8 text)
  | [] => by simp [memberTexts, memberStrings]
  | (key, value) :: rest => by
    rw [memberTexts, memberStrings, List.forall_mem_cons, wellFormedUtf8_separated (by decide),
      wellFormedUtf8_quoted law, wellFormedUtf8_plainText law value,
      wellFormedUtf8_memberTexts law rest,
      List.cons_append, List.forall_mem_cons, List.forall_mem_append, and_assoc]

end

end WellFormed

end Foundation.Json
