import LesChat.Foundation.Json

/-! A plain serializer's escape table, and a parser that reads back everything it writes. -/

namespace Foundation

namespace Json

/-- A lower-case hexadecimal digit. -/
def hexDigit (value : Nat) : UInt8 :=
  -- Ten digits are followed by six letters.
  if value < 10 then UInt8.ofNat (0x30 + value) else UInt8.ofNat (0x57 + value)

/-- The value of a hexadecimal digit. -/
def hexValue (digit : UInt8) : Nat :=
  -- The letters start right after nine.
  if digit.toNat < 0x3A then digit.toNat - 0x30 else digit.toNat - 0x57

/-- The escapes written with a single letter after the backslash. -/
def letterEscapes : List (UInt8 × UInt8) :=
  -- Backspace, line feed, carriage return, tab, form feed, quote, backslash and slash.
  [(0x08, 0x62), (0x0A, 0x6E), (0x0D, 0x72), (0x09, 0x74), (0x0C, 0x66), (0x22, 0x22),
    (0x5C, 0x5C), (0x2F, 0x2F)]

/-- How one byte of a string is written. -/
def plainEscape (byte : UInt8) : Bytes :=
  match letterEscapes.find? fun entry => entry.1 == byte with
  | some entry => [0x5C, entry.2]
  | none =>
    -- Remaining control bytes take the six-byte form, and everything else stays as it is.
    if byte < 0x20 then
      [0x5C, 0x75, 0x30, 0x30, hexDigit (byte.toNat / 16), hexDigit (byte.toNat % 16)]
    else [byte]

/-- Reading one byte of a string literal, written as itself or as an escape. -/
def readByte (text : Bytes) : Option (UInt8 × Bytes) :=
  match text with
  | [] => none
  | byte :: rest =>
    if byte = 0x5C then
      match rest with
      | [] => none
      | letter :: tail =>
        if letter = 0x75 then
          match tail with
          -- Only the two low digits of a control byte's escape can differ from zero.
          | _ :: _ :: high :: low :: after =>
            some (UInt8.ofNat (16 * hexValue high + hexValue low), after)
          | _ => none
        else (letterEscapes.find? fun entry => entry.2 == letter).map fun entry => (entry.1, tail)
    else some (byte, rest)

/-- Reading string bytes up to the closing quote, with fuel for every byte. -/
def readBytes : Nat → Bytes → Option (Bytes × Bytes)
  | 0, _ => none
  | fuel + 1, text =>
    if text.head? = some 0x22 then some ([], text.tail)
    else
      match readByte text with
      | none => none
      | some (byte, rest) => (readBytes fuel rest).map fun (bytes, after) => (byte :: bytes, after)

/-- Reading the rest of a string literal, up to its closing quote. -/
def readString (text : Bytes) : Option (Bytes × Bytes) :=
  -- Every byte of the string takes at least one byte of the literal.
  readBytes (text.length + 1) text

/-- Reading an integer literal. -/
def readInt (text : Bytes) : Option (Json × Bytes) :=
  let negative := text.head? == some 0x2D
  let unsigned := if negative then text.tail else text
  let digits := unsigned.takeWhile isDigit
  -- A sign alone is no number.
  if digits = [] then none
  else
    let magnitude : Int := decimalValue digits
    some (.int (if negative then -magnitude else magnitude), unsigned.dropWhile isDigit)

/-- Reading one of the three keywords. -/
def readKeyword (text : Bytes) : Option (Json × Bytes) :=
  if (ascii "null").isPrefixOf text then some (.null, text.drop 4)
  else if (ascii "true").isPrefixOf text then some (.bool true, text.drop 4)
  else if (ascii "false").isPrefixOf text then some (.bool false, text.drop 5)
  else none

mutual

/-- Reading one value, with fuel for every byte a container can spend. -/
def readValue : Nat → Bytes → Option (Json × Bytes)
  | 0, _ => none
  | fuel + 1, text =>
    match text with
    | [] => none
    | first :: rest =>
      -- The first byte decides the kind of value.
      if first = 0x22 then (readString rest).map fun (text, after) => (.string text, after)
      else if first = 0x5B then
        if rest.head? = some 0x5D then some (.array [], rest.tail)
        else (readItems fuel rest).map fun (items, after) => (.array items, after)
      else if first = 0x7B then
        if rest.head? = some 0x7D then some (.object [], rest.tail)
        else (readMembers fuel rest).map fun (members, after) =>
          (.object (members.foldl (fun built member => Keyed.upsert built member.1 member.2) []), after)
      else if first = 0x2D || isDigit first then readInt (first :: rest)
      else readKeyword (first :: rest)

/-- Reading the items of a nonempty array, up to its closing bracket. -/
def readItems : Nat → Bytes → Option (List Json × Bytes)
  | 0, _ => none
  | fuel + 1, text =>
    match readValue fuel text with
    | none => none
    | some (item, after) =>
      match after with
      | [] => none
      | separator :: next =>
        if separator = 0x2C then
          (readItems fuel next).map fun (items, after) => (item :: items, after)
        else if separator = 0x5D then some ([item], next)
        else none

/-- Reading the members of a nonempty object, up to its closing brace. -/
def readMembers : Nat → Bytes → Option (List (Bytes × Json) × Bytes)
  | 0, _ => none
  | fuel + 1, text =>
    match text with
    | [] => none
    | quote :: inside =>
      if quote = 0x22 then
        match readString inside with
        | some (key, colon :: valueText) =>
          if colon = 0x3A then
            match readValue fuel valueText with
            | some (value, separator :: next) =>
              if separator = 0x2C then
                (readMembers fuel next).map fun (members, after) =>
                  ((key, value) :: members, after)
              else if separator = 0x7D then some ([(key, value)], next)
              else none
            | _ => none
          else none
        | _ => none
      else none

end

/-- Reading a whole text: the value it starts with and what follows it. -/
def read (text : Bytes) : Option (Json × Bytes) :=
  -- A value can nest at most once for each byte of its text.
  readValue (text.length + 1) text

/-- A byte and the letter its escape is written with determine each other. -/
private theorem letterEscapes_inverse : ∀ entry ∈ letterEscapes,
    entry.2 ≠ 0x75 ∧ letterEscapes.find? (fun other => other.2 == entry.2) = some entry := by
  -- The table is short enough to check line by line.
  have checked : letterEscapes.all (fun entry => decide (entry.2 ≠ 0x75 ∧
      letterEscapes.find? (fun other => other.2 == entry.2) = some entry)) = true := by
    decide +kernel
  exact fun entry member => of_decide_eq_true (List.all_eq_true.mp checked entry member)

/-- The hexadecimal form of a control byte reads back as that byte. -/
private theorem hexValue_digits : ∀ value < 32,
    UInt8.ofNat (16 * hexValue (hexDigit (value / 16)) + hexValue (hexDigit (value % 16))) =
      UInt8.ofNat value := by
  -- There are thirty-two control bytes.
  decide +kernel

/-- Reading an escaped byte gives that byte back and stops behind it. -/
theorem readByte_escape (byte : UInt8) (tail : Bytes) :
    readByte (plainEscape byte ++ tail) = some (byte, tail) := by
  unfold plainEscape
  cases found : letterEscapes.find? fun entry => entry.1 == byte with
  | some entry =>
    -- The letter names the same entry the byte was found in.
    have member := List.mem_of_find?_eq_some found
    have named : entry.1 = byte := by simpa using List.find?_some found
    obtain ⟨notHex, inverse⟩ := letterEscapes_inverse entry member
    simp only [List.cons_append, List.nil_append, readByte, if_true, if_neg notHex, inverse,
      Option.map_some, named]
  | none =>
    -- A byte outside the table is no backslash, so it cannot be taken for an escape.
    have notBackslash : byte ≠ 0x5C := by rintro rfl; simp [letterEscapes] at found
    by_cases control : byte < 0x20
    · have small : byte.toNat < 32 := UInt8.lt_iff_toNat_lt.mp control
      have back := hexValue_digits byte.toNat small
      rw [UInt8.ofNat_toNat] at back
      simp only [if_pos control, List.cons_append, List.nil_append, readByte, if_true, back]
    · simp only [if_neg control, List.cons_append, List.nil_append, readByte, if_neg notBackslash]

/-- No escape starts with a quote, so none is taken for the end of the literal. -/
theorem plainEscape_head (byte : UInt8) :
    ∃ first rest, plainEscape byte = first :: rest ∧ first ≠ 0x22 := by
  -- A letter or a control byte begins with a backslash, and any other is not the quote.
  unfold plainEscape
  cases found : letterEscapes.find? fun entry => entry.1 == byte with
  | some entry => exact ⟨_, _, rfl, by decide⟩
  | none =>
    have notQuote : byte ≠ 0x22 := by rintro rfl; simp [letterEscapes] at found
    by_cases control : byte < 0x20
    · simp only [if_pos control]
      exact ⟨_, _, rfl, by decide⟩
    · simp only [if_neg control]
      exact ⟨_, _, rfl, notQuote⟩

/-- Enough fuel reads every byte of a literal back. -/
private theorem readBytes_quoted (text tail : Bytes) :
    ∀ fuel, text.length < fuel →
      readBytes fuel (text.flatMap plainEscape ++ 0x22 :: tail) = some (text, tail) := by
  -- Each byte is read back in turn, until the closing quote.
  induction text with
  | nil =>
    intro fuel enough
    obtain ⟨fuel, rfl⟩ : ∃ left, fuel = left + 1 := ⟨fuel - 1, by simp at enough; omega⟩
    simp [readBytes]
  | cons byte rest ih =>
    intro fuel enough
    obtain ⟨fuel, rfl⟩ : ∃ left, fuel = left + 1 := ⟨fuel - 1, by simp at enough; omega⟩
    have back := readByte_escape byte (rest.flatMap plainEscape ++ 0x22 :: tail)
    obtain ⟨first, others, spelled, notQuote⟩ := plainEscape_head byte
    have open_ : (plainEscape byte ++ (rest.flatMap plainEscape ++ 0x22 :: tail)).head?
        ≠ some 0x22 := by
      simpa [spelled] using notQuote
    rw [List.flatMap_cons, List.append_assoc, readBytes, if_neg open_, back]
    simp only [ih fuel (by simpa using enough), Option.map_some]

/-- A string literal reads back as the string it was written for. -/
theorem readString_quoted (text tail : Bytes) :
    readString (text.flatMap plainEscape ++ 0x22 :: tail) = some (text, tail) := by
  -- An escape is never empty, so the literal is longer than the string.
  apply readBytes_quoted
  have longer : text.length ≤ (text.flatMap plainEscape).length := by
    induction text with
    | nil => simp
    | cons byte rest ih =>
      obtain ⟨first, others, spelled, _⟩ := plainEscape_head byte
      simp only [List.flatMap_cons, spelled, List.length_append, List.length_cons]
      omega
  simp only [List.length_append, List.length_cons]
  omega

/-- What may follow a value without being taken for part of it. -/
def Ends (after : Bytes) : Prop :=
  -- Only a digit could extend a value, and only an integer.
  ∀ byte ∈ after.head?, isDigit byte = false

/-- The digits of a numeral are exactly the leading digits of the text it starts. -/
private theorem leading_digits (value : Nat) {after : Bytes} (ends : Ends after) :
    (decimal value ++ after).takeWhile isDigit = decimal value ∧
      (decimal value ++ after).dropWhile isDigit = after := by
  -- Every byte of the numeral is a digit and the byte behind it is none.
  have digits : ∀ byte ∈ decimal value, isDigit byte = true :=
    fun byte member => isDigit_of_mem_decimal member
  have stop : after.takeWhile isDigit = [] ∧ after.dropWhile isDigit = after := by
    cases after with
    | nil => exact ⟨rfl, rfl⟩
    | cons byte rest =>
      have other := ends byte rfl
      exact ⟨List.takeWhile_cons_of_neg (by simp [other]),
        List.dropWhile_cons_of_neg (by simp [other])⟩
  rw [List.takeWhile_append_of_pos digits, List.dropWhile_append_of_pos digits, stop.1, stop.2,
    List.append_nil]
  exact ⟨rfl, rfl⟩

/-- A numeral starts with one of its digits. -/
private theorem decimal_head (value : Nat) :
    ∃ first rest, decimal value = first :: rest ∧ isDigit first = true := by
  -- The numeral is nonempty and consists of digits.
  cases same : decimal value with
  | nil => exact absurd same (decimal_ne_nil value)
  | cons first rest =>
    have member : first ∈ decimal value := by rw [same]; exact List.mem_cons_self
    exact ⟨first, rest, rfl, isDigit_of_mem_decimal member⟩

/-- An integer literal reads back as the integer it was written for. -/
private theorem readInt_decimalInt (value : Int) {after : Bytes} (ends : Ends after) :
    readInt (decimalInt value ++ after) = some (.int value, after) := by
  cases value with
  | ofNat value =>
    -- A nonnegative literal does not start with a sign.
    obtain ⟨first, rest, spelled, digit⟩ := decimal_head value
    have unsigned : ((decimal value ++ after).head? == some 0x2D) = false := by
      rw [spelled]
      simp only [List.cons_append, List.head?_cons, beq_eq_false_iff_ne, ne_eq, Option.some.injEq]
      intro same
      subst same
      exact absurd digit (by decide)
    obtain ⟨taken, dropped⟩ := leading_digits value ends
    simp only [readInt, decimalInt, unsigned, Bool.false_eq_true, if_false, taken, dropped,
      decimal_ne_nil, decimalValue_decimal]
    rfl
  | negSucc value =>
    -- Behind the sign stands the magnitude.
    obtain ⟨taken, dropped⟩ := leading_digits (value + 1) ends
    simp only [readInt, decimalInt, List.cons_append, List.head?_cons, beq_self_eq_true, if_true,
      List.tail_cons, taken, dropped, decimal_ne_nil, if_false, decimalValue_decimal]
    rfl

/-- The first byte of a value's text, which tells it from a closing bracket. -/
theorem plainText_head {depth : Nat} {value : Json} (plain : Plain depth value) :
    ∃ first rest, plainText plainEscape value = first :: rest ∧ first ≠ 0x5D := by
  -- One case for each kind of value, told apart by its first byte.
  cases plain with
  | null => exact ⟨0x6E, ascii "ull", by decide, by decide⟩
  | bool _ value =>
    cases value
    · exact ⟨0x66, ascii "alse", by decide, by decide⟩
    · exact ⟨0x74, ascii "rue", by decide, by decide⟩
  | int _ low high =>
    rename_i value
    cases value with
    | ofNat value =>
      obtain ⟨first, rest, spelled, digit⟩ := decimal_head value
      exact ⟨first, rest, spelled, by rintro rfl; exact absurd digit (by decide)⟩
    | negSucc value => exact ⟨_, _, rfl, by decide⟩
  | string _ text => exact ⟨_, _, rfl, by decide⟩
  | array each => exact ⟨_, _, rfl, by decide⟩
  | object each distinct terminated => exact ⟨_, _, rfl, by decide⟩

/-- The reader recovers a value from its text, whatever harmless text follows. -/
def ReadsBack (value : Json) : Prop :=
  -- One unit of fuel for each byte of the text is enough.
  ∀ fuel after, (plainText plainEscape value).length ≤ fuel → Ends after →
    readValue fuel (plainText plainEscape value ++ after) = some (value, after)

/-- Punctuation never extends a value. -/
private theorem ends_cons {byte : UInt8} (other : isDigit byte = false) (after : Bytes) :
    Ends (byte :: after) := by
  -- The only byte to look at is the first one.
  intro first member
  simp only [List.head?_cons, Option.mem_def, Option.some.injEq] at member
  exact member ▸ other

/-- The items of a nonempty array are read back up to the closing bracket. -/
private theorem readItems_back (items : List Json) (each : ∀ item ∈ items, ReadsBack item)
    (nonempty : items ≠ []) (after : Bytes) :
    ∀ fuel, (joinComma (itemTexts plainEscape items)).length < fuel →
      readItems fuel (joinComma (itemTexts plainEscape items) ++ 0x5D :: after) =
        some (items, after) := by
  -- The induction follows the separators, and each item is read back before its separator.
  induction items with
  | nil => exact absurd rfl nonempty
  | cons item rest ih =>
    intro fuel enough
    obtain ⟨fuel, rfl⟩ : ∃ left, fuel = left + 1 := ⟨fuel - 1, by omega⟩
    have head := each item (by simp)
    cases rest with
    | nil =>
      simp only [itemTexts, joinComma] at enough ⊢
      rw [readItems, head fuel _ (by omega) (ends_cons (by decide) after)]
      simp
    | cons next others =>
      have tail := ih (fun other member => each other (by simp [member])) (by simp) fuel (by
        simp only [itemTexts, joinComma, List.length_append, List.length_cons] at enough ⊢
        omega)
      simp only [itemTexts, joinComma, List.length_append, List.append_assoc,
        List.cons_append] at enough tail ⊢
      rw [readItems, head fuel _ (by omega) (ends_cons (by decide) _)]
      simp only [if_true, tail, Option.map_some]

/-- The members of a nonempty object are read back up to the closing brace. -/
private theorem readMembers_back (members : List (Bytes × Json))
    (each : ∀ member ∈ members, ReadsBack member.2) (nonempty : members ≠ []) (after : Bytes) :
    ∀ fuel, (joinComma (memberTexts plainEscape members)).length < fuel →
      readMembers fuel (joinComma (memberTexts plainEscape members) ++ 0x7D :: after) =
        some (members, after) := by
  -- Keys are string literals, and each value is read back behind its colon.
  induction members with
  | nil => exact absurd rfl nonempty
  | cons member rest ih =>
    intro fuel enough
    obtain ⟨fuel, rfl⟩ : ∃ left, fuel = left + 1 := ⟨fuel - 1, by omega⟩
    obtain ⟨key, value⟩ := member
    have head : ReadsBack value := each (key, value) (by simp)
    cases rest with
    | nil =>
      simp only [memberTexts, joinComma, quoted, List.length_append, List.length_cons,
        List.cons_append, List.append_assoc] at enough ⊢
      have named := readString_quoted key (0x3A :: (plainText plainEscape value ++ 0x7D :: after))
      simp only [readMembers, if_true, List.nil_append, named]
      rw [head fuel _ (by omega) (ends_cons (by decide) after)]
      simp
    | cons next others =>
      have tail := ih (fun other member => each other (by simp [member])) (by simp) fuel (by
        simp only [memberTexts, joinComma, List.length_append, List.length_cons] at enough ⊢
        omega)
      obtain ⟨nextKey, nextValue⟩ := next
      simp only [memberTexts, joinComma] at enough tail ⊢
      generalize joinComma ((quoted plainEscape nextKey ++ 0x3A :: plainText plainEscape nextValue)
        :: memberTexts plainEscape others) = restText at enough tail ⊢
      simp only [quoted, List.length_append, List.length_cons, List.cons_append,
        List.append_assoc] at enough ⊢
      have named := readString_quoted key
        (0x3A :: (plainText plainEscape value ++ 0x2C :: (restText ++ 0x7D :: after)))
      simp only [readMembers, if_true, List.nil_append, named]
      rw [head fuel _ (by omega) (ends_cons (by decide) _)]
      simp only [if_true, tail, Option.map_some]

/-- Storing distinct keys one after the other rebuilds the object they came from. -/
theorem foldl_upsert_members (members built : List (Bytes × Json))
    (distinct : ((built ++ members).map Prod.fst).Nodup) :
    members.foldl (fun built member => Keyed.upsert built member.1 member.2) built = built ++ members := by
  -- Every key is fresh when its turn comes, so every member is appended.
  induction members generalizing built with
  | nil => simp
  | cons member rest ih =>
    have fresh : member.1 ∉ built.map Prod.fst := by
      intro earlier
      rw [List.map_append, List.map_cons] at distinct
      exact (List.nodup_append.mp distinct).2.2 member.1 earlier member.1 (by simp) rfl
    rw [List.foldl_cons, Keyed.upsert_of_notMem fresh]
    simpa using ih (built ++ [member]) (by simpa using distinct)

/-- An integer is read back by its first byte, which is a digit or a sign. -/
private theorem readsBack_int (value : Int) : ReadsBack (.int value) := by
  -- The first byte is a minus or a digit, which leads the parser to the numbers.
  intro fuel after enough ends
  simp only [plainText] at enough ⊢
  have back := readInt_decimalInt value ends
  have first : ∃ first rest, decimalInt value = first :: rest ∧
      (first = 0x2D ∨ isDigit first = true) := by
    cases value with
    | ofNat value =>
      obtain ⟨first, rest, spelled, digit⟩ := decimal_head value
      exact ⟨first, rest, spelled, Or.inr digit⟩
    | negSucc value => exact ⟨_, _, rfl, Or.inl rfl⟩
  obtain ⟨first, rest, spelled, kind⟩ := first
  rw [spelled] at enough back ⊢
  obtain ⟨fuel, rfl⟩ : ∃ left, fuel = left + 1 := ⟨fuel - 1, by simp at enough; omega⟩
  rw [List.cons_append] at back ⊢
  have notOther : first ≠ 0x22 ∧ first ≠ 0x5B ∧ first ≠ 0x7B := by
    rcases kind with rfl | digit
    · decide
    · refine ⟨?_, ?_, ?_⟩ <;> (rintro rfl; exact absurd digit (by decide))
  have number : (decide (first = 0x2D) || isDigit first) = true := by
    rcases kind with rfl | digit
    · rfl
    · simp [digit]
  simp only [readValue, if_neg notOther.1, if_neg notOther.2.1, if_neg notOther.2.2, number,
    if_true, back]

/-- An array is read back when its items are. -/
private theorem readsBack_array {depth : Nat} {items : List Json}
    (plain : ∀ item ∈ items, Plain depth item) (each : ∀ item ∈ items, ReadsBack item) :
    ReadsBack (.array items) := by
  intro fuel after enough _
  obtain ⟨fuel, rfl⟩ : ∃ left, fuel = left + 1 := ⟨fuel - 1, by
    simp [plainText] at enough; omega⟩
  simp only [plainText, List.length_cons, List.length_append, List.length_nil] at enough
  simp only [plainText, List.cons_append, List.append_assoc, List.nil_append]
  cases items with
  | nil => simp [readValue, itemTexts, joinComma]
  | cons item rest =>
    -- The first item's text does not close the array it opens.
    obtain ⟨first, others, spelled, notClose⟩ := plainText_head (plain item (by simp))
    have start : ∃ more, joinComma (itemTexts plainEscape (item :: rest)) = first :: more := by
      cases rest <;> simp [itemTexts, joinComma, spelled]
    obtain ⟨more, opening⟩ := start
    have back := readItems_back (item :: rest) each (by simp) after fuel (by omega)
    rw [opening, List.cons_append] at back ⊢
    simp only [readValue, show (0x5B : UInt8) ≠ 0x22 by decide, if_false, if_true,
      List.head?_cons, Option.some.injEq, notClose, back, Option.map_some]

/-- An object with distinct keys is read back when its values are. -/
private theorem readsBack_object {members : List (Bytes × Json)}
    (distinct : (members.map Prod.fst).Nodup) (each : ∀ member ∈ members, ReadsBack member.2) :
    ReadsBack (.object members) := by
  intro fuel after enough _
  obtain ⟨fuel, rfl⟩ : ∃ left, fuel = left + 1 := ⟨fuel - 1, by
    simp [plainText] at enough; omega⟩
  simp only [plainText, List.length_cons, List.length_append, List.length_nil] at enough
  simp only [plainText, List.cons_append, List.append_assoc, List.nil_append]
  cases members with
  | nil => simp [readValue, memberTexts, joinComma]
  | cons member rest =>
    -- A key starts with a quote, which does not close the object either.
    have start : ∃ more, joinComma (memberTexts plainEscape (member :: rest)) = 0x22 :: more := by
      cases rest <;> simp [memberTexts, joinComma, quoted]
    obtain ⟨more, opening⟩ := start
    have back := readMembers_back (member :: rest) each (by simp) after fuel (by omega)
    have rebuilt := foldl_upsert_members (member :: rest) [] (by simpa using distinct)
    rw [opening, List.cons_append] at back ⊢
    simp only [readValue, show (0x7B : UInt8) ≠ 0x22 by decide,
      show (0x7B : UInt8) ≠ 0x5B by decide, if_false, if_true, List.head?_cons,
      Option.some.injEq, show (0x22 : UInt8) ≠ 0x7D by decide, back, Option.map_some, rebuilt,
      List.nil_append]

/-- Every plain value is read back from its own text. -/
theorem Plain.readsBack {depth : Nat} {value : Json} (plain : Plain depth value) :
    ReadsBack value := by
  -- The induction is on the structure of the value, one case for each form of it.
  induction plain with
  | null depth =>
    intro fuel after enough _
    obtain ⟨fuel, rfl⟩ : ∃ left, fuel = left + 1 := ⟨fuel - 1, by
      simp only [plainText, ascii, List.length_map] at enough; revert enough; simp; omega⟩
    rfl
  | bool depth value =>
    intro fuel after enough _
    obtain ⟨fuel, rfl⟩ : ∃ left, fuel = left + 1 := ⟨fuel - 1, by
      cases value <;> simp only [plainText, ascii, List.length_map] at enough <;>
        revert enough <;> simp <;> omega⟩
    cases value <;> rfl
  | int depth low high => exact readsBack_int _
  | string depth text =>
    intro fuel after enough _
    obtain ⟨fuel, rfl⟩ : ∃ left, fuel = left + 1 := ⟨fuel - 1, by
      simp [plainText, quoted] at enough; omega⟩
    simp only [plainText, quoted, List.cons_append, List.append_assoc, List.nil_append, readValue,
      if_true, readString_quoted, Option.map_some]
  | array each ih => exact readsBack_array each ih
  | object each distinct terminated ih => exact readsBack_object distinct ih

/-- A plain value's text is read back whole. -/
theorem read_plainText {depth : Nat} {value : Json} (plain : Plain depth value) :
    read (plainText plainEscape value) = some (value, []) := by
  -- The fuel covers the whole text, and nothing follows it.
  have back := plain.readsBack ((plainText plainEscape value).length + 1) [] (by omega)
    (by simp [Ends])
  rwa [List.append_nil] at back

end Json

end Foundation
