import LesChat.Application.Application

/-! The command line of the daemon: what `main` makes of it, and what the start script writes. -/

namespace LesChat

open Foundation

/-- What `main` catches, and ends the process with. -/
inductive CommandLineError where
  /-- A `std::runtime_error` with its text. -/
  | message (text : Bytes)
  /-- The `std::invalid_argument` of `std::stoul`. -/
  | notANumber
  /-- Its `std::out_of_range`. -/
  | outOfRange
deriving DecidableEq

section Numbers

variable (wordBits : Nat)

/-- `std::isspace` in the C locale. -/
def isSpace (byte : UInt8) : Bool := byte == 0x20 || (0x09 ≤ byte && byte ≤ 0x0D)

/-- The sign `std::stoul` skips: whether the number is negated, and what follows. -/
def numberSign : Bytes → Bool × Bytes
  | 0x2D :: rest => (true, rest)
  | 0x2B :: rest => (false, rest)
  | text => (false, text)

/--
`std::stoul` in base ten: the number, and how many bytes it was read from.

An `unsigned long` has the given number of bits.
-/
def stoul (text : Bytes) : Except CommandLineError (Nat × Nat) :=
  let signed := text.dropWhile isSpace
  let (negated, unsigned) := numberSign signed
  let digits := unsigned.takeWhile isDigit
  if digits = [] then .error .notANumber
  else if 2 ^ wordBits ≤ decimalValue digits then .error .outOfRange
  else
    let value := decimalValue digits
    -- A minus sign negates the word, whose arithmetic wraps around.
    .ok (if negated then (2 ^ wordBits - value) % 2 ^ wordBits else value,
      text.length - (unsigned.length - digits.length))

/-- `parse_port`. -/
def parsePort (value : Bytes) : Except CommandLineError Nat :=
  match stoul wordBits value with
  | .error error => .error error
  | .ok (parsed, consumed) =>
    if consumed ≠ value.length ∨ parsed = 0 ∨ parsed > 65535 then
      .error (.message (ascii "Port must be between 1 and 65535"))
    else .ok parsed

end Numbers

/-- `parse_time_sync_mode`. -/
def parseTimeSyncMode (value : Bytes) : Except CommandLineError TimeSyncMode :=
  if value = ascii "off" then .ok .off
  else if value = ascii "authority" then .ok .authority
  else if value = ascii "client" then .ok .client
  else .error (.message (ascii "Time sync mode must be off, authority or client"))

/-- The variables of `main`, with the values they start from. -/
structure Options where
  /-- `--node-id`. -/
  nodeId : Bytes := ascii "node-local"
  /-- `--callsign`. -/
  callsign : Bytes := ascii "Local"
  /-- `--bind`. -/
  bindAddress : Bytes := ascii "127.0.0.1"
  /-- `--port`. -/
  port : Nat := 7777
  /-- `--discovery-address`. -/
  discoveryAddress : Bytes := ascii "255.255.255.255"
  /-- `--discovery-interface`. -/
  discoveryInterface : Bytes := []
  /-- `--discovery-port`. -/
  discoveryPort : Nat := 7777
  /-- `--time-sync-mode`. -/
  timeSyncMode : TimeSyncMode := .off
  /-- `--time-authority-id`. -/
  timeAuthorityId : Bytes := []
  /-- `--database`. -/
  databasePath : Bytes := []
deriving DecidableEq

/-- The options that take a value. -/
inductive CommandOption where
  /-- `--node-id`. -/
  | nodeId
  /-- `--callsign`. -/
  | callsign
  /-- `--bind`. -/
  | bind
  /-- `--port`. -/
  | port
  /-- `--discovery-address`. -/
  | discoveryAddress
  /-- `--discovery-port`. -/
  | discoveryPort
  /-- `--discovery-interface`. -/
  | discoveryInterface
  /-- `--time-sync-mode`. -/
  | timeSyncMode
  /-- `--time-authority-id`. -/
  | timeAuthorityId
  /-- `--database`. -/
  | database
deriving DecidableEq

namespace CommandOption

/-- How the option is written. -/
def name : CommandOption → Bytes
  | nodeId => ascii "--node-id"
  | callsign => ascii "--callsign"
  | bind => ascii "--bind"
  | port => ascii "--port"
  | discoveryAddress => ascii "--discovery-address"
  | discoveryPort => ascii "--discovery-port"
  | discoveryInterface => ascii "--discovery-interface"
  | timeSyncMode => ascii "--time-sync-mode"
  | timeAuthorityId => ascii "--time-authority-id"
  | database => ascii "--database"

/-- The options, in the order `main` compares an argument with them. -/
def all : List CommandOption := [nodeId, callsign, bind, port, discoveryAddress, discoveryPort,
  discoveryInterface, timeSyncMode, timeAuthorityId, database]

/-- The option an argument is. -/
def named? (argument : Bytes) : Option CommandOption :=
  all.find? fun option => option.name = argument

/-- What the value of an option does to the variables. -/
def assign (wordBits : Nat) (value : Bytes) (options : Options) :
    CommandOption → Except CommandLineError Options
  | nodeId => .ok { options with nodeId := value }
  | callsign => .ok { options with callsign := value }
  | bind => .ok { options with bindAddress := value }
  | port => (parsePort wordBits value).map fun port => { options with port }
  | discoveryAddress => .ok { options with discoveryAddress := value }
  | discoveryPort =>
    (parsePort wordBits value).map fun discoveryPort => { options with discoveryPort }
  | discoveryInterface =>
    if value = [] then .error (.message (ascii "Discovery interface cannot be empty"))
    else .ok { options with discoveryInterface := value }
  | timeSyncMode =>
    (parseTimeSyncMode value).map fun timeSyncMode => { options with timeSyncMode }
  | timeAuthorityId =>
    if !isValidNodeId value then .error (.message (ascii "Time authority ID is invalid"))
    else .ok { options with timeAuthorityId := value }
  | database => .ok { options with databasePath := value }

end CommandOption

section Parsing

variable (wordBits : Nat)

/-- The loop over the arguments: the variables at its end, or nothing when it prints the help. -/
def parseArguments (options : Options) : List Bytes → Except CommandLineError (Option Options)
  | [] => .ok (some options)
  | argument :: rest =>
    if argument = ascii "--help" then .ok none
    else
      match CommandOption.named? argument with
      | none => .error (.message (ascii "Unknown argument: " ++ argument))
      | some option =>
        -- `read_argument_value` steps over the value, whatever it looks like.
        match rest with
        | [] => .error (.message (argument ++ ascii " requires a value"))
        | value :: rest =>
          match option.assign wordBits value options with
          | .error error => .error error
          | .ok options => parseArguments options rest

/-- What `main` starts the application with, or nothing when it prints the help. -/
def commandLine (arguments : List Bytes) : Except CommandLineError (Option Options) :=
  match parseArguments wordBits {} arguments with
  | .error error => .error error
  | .ok none => .ok none
  | .ok (some options) =>
    match checkIdentity ⟨options.nodeId, options.callsign⟩ with
    | .error text => .error (.message (ascii text))
    | .ok () =>
      .ok (some { options with
        databasePath :=
          if options.databasePath = [] then ascii "les-chat-" ++ options.nodeId ++ ascii ".db"
          else options.databasePath })

end Parsing

/-- What the application takes of the options. -/
def Options.settings (options : Options) : Settings where
  identity := ⟨options.nodeId, options.callsign⟩
  bindAddress := options.bindAddress
  port := options.port
  timeSyncMode := options.timeSyncMode
  timeAuthorityId := options.timeAuthorityId

section Ports

variable {wordBits : Nat}

/-- A digit is neither white space nor a sign. -/
theorem isDigit_plain {byte : UInt8} (digit : isDigit byte = true) :
    isSpace byte = false ∧ byte ≠ 0x2D ∧ byte ≠ 0x2B := by
  -- White space and the two signs lie outside the range of the digits.
  obtain ⟨low, high⟩ := (isDigit_iff byte).mp digit
  simp only [isSpace, Bool.or_eq_false_iff, beq_eq_false_iff_ne, ne_eq, ← UInt8.toNat_inj,
    Bool.and_eq_false_iff, decide_eq_false_iff_not, UInt8.le_iff_toNat_le]
  simp only [UInt8.reduceToNat]
  omega

/-- White space is skipped up to the first other byte. -/
theorem dropWhile_spaces {spaces : Bytes} (blank : spaces.all isSpace = true) {first : UInt8}
    (solid : isSpace first = false) (rest : Bytes) :
    (spaces ++ first :: rest).dropWhile isSpace = first :: rest := by
  -- Everything blank goes, and the first solid byte stops the loop.
  rw [List.dropWhile_append_of_pos (List.all_eq_true.mp blank), List.dropWhile_cons, solid]
  rfl

/-- A number without a minus sign that fills its text is read as it is written. -/
theorem stoul_unsigned {text signed digits : Bytes} (rest : text.dropWhile isSpace = signed)
    (sign : numberSign signed = (false, digits)) (nonempty : digits ≠ [])
    (numeral : digits.all isDigit = true) (small : decimalValue digits < 2 ^ wordBits) :
    stoul wordBits text = .ok (decimalValue digits, text.length) := by
  -- The digits end where the text ends, so every byte is consumed.
  have all : digits.takeWhile isDigit = digits :=
    List.takeWhile_eq_self_iff.mpr (List.all_eq_true.mp numeral)
  simp only [stoul, rest, sign, all, if_neg nonempty, if_neg (Nat.not_le.mpr small),
    Bool.false_eq_true, if_false, Nat.sub_self, Nat.sub_zero]

/-- A number with a minus sign that fills its text is read as what it wraps around to. -/
theorem stoul_negated {text signed digits : Bytes} (rest : text.dropWhile isSpace = signed)
    (sign : numberSign signed = (true, digits)) (nonempty : digits ≠ [])
    (numeral : digits.all isDigit = true) (small : decimalValue digits < 2 ^ wordBits) :
    stoul wordBits text =
      .ok ((2 ^ wordBits - decimalValue digits) % 2 ^ wordBits, text.length) := by
  -- As without the sign, but the magnitude is negated in the word.
  have all : digits.takeWhile isDigit = digits :=
    List.takeWhile_eq_self_iff.mpr (List.all_eq_true.mp numeral)
  simp only [stoul, rest, sign, all, if_neg nonempty, if_neg (Nat.not_le.mpr small), if_true,
    Nat.sub_self, Nat.sub_zero]

/--
The texts a port can be written as.

White space and a sign may stand before the digits, and a negative number stands for the one it
wraps around to.
-/
def PortText (wordBits : Nat) (text : Bytes) (port : Nat) : Prop :=
  ∃ spaces digits, spaces.all isSpace = true ∧ digits ≠ [] ∧ digits.all isDigit = true ∧
    ((text = spaces ++ digits ∨ text = spaces ++ 0x2B :: digits) ∧ decimalValue digits = port ∨
      text = spaces ++ 0x2D :: digits ∧ decimalValue digits + port = 2 ^ wordBits)

/-- A number has a minus sign, a plus sign, or none. -/
theorem numberSign_cases (signed : Bytes) :
    (∃ rest, signed = 0x2D :: rest ∧ numberSign signed = (true, rest)) ∨
      (∃ rest, signed = 0x2B :: rest ∧ numberSign signed = (false, rest)) ∨
      numberSign signed = (false, signed) := by
  -- The three cases of the definition: a minus, a plus, or neither.
  unfold numberSign
  split
  · rename_i rest
    exact .inl ⟨rest, rfl, rfl⟩
  · rename_i rest
    exact .inr (.inl ⟨rest, rfl, rfl⟩)
  · exact .inr (.inr rfl)

/-- Digits that were read up to the end of a text are all that follows the sign. -/
theorem takeWhile_eq_of_consumed {text unsigned : Bytes} (within : unsigned.length ≤ text.length)
    (nonempty : unsigned.takeWhile isDigit ≠ [])
    (consumed : text.length - (unsigned.length - (unsigned.takeWhile isDigit).length) =
      text.length) : unsigned.takeWhile isDigit = unsigned := by
  -- A prefix is the whole list when it is as long, and an unread byte would not be counted.
  apply (List.takeWhile_prefix isDigit).eq_of_length
  have some : 0 < (unsigned.takeWhile isDigit).length := List.length_pos_iff.mpr nonempty
  have bounded := (List.takeWhile_prefix (l := unsigned) isDigit).length_le
  omega

/-- A number that fills its text consists of digits behind its sign. -/
theorem stoul_whole {text : Bytes} {parsed : Nat}
    (read : stoul wordBits text = .ok (parsed, text.length)) {negated : Bool} {unsigned : Bytes}
    (sign : numberSign (text.dropWhile isSpace) = (negated, unsigned))
    (within : unsigned.length ≤ text.length) :
    unsigned ≠ [] ∧ unsigned.all isDigit = true ∧ decimalValue unsigned < 2 ^ wordBits ∧
      parsed = if negated then (2 ^ wordBits - decimalValue unsigned) % 2 ^ wordBits
        else decimalValue unsigned := by
  simp only [stoul, sign] at read
  split at read
  · -- Without a digit nothing is read.
    simp at read
  · rename_i nonempty
    split at read
    · simp at read
    · -- Every byte was consumed, so the digits read are all of them.
      rename_i small
      simp only [Except.ok.injEq, Prod.mk.injEq] at read
      obtain ⟨value, consumed⟩ := read
      have all := takeWhile_eq_of_consumed within nonempty consumed
      rw [all] at value nonempty small
      exact ⟨nonempty, List.all_eq_true.mpr (List.takeWhile_eq_self_iff.mp all),
        Nat.not_le.mp small, value.symm⟩

/-- What is read of a whole text is written in it. -/
theorem PortText.of_stoul {text : Bytes} {port : Nat}
    (read : stoul wordBits text = .ok (port, text.length)) (positive : 0 < port) :
    PortText wordBits text port := by
  have blank : (text.takeWhile isSpace).all isSpace = true :=
    List.all_eq_true.mpr fun byte member => List.mem_takeWhile_imp member
  have parts : text = text.takeWhile isSpace ++ text.dropWhile isSpace :=
    List.takeWhile_append_dropWhile.symm
  have shorter : (text.dropWhile isSpace).length ≤ text.length :=
    (List.dropWhile_suffix isSpace).length_le
  -- The sign decides how the digits are taken.
  rcases numberSign_cases (text.dropWhile isSpace) with
    ⟨rest, starts, sign⟩ | ⟨rest, starts, sign⟩ | sign
  · rw [starts, List.length_cons] at shorter
    obtain ⟨nonempty, digits, small, value⟩ := stoul_whole read sign (by omega)
    refine ⟨_, rest, blank, nonempty, digits, .inr ⟨?_, ?_⟩⟩
    · rwa [starts] at parts
    · rw [if_pos rfl] at value
      -- Zero wraps around to zero, and everything else to a smaller number.
      by_cases zero : decimalValue rest = 0
      · rw [zero, Nat.sub_zero, Nat.mod_self] at value
        omega
      · rw [Nat.mod_eq_of_lt (by omega)] at value
        omega
  · rw [starts, List.length_cons] at shorter
    obtain ⟨nonempty, digits, small, value⟩ := stoul_whole read sign (by omega)
    refine ⟨_, rest, blank, nonempty, digits, .inl ⟨.inr ?_, value.symm⟩⟩
    rwa [starts] at parts
  · obtain ⟨nonempty, digits, small, value⟩ := stoul_whole read sign shorter
    exact ⟨_, _, blank, nonempty, digits, .inl ⟨.inl parts, value.symm⟩⟩

/-- A text in which a port is written is read as that port, to its end. -/
theorem PortText.stoul (wide : 32 ≤ wordBits) {text : Bytes} {port : Nat}
    (written : PortText wordBits text port) (positive : 0 < port) (small : port ≤ 65535) :
    stoul wordBits text = .ok (port, text.length) := by
  have room : 65536 ≤ 2 ^ wordBits :=
    le_trans (by decide) (Nat.pow_le_pow_right (by omega) (show 16 ≤ wordBits by omega))
  obtain ⟨spaces, digits, blank, nonempty, numeral, ⟨unsigned, value⟩ | ⟨negated, value⟩⟩ := written
  · have fits : decimalValue digits < 2 ^ wordBits := by omega
    rw [← value]
    rcases unsigned with rfl | rfl
    · cases digits with
      | nil => exact absurd rfl nonempty
      | cons first rest =>
        -- A digit ends the white space, and it is no sign.
        have leading : isDigit first = true := List.all_eq_true.mp numeral first (by simp)
        obtain ⟨solid, noMinus, noPlus⟩ := isDigit_plain leading
        apply stoul_unsigned (dropWhile_spaces blank solid rest) _ nonempty numeral fits
        unfold numberSign
        split
        · rename_i same
          exact absurd (List.cons.inj same).1 noMinus
        · rename_i same
          exact absurd (List.cons.inj same).1 noPlus
        · rfl
    · exact stoul_unsigned (dropWhile_spaces blank (by decide) digits) rfl nonempty numeral fits
  · subst negated
    have fits : decimalValue digits < 2 ^ wordBits := by omega
    rw [stoul_negated (dropWhile_spaces blank (by decide) digits) rfl nonempty numeral fits,
      Nat.mod_eq_of_lt (by omega)]
    congr 2
    omega

/-- A port is accepted exactly when it is written as a number from 1 to 65535. -/
theorem parsePort_eq_ok_iff (wide : 32 ≤ wordBits) (text : Bytes) (port : Nat) :
    parsePort wordBits text = .ok port ↔
      PortText wordBits text port ∧ 1 ≤ port ∧ port ≤ 65535 := by
  constructor
  · -- A text that is accepted was read whole, and its number passed the checks.
    intro accepted
    unfold parsePort at accepted
    split at accepted
    · simp at accepted
    · rename_i parsed consumed read
      split at accepted
      · simp at accepted
      · rename_i checks
        simp only [not_or, ne_eq, not_not, Nat.not_lt, Except.ok.injEq] at checks accepted
        obtain ⟨whole, positive, small⟩ := checks
        rw [whole, accepted] at read
        have nonzero : 0 < port := by omega
        exact ⟨PortText.of_stoul read nonzero, by omega, by omega⟩
  · -- What is written as a port is read as that number.
    rintro ⟨written, positive, small⟩
    have read := written.stoul wide (by omega) small
    simp only [parsePort, read]
    rw [if_neg]
    omega

end Ports

section Language

variable (wordBits : Nat)

/-- The arguments that give some options their values. -/
def written (given : List (CommandOption × Bytes)) : List Bytes :=
  given.flatMap fun entry => [entry.1.name, entry.2]

/-- The values an option can be given. -/
def CommandOption.Accepts (value : Bytes) : CommandOption → Prop
  | port | discoveryPort => ∃ port, PortText wordBits value port ∧ 1 ≤ port ∧ port ≤ 65535
  | discoveryInterface => value ≠ []
  | timeSyncMode => value ∈ [ascii "off", ascii "authority", ascii "client"]
  | timeAuthorityId => isValidNodeId value = true
  | _ => True

/-- The value an option was given last. -/
def lastGiven (given : List (CommandOption × Bytes)) (option : CommandOption) : Option Bytes :=
  (given.filter fun entry => entry.1 = option).getLast?.map Prod.snd

/-- What options mean: each variable has the value its option was given last, or its default. -/
def Options.given (given : List (CommandOption × Bytes)) : Options where
  nodeId := (lastGiven given .nodeId).getD (ascii "node-local")
  callsign := (lastGiven given .callsign).getD (ascii "Local")
  bindAddress := (lastGiven given .bind).getD (ascii "127.0.0.1")
  port := ((lastGiven given .port).bind fun value => (parsePort wordBits value).toOption).getD 7777
  discoveryAddress := (lastGiven given .discoveryAddress).getD (ascii "255.255.255.255")
  discoveryInterface := (lastGiven given .discoveryInterface).getD []
  discoveryPort := ((lastGiven given .discoveryPort).bind fun value =>
    (parsePort wordBits value).toOption).getD 7777
  timeSyncMode := ((lastGiven given .timeSyncMode).bind fun value =>
    (parseTimeSyncMode value).toOption).getD .off
  timeAuthorityId := (lastGiven given .timeAuthorityId).getD []
  databasePath := (lastGiven given .database).getD []

/-- The options with the default path of the database, which names the node. -/
def Options.withDatabase (options : Options) : Options :=
  { options with
    databasePath :=
      if options.databasePath = [] then ascii "les-chat-" ++ options.nodeId ++ ascii ".db"
      else options.databasePath }

variable {wordBits}

/-- Options are told apart by their names. -/
theorem CommandOption.named?_name (option : CommandOption) :
    CommandOption.named? option.name = some option := by
  -- One case for each option, whose names all differ.
  cases option <;> decide +kernel

/-- An argument that is an option is its name. -/
theorem CommandOption.name_of_named? {argument : Bytes} {option : CommandOption}
    (named : CommandOption.named? argument = some option) : argument = option.name := by
  -- What the search finds has passed its test.
  have found := List.find?_some named
  exact (of_decide_eq_true found).symm

/-- No option is the one that asks for help. -/
theorem CommandOption.name_ne_help (option : CommandOption) : option.name ≠ ascii "--help" := by
  -- One case for each option, none of which is called so.
  cases option <;> decide +kernel

/-- The value given last is the one at the end, if it is one of the option. -/
theorem lastGiven_append (given : List (CommandOption × Bytes)) (option other : CommandOption)
    (value : Bytes) :
    lastGiven (given ++ [(option, value)]) other =
      if option = other then some value else lastGiven given other := by
  -- A value given now counts for its own option only.
  rw [lastGiven, List.filter_append]
  by_cases same : option = other
  · simp [same]
  · simp [same, lastGiven]

/-- A mode is one of three words. -/
theorem parseTimeSyncMode_isOk (value : Bytes) :
    (∃ mode, parseTimeSyncMode value = .ok mode) ↔
      value ∈ [ascii "off", ascii "authority", ascii "client"] := by
  -- Three texts are compared with, one after the other, and every other text is an error.
  unfold parseTimeSyncMode
  split
  · simp [*]
  · split
    · simp [*]
    · split
      · simp [*]
      · simp [*]

/-- A value that an option accepts is the one it has from then on. -/
theorem CommandOption.assign_accepted (wide : 32 ≤ wordBits) {option : CommandOption}
    {value : Bytes} (accepts : option.Accepts wordBits value)
    (past : List (CommandOption × Bytes)) :
    option.assign wordBits value (Options.given wordBits past) =
      .ok (Options.given wordBits (past ++ [(option, value)])) := by
  -- Both ports are read alike, so the reading is stated once.
  have port : (∃ port, PortText wordBits value port ∧ 1 ≤ port ∧ port ≤ 65535) →
      ∃ port, parsePort wordBits value = .ok port :=
    fun ⟨number, written⟩ => ⟨number, (parsePort_eq_ok_iff wide value number).mpr written⟩
  -- Each option sets its own variable, which is then the one given last.
  cases option with
  | port =>
    obtain ⟨port, parsed⟩ := port accepts
    simp [assign, Options.given, lastGiven_append, parsed, Except.map, Except.toOption]
  | discoveryPort =>
    obtain ⟨port, parsed⟩ := port accepts
    simp [assign, Options.given, lastGiven_append, parsed, Except.map, Except.toOption]
  | timeSyncMode =>
    obtain ⟨mode, parsed⟩ := (parseTimeSyncMode_isOk value).mpr accepts
    simp [assign, Options.given, lastGiven_append, parsed, Except.map, Except.toOption]
  | discoveryInterface =>
    have nonempty : value ≠ [] := accepts
    simp [assign, Options.given, lastGiven_append, nonempty]
  | timeAuthorityId =>
    have valid : isValidNodeId value = true := accepts
    simp [assign, Options.given, lastGiven_append, valid]
  | _ => simp [assign, Options.given, lastGiven_append]

/-- A value that is assigned is one the option accepts. -/
theorem CommandOption.accepts_of_assign (wide : 32 ≤ wordBits) {option : CommandOption}
    {value : Bytes} {before after : Options}
    (assigned : option.assign wordBits value before = .ok after) :
    option.Accepts wordBits value := by
  -- Whichever variable a port is for, it was read before it was set.
  have port : ∀ {set : Nat → Options},
      (parsePort wordBits value).map set = .ok after →
      ∃ port, PortText wordBits value port ∧ 1 ≤ port ∧ port ≤ 65535 := by
    intro set mapped
    cases parsed : parsePort wordBits value with
    | error error => simp [parsed, Except.map] at mapped
    | ok port => exact ⟨port, (parsePort_eq_ok_iff wide value port).mp parsed⟩
  -- An option that rejects its value does not end with `ok`.
  cases option with
  | port => exact port assigned
  | discoveryPort => exact port assigned
  | timeSyncMode =>
    apply (parseTimeSyncMode_isOk value).mp
    cases parsed : parseTimeSyncMode value with
    | error error => simp [assign, parsed, Except.map] at assigned
    | ok mode => exact ⟨mode, rfl⟩
  | discoveryInterface =>
    intro empty
    simp [assign, empty] at assigned
  | timeAuthorityId =>
    show isValidNodeId value = true
    cases valid : isValidNodeId value with
    | true => rfl
    | false => simp [assign, valid] at assigned
  | _ => trivial

/-- The loop reads options that accept their values, one after the other. -/
theorem parseArguments_written (wide : 32 ≤ wordBits) {given : List (CommandOption × Bytes)}
    (accepted : ∀ entry ∈ given, entry.1.Accepts wordBits entry.2)
    (past : List (CommandOption × Bytes)) (rest : List Bytes) :
    parseArguments wordBits (Options.given wordBits past) (written given ++ rest) =
      parseArguments wordBits (Options.given wordBits (past ++ given)) rest := by
  -- The induction follows the options, each of which joins those before it.
  induction given generalizing past with
  | nil => simp [written]
  | cons entry later ih =>
    obtain ⟨option, value⟩ := entry
    have here := accepted (option, value) (by simp)
    have step : written ((option, value) :: later) ++ rest =
        option.name :: value :: (written later ++ rest) := rfl
    rw [step, parseArguments, if_neg option.name_ne_help, CommandOption.named?_name]
    simp only [CommandOption.assign_accepted wide here past]
    rw [ih (fun other member => accepted other (by simp [member])) (past ++ [(option, value)]),
      List.append_assoc, List.singleton_append]

/-- What the loop reads without an error are options that accept their values, up to the help. -/
theorem parseArguments_eq_ok (wide : 32 ≤ wordBits) {options : Options} {arguments : List Bytes}
    {result : Option Options} (read : parseArguments wordBits options arguments = .ok result) :
    ∃ given, (∀ entry ∈ given, entry.1.Accepts wordBits entry.2) ∧
      ((arguments = written given ∧ result.isSome = true) ∨
        ∃ rest, arguments = written given ++ ascii "--help" :: rest ∧ result = none) := by
  -- One case for each way a turn of the loop ends, and one in which it goes on.
  fun_induction parseArguments wordBits options arguments with
  | case1 options =>
    cases read
    exact ⟨[], by simp, .inl ⟨rfl, rfl⟩⟩
  | case2 options rest =>
    cases read
    exact ⟨[], by simp, .inr ⟨rest, rfl, rfl⟩⟩
  | case3 options argument rest noHelp unknown => simp at read
  | case4 options argument noHelp option named => simp at read
  | case5 options argument noHelp option named value rest error failed => simp at read
  | case6 options argument noHelp option named value rest after assigned ih =>
    obtain ⟨given, accepted, ending⟩ := ih read
    have accepts := CommandOption.accepts_of_assign wide assigned
    rw [CommandOption.name_of_named? named]
    refine ⟨(option, value) :: given, ?_, ?_⟩
    · intro entry member
      rcases List.mem_cons.mp member with rfl | later
      · exact accepts
      · exact accepted entry later
    · rcases ending with ⟨rfl, some⟩ | ⟨help, rfl, none⟩
      · exact .inl ⟨rfl, some⟩
      · exact .inr ⟨help, rfl, none⟩

/-- The loop reads options that accept their values as the options they mean. -/
theorem parseArguments_given (wide : 32 ≤ wordBits) {given : List (CommandOption × Bytes)}
    (accepted : ∀ entry ∈ given, entry.1.Accepts wordBits entry.2) :
    parseArguments wordBits {} (written given) = .ok (some (Options.given wordBits given)) := by
  -- Nothing stands behind the options, so the loop ends with them.
  have whole := parseArguments_written wide accepted [] []
  rwa [List.append_nil] at whole

/-- What the daemon is started with was written as options that accept their values. -/
theorem commandLine_eq_some_iff (wide : 32 ≤ wordBits) (arguments : List Bytes)
    (options : Options) :
    commandLine wordBits arguments = .ok (some options) ↔
      ∃ given, arguments = written given ∧
        (∀ entry ∈ given, entry.1.Accepts wordBits entry.2) ∧
        checkIdentity ⟨(Options.given wordBits given).nodeId,
          (Options.given wordBits given).callsign⟩ = .ok () ∧
        options = (Options.given wordBits given).withDatabase := by
  constructor
  · intro line
    unfold commandLine at line
    split at line
    · simp at line
    · simp at line
    · rename_i parsed read
      split at line
      · simp at line
      · -- Only the reading without a request for help leaves settings to check.
        rename_i checked
        obtain ⟨given, accepted, ⟨rfl, _⟩ | ⟨rest, rfl, none⟩⟩ := parseArguments_eq_ok wide read
        · rw [parseArguments_given wide accepted, Except.ok.injEq, Option.some.injEq] at read
          subst read
          simp only [Except.ok.injEq, Option.some.injEq] at line
          exact ⟨given, rfl, accepted, checked, line.symm⟩
        · simp at none
  · -- The options are read back, and their identity passes the check.
    rintro ⟨given, rfl, accepted, checked, rfl⟩
    simp only [commandLine, parseArguments_given wide accepted, checked]
    rfl

/-- The help is printed where options that accept their values are followed by its request. -/
theorem commandLine_eq_none_iff (wide : 32 ≤ wordBits) (arguments : List Bytes) :
    commandLine wordBits arguments = .ok none ↔
      ∃ given rest, arguments = written given ++ ascii "--help" :: rest ∧
        ∀ entry ∈ given, entry.1.Accepts wordBits entry.2 := by
  constructor
  · intro line
    unfold commandLine at line
    split at line
    · simp at line
    · -- Without a request for help, settings would have been returned.
      rename_i read
      obtain ⟨given, accepted, ⟨rfl, some⟩ | ⟨rest, rfl, _⟩⟩ := parseArguments_eq_ok wide read
      · simp at some
      · exact ⟨given, rest, rfl, accepted⟩
    · split at line <;> simp at line
  · rintro ⟨given, rest, rfl, accepted⟩
    -- The loop returns at the request, whatever is behind it.
    have started := parseArguments_written wide accepted [] (ascii "--help" :: rest)
    have helped : parseArguments wordBits {} (written given ++ ascii "--help" :: rest) =
        .ok none := by
      apply started.trans
      rw [parseArguments, if_pos rfl]
    simp only [commandLine, helped]

/--
The language of the command line.

The daemon is started exactly by options with values they accept, in any order and as often as one
likes, that leave a valid identity: each variable then has the value its option was given last, or
its default, and the database is named after the node when it has no other path. The help is printed
exactly when such options are followed by the request for it, whatever stands behind that.
-/
theorem commandLine_exact (wide : 32 ≤ wordBits) (arguments : List Bytes) :
    (∀ options, commandLine wordBits arguments = .ok (some options) ↔
      ∃ given, arguments = written given ∧
        (∀ entry ∈ given, entry.1.Accepts wordBits entry.2) ∧
        checkIdentity ⟨(Options.given wordBits given).nodeId,
          (Options.given wordBits given).callsign⟩ = .ok () ∧
        options = (Options.given wordBits given).withDatabase) ∧
    (commandLine wordBits arguments = .ok none ↔
      ∃ given rest, arguments = written given ++ ascii "--help" :: rest ∧
        ∀ entry ∈ given, entry.1.Accepts wordBits entry.2) :=
  ⟨commandLine_eq_some_iff wide arguments, commandLine_eq_none_iff wide arguments⟩

/-- Two names and a port are given, one of them twice, and the help is asked for as a value. -/
theorem commandLine_exact_repeated :
    ∃ options, commandLine 32 [ascii "--node-id", ascii "a", ascii "--port", ascii " +080",
        ascii "--callsign", ascii "--help", ascii "--node-id", ascii "b"] = .ok (some options) ∧
      options.nodeId = ascii "b" ∧ options.callsign = ascii "--help" ∧ options.port = 80 ∧
      options.databasePath = ascii "les-chat-b.db" := by
  let given : List (CommandOption × Bytes) := [(.nodeId, ascii "a"), (.port, ascii " +080"),
    (.callsign, ascii "--help"), (.nodeId, ascii "b")]
  -- The port is written with white space, a sign and a leading zero.
  have port : PortText 32 (ascii " +080") 80 :=
    ⟨ascii " ", ascii "080", by decide +kernel, by decide +kernel, by decide +kernel,
      .inl ⟨.inr (by decide +kernel), by decide +kernel⟩⟩
  have accepted : ∀ entry ∈ given, entry.1.Accepts 32 entry.2 := by
    intro entry member
    simp only [given, List.mem_cons, List.not_mem_nil, or_false] at member
    rcases member with rfl | rfl | rfl | rfl
    · trivial
    · exact ⟨80, port, by decide, by decide⟩
    · trivial
    · trivial
  -- The second identifier replaces the first, and `--help` is the value of an option.
  have starts := (commandLine_exact (Nat.le_refl 32) (written given)).1
    (Options.given 32 given).withDatabase
  refine ⟨_, starts.mpr ⟨given, rfl, accepted, by decide +kernel, rfl⟩, ?_⟩
  decide +kernel

end Language

section Settings

variable {wordBits : Nat}

/-- What an option was given last is one of the arguments. -/
theorem lastGiven_mem {given : List (CommandOption × Bytes)} {option : CommandOption}
    {value : Bytes} (last : lastGiven given option = some value) : value ∈ written given := by
  -- The value was listed behind its option.
  obtain ⟨entry, found, rfl⟩ := Option.map_eq_some_iff.mp last
  have member := List.mem_of_mem_filter (List.mem_of_getLast? found)
  exact List.mem_flatMap.mpr ⟨entry, member, by simp⟩

/-- What an option was given last is a value it accepts. -/
theorem lastGiven_accepted {given : List (CommandOption × Bytes)} {option : CommandOption}
    {value : Bytes} (accepted : ∀ entry ∈ given, entry.1.Accepts wordBits entry.2)
    (last : lastGiven given option = some value) : option.Accepts wordBits value := by
  -- The last value of an option is one of its values.
  obtain ⟨entry, found, rfl⟩ := Option.map_eq_some_iff.mp last
  have member := List.mem_of_getLast? found
  obtain ⟨listed, same⟩ := List.mem_filter.mp member
  rw [← of_decide_eq_true same]
  exact accepted entry listed

/-- A port of the options is in range, whether it was given or not. -/
theorem port_given {last : Option Bytes} {port : Nat} (positive : 1 ≤ port) (small : port ≤ 65535)
    (wide : 32 ≤ wordBits) :
    let chosen := (last.bind fun value => (parsePort wordBits value).toOption).getD port
    1 ≤ chosen ∧ chosen ≤ 65535 := by
  -- Without the option the default stands, and a text that is read is a port.
  cases last with
  | none => exact ⟨positive, small⟩
  | some value =>
    simp only [Option.bind_some]
    cases parsed : parsePort wordBits value with
    | error error => exact ⟨positive, small⟩
    | ok chosen => exact ((parsePort_eq_ok_iff wide value chosen).mp parsed).2

/--
What a daemon is started with is well formed.

Arguments are C strings. Whatever they are, a daemon that starts has an accepted identity, serves
and announces on ports from 1 to 65535, follows a valid identifier if any, and has a database.
-/
theorem commandLine_settings (wide : 32 ≤ wordBits) {arguments : List Bytes}
    (terminated : ∀ argument ∈ arguments, 0 ∉ argument) {options : Options}
    (line : commandLine wordBits arguments = .ok (some options)) :
    options.settings.identity.Accepted ∧ (1 ≤ options.port ∧ options.port ≤ 65535) ∧
      (1 ≤ options.discoveryPort ∧ options.discoveryPort ≤ 65535) ∧
      (options.timeAuthorityId = [] ∨ isValidNodeId options.timeAuthorityId = true) ∧
      options.databasePath ≠ [] := by
  -- The settings are those the accepted options give, option by option.
  obtain ⟨given, rfl, accepted, checked, rfl⟩ :=
    (commandLine_eq_some_iff wide arguments options).mp line
  refine ⟨⟨checked, ?_⟩, ?_, ?_, ?_, ?_⟩
  · show 0 ∉ (lastGiven given .callsign).getD (ascii "Local")
    cases last : lastGiven given .callsign with
    | none => decide +kernel
    | some value => exact terminated value (lastGiven_mem last)
  · exact port_given (by omega) (by omega) wide
  · exact port_given (by omega) (by omega) wide
  · show (lastGiven given .timeAuthorityId).getD [] = [] ∨ _
    cases last : lastGiven given .timeAuthorityId with
    | none => exact .inl rfl
    | some value =>
      refine .inr ?_
      have valid : isValidNodeId value = true := lastGiven_accepted accepted last
      show isValidNodeId ((lastGiven given .timeAuthorityId).getD []) = true
      rw [last]
      exact valid
  · -- An empty path is replaced by a name made of the identifier.
    show (if _ then _ else _) ≠ []
    split
    · simp [ascii]
    · rename_i named
      exact named

end Settings

section Script

/-- What `start_service` has read of the configuration when it opens the instance. -/
structure ServiceConfig where
  /-- The identifier of the node, resolved. -/
  nodeId : Bytes
  /-- The callsign, resolved. -/
  callsign : Bytes
  /-- `bind`. -/
  bind : Bytes
  /-- `port`. -/
  port : Bytes
  /-- `discovery_address`. -/
  discoveryAddress : Bytes
  /-- `discovery_interface`, or the one that was detected. -/
  discoveryInterface : Bytes
  /-- `discovery_port`. -/
  discoveryPort : Bytes
  /-- `time_sync_mode`. -/
  timeSyncMode : Bytes
  /-- `time_authority_id`. -/
  timeAuthorityId : Bytes
  /-- `database`. -/
  database : Bytes

/-- The mode that is passed on: anything unknown stands for a client. -/
def ServiceConfig.mode (config : ServiceConfig) : Bytes :=
  if config.timeSyncMode = ascii "off" ∨ config.timeSyncMode = ascii "authority" ∨
      config.timeSyncMode = ascii "client" then
    config.timeSyncMode
  else ascii "client"

/-- The options the instance is opened with. -/
def ServiceConfig.given (config : ServiceConfig) : List (CommandOption × Bytes) :=
  [(.nodeId, config.nodeId), (.callsign, config.callsign), (.bind, config.bind),
    (.port, config.port), (.discoveryAddress, config.discoveryAddress),
    (.discoveryPort, config.discoveryPort), (.timeSyncMode, config.mode),
    (.database, config.database)] ++
  -- `procd_append_param`, for what is not empty.
  (if config.timeAuthorityId = [] then [] else [(.timeAuthorityId, config.timeAuthorityId)]) ++
  if config.discoveryInterface = [] then []
  else [(.discoveryInterface, config.discoveryInterface)]

/-- What the configuration asks for, when its ports are the given ones. -/
def ServiceConfig.options (config : ServiceConfig) (port discoveryPort : Nat) : Options where
  nodeId := config.nodeId
  callsign := config.callsign
  bindAddress := config.bind
  port
  discoveryAddress := config.discoveryAddress
  discoveryInterface := config.discoveryInterface
  discoveryPort
  timeSyncMode :=
    if config.timeSyncMode = ascii "off" then .off
    else if config.timeSyncMode = ascii "authority" then .authority
    else .client
  timeAuthorityId := config.timeAuthorityId
  databasePath :=
    if config.database = [] then ascii "les-chat-" ++ config.nodeId ++ ascii ".db"
    else config.database

end Script

end LesChat
