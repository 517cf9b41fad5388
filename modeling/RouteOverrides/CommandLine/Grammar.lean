import RouteOverrides.Text.Digit
import RouteOverrides.Text.Split

/-! # Arguments and options

A grammar lists the options of a command line and says what else it takes: nothing, one word, or the
name of a subcommand with all that follows it. Every argument then has a role.

* After the separator `--` every argument is a value.
* An argument that starts with a dash and names an option is that option. A long name may be cut
  short as long as it stays unambiguous. A value may follow an equals sign in the same argument, and
  a short name takes whatever follows it there.
* Anything else that starts with a dash is an unknown option, unless it is a dash alone, reads as a
  negative number, or holds a space: then it is a value. -/

namespace RouteOverrides.CommandLine

/-- Why no command can be run. -/
inductive Stop where
  /-- Help was asked for. -/
  | help
  /-- The arguments do not fit the grammar. -/
  | misuse (message : String)
  /-- The address of the API was given, but no value was left of it. -/
  | noAddress
  /-- An owner was given, but no value was left of it. -/
  | noOwner
  deriving DecidableEq, Repr

/-- An option. The check of its value gives the complaint about a value that it refuses. -/
structure OptionSpec where
  names : List String
  takesValue : Bool := true
  required : Bool := false
  complaint : String → Option String := fun _ => none

namespace OptionSpec

def title (option : OptionSpec) : String := String.intercalate "/" option.names

def misuse (option : OptionSpec) (message : String) : Stop :=
  .misuse ("argument " ++ option.title ++ ": " ++ message)

/-- The option that asks for help; every grammar has it first. -/
def help : OptionSpec where
  names := ["-h", "--help"]
  takesValue := false

end OptionSpec

/-- What a command line takes besides options. -/
inductive Operand where
  | none
  /-- One word. -/
  | word (title : String)
  /-- One of several subcommands, and everything after it. -/
  | command (title : String) (choices : List String)
  deriving DecidableEq, Repr

/-- The options and the operand of a command line. -/
structure Grammar where
  options : List OptionSpec
  operand : Operand

/-- An argument understood as an option: the full name, the option, and the text that comes with it
in the same argument. -/
structure Reading where
  name : String
  option : OptionSpec
  attached : Option (List Char) := none

/-- Whether the name is a short one, of one dash and one letter. -/
def Reading.isShort (reading : Reading) : Bool := !"--".toList.isPrefixOf reading.name.toList

/-- What an argument is. -/
inductive Role where
  | value
  | separator
  | option (reading : Reading)
  | unknownOption

namespace Grammar

/-- All options, the one for help first. -/
def allOptions (grammar : Grammar) : List OptionSpec := .help :: grammar.options

/-- All names of options, each with its option, in order. -/
def namedOptions (grammar : Grammar) : List (String × OptionSpec) :=
  grammar.allOptions.flatMap fun option => option.names.map fun name => (name, option)

/-- The option of exactly this name. -/
def optionNamed? (grammar : Grammar) (name : String) : Option OptionSpec :=
  (grammar.namedOptions.find? fun named => named.1 == name).map (·.2)

/-- Whether an argument reads as a negative number, with or without a decimal point. -/
def isNegativeNumber (argument : List Char) : Bool :=
  let isNumeral (s : List Char) : Bool := !s.isEmpty && s.all fun c => (Text.digit? c).isSome
  match argument with
  | '-' :: rest =>
    let line := if rest.getLast? = some '\n' then rest.dropLast else rest
    isNumeral line ||
      match Text.cut? '.' line with
      | some (whole, fraction) => (whole.isEmpty || isNumeral whole) && isNumeral fraction
      | none => false
  | _ => false

/-- The ways to understand an argument as a long name cut short. -/
def longReadings (grammar : Grammar) (argument : List Char) : List Reading :=
  let cut : List Char × Option (List Char) := match Text.cut? '=' argument with
    | some (before, after) => (before, some after)
    | none => (argument, none)
  grammar.namedOptions.filterMap fun named =>
    if cut.1.isPrefixOf named.1.toList then some ⟨named.1, named.2, cut.2⟩ else none

/-- The ways to understand an argument as a short name with something right behind it. -/
def shortReadings (grammar : Grammar) (argument : List Char) : List Reading :=
  grammar.namedOptions.filterMap fun named =>
    if named.1.toList = argument.take 2 then some ⟨named.1, named.2, some (argument.drop 2)⟩
    else if argument.isPrefixOf named.1.toList then some ⟨named.1, named.2, none⟩
    else none

/-- The option that an argument names in full, alone or with an equals sign behind the name. -/
def spelledOut? (grammar : Grammar) (argument : List Char) : Option Reading :=
  match grammar.optionNamed? (String.ofList argument) with
  | some option => some { name := String.ofList argument, option }
  | none => do
    let (before, after) ← Text.cut? '=' argument
    let option ← grammar.optionNamed? (String.ofList before)
    pure ⟨String.ofList before, option, some after⟩

/-- The ways to understand an argument that starts with a dash. -/
def readings (grammar : Grammar) (argument : List Char) : List Reading :=
  match argument with
  | '-' :: '-' :: _ => grammar.longReadings argument
  | _ => grammar.shortReadings argument

/-- The role of an argument that names no option. -/
def roleOfUnnamed (argument : List Char) : Role :=
  if isNegativeNumber argument || argument.contains ' ' then .value else .unknownOption

/-- The role of an argument before any separator. -/
def roleOf (grammar : Grammar) (argument : String) : Except Stop Role :=
  let s := argument.toList
  -- A dash alone is a value, as in the name of a file.
  if s.head? ≠ some '-' ∨ s.length = 1 then .ok .value
  else
    match grammar.spelledOut? s with
    | some reading => .ok (.option reading)
    | none =>
      match grammar.readings s with
      | [] => .ok (roleOfUnnamed s)
      | [reading] => .ok (.option reading)
      | readings =>
        .error (.misuse ("ambiguous option: " ++ argument ++ " could match "
          ++ String.intercalate ", " (readings.map (·.name))))

def roles (grammar : Grammar) : List String → Except Stop (List (String × Role))
  | [] => .ok []
  | argument :: rest =>
    if argument = "--" then
      .ok ((argument, .separator) :: rest.map fun value => (value, .value))
    else do
      let role ← grammar.roleOf argument
      let others ← grammar.roles rest
      pure ((argument, role) :: others)

end Grammar

end RouteOverrides.CommandLine
