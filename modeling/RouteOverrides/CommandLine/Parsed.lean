import RouteOverrides.CommandLine.Grammar
import RouteOverrides.Text.Quoted

/-! # Reading a command line

The arguments are consumed from left to right. Options take their values, the operand takes the
first value that is left over, and what nobody takes is `extra`.

* `Value`: what an option is given. Behind an equals sign two dashes are still a separator, so an
  option may be given and yet have nothing for a value.
* `Grammar.parse`: what a command line says, or why it cannot be read. The first complaint counts;
  missing options are complained about at the end.
* `Parsed.last?`, `Parsed.all`: the values of an option. -/

namespace RouteOverrides.CommandLine

/-- The value of an option. -/
inductive Value where
  | text (text : String)
  /-- Nothing is left of a value that was the separator. -/
  | nothing
  deriving DecidableEq, Repr

namespace Value

/-- The value that text in the same argument as the option spells. The separator is taken out of it,
as argparse does before its releases 3.11.10 and 3.12.3; from those on the two dashes are the
value. -/
def ofAttached (attached : List Char) : Value :=
  if attached = ['-', '-'] then .nothing else .text (String.ofList attached)

/-- No value is left exactly of the separator. -/
theorem ofAttached_eq_nothing_iff {attached : List Char} :
    ofAttached attached = .nothing ↔ attached = ['-', '-'] := by
  by_cases h : attached = ['-', '-'] <;> simp [ofAttached, h]

/-- The text of a value, if there is any. -/
def text? : Value → Option String
  | .text word => some word
  | .nothing => none

end Value

/-- What has been read so far. -/
structure Parsed where
  /-- The values of options in their order, by the title of the option. -/
  values : List (String × Value) := []
  /-- The operand: a word, or a subcommand with its arguments. -/
  operand : Option (String × List String) := none
  extra : List String := []
  deriving DecidableEq, Repr

namespace Parsed

def all (parsed : Parsed) (option : String) : List Value :=
  (parsed.values.filter fun value => value.1 == option).map (·.2)

/-- The value that an option was given last. -/
def last? (parsed : Parsed) (option : String) : Option Value := (parsed.all option).getLast?

end Parsed

namespace OptionSpec

/-- The complaint about text that an option without a value cannot take. -/
def ignored (option : OptionSpec) (text : List Char) : Stop :=
  option.misuse ("ignored explicit argument " ++ Text.quoted (String.ofList text))

/-- The outcome of an option without a value, given what stands right behind its short name: each
character there is the short name of another such option. -/
def flagOutcome (grammar : Grammar) (option : OptionSpec) : List Char → Stop
  | [] => .help
  | c :: rest =>
    match grammar.optionNamed? (String.ofList ['-', c]) with
    | some next => flagOutcome grammar next rest
    | none => option.ignored (c :: rest)

/-- The complaint about a value, if the option refuses it. Where no value is left there is nothing
to refuse. -/
def complaintAbout (option : OptionSpec) (value : Value) : Option String :=
  value.text?.bind option.complaint

/-- Notes a value of an option, unless the option refuses it. -/
def take (option : OptionSpec) (value : Value) (parsed : Parsed) : Except Stop Parsed :=
  match option.complaintAbout value with
  | some message => .error (option.misuse message)
  | none => .ok { parsed with values := parsed.values ++ [(option.title, value)] }

end OptionSpec

/-- The outcome of an option without a value. -/
def Reading.flagOutcome (grammar : Grammar) (reading : Reading) : Stop :=
  match reading.attached with
  | none => .help
  | some text =>
    if reading.isShort && !text.isEmpty then reading.option.flagOutcome grammar text
    else reading.option.ignored text

namespace Grammar

/-- Notes a value as the operand, if one is still awaited, else as extra. The second list is what
follows it; a subcommand takes it all. -/
def takeOperand (grammar : Grammar) (value : String) (following : List String)
    (parsed : Parsed) : Except Stop Parsed :=
  match parsed.operand, grammar.operand with
  | none, .word _ => .ok { parsed with operand := some (value, []) }
  | none, .command title choices =>
    if choices.contains value then .ok { parsed with operand := some (value, following) }
    else
      .error (.misuse ("argument " ++ title ++ ": invalid choice: " ++ Text.quoted value
        ++ " (choose from " ++ String.intercalate ", " (choices.map Text.quoted) ++ ")"))
  | _, _ => .ok { parsed with extra := parsed.extra ++ [value] }

def awaitsWord (grammar : Grammar) (parsed : Parsed) : Bool :=
  match grammar.operand with
  | .word _ => parsed.operand.isNone
  | _ => false

def awaitsCommand (grammar : Grammar) (parsed : Parsed) : Bool :=
  match grammar.operand with
  | .command _ _ => parsed.operand.isNone
  | _ => false

/-- Consumes arguments. A separator next to the word that is awaited belongs to it. -/
def consume (grammar : Grammar) : List (String × Role) → Parsed → Except Stop Parsed
  | [], parsed => .ok parsed
  | (argument, .value) :: rest, parsed =>
    -- A subcommand takes everything after it, with a grammar of its own.
    if grammar.awaitsCommand parsed then
      grammar.takeOperand argument (rest.map (·.1)) parsed
    else if grammar.awaitsWord parsed then
      match rest with
      | (_, .separator) :: rest => do
        grammar.consume rest (← grammar.takeOperand argument [] parsed)
      | rest => do grammar.consume rest (← grammar.takeOperand argument [] parsed)
    else grammar.consume rest { parsed with extra := parsed.extra ++ [argument] }
  | (argument, .separator) :: rest, parsed =>
    -- A separator that separates nothing is left over.
    if rest.isEmpty then .ok { parsed with extra := parsed.extra ++ [argument] }
    else if grammar.awaitsCommand parsed then
      grammar.takeOperand argument (rest.map (·.1)) parsed
    else if grammar.awaitsWord parsed then grammar.consume rest parsed
    else grammar.consume rest { parsed with extra := parsed.extra ++ [argument] }
  | (argument, .unknownOption) :: rest, parsed =>
    grammar.consume rest { parsed with extra := parsed.extra ++ [argument] }
  | (_, .option reading) :: rest, parsed =>
    if reading.option.takesValue then
      match reading.attached with
      | some text => do grammar.consume rest (← reading.option.take (.ofAttached text) parsed)
      | none =>
        match rest with
        | (value, .value) :: rest => do
          grammar.consume rest (← reading.option.take (.text value) parsed)
        | _ => .error (reading.option.misuse "expected one argument")
    else .error (reading.flagOutcome grammar)

/-- How messages name the operand, when there is one. -/
def operandTitle? (grammar : Grammar) : Option String :=
  match grammar.operand with
  | .none => none
  | .word title => some title
  | .command title _ => some title

/-- The titles of what is required and was not given: options first. -/
def missing (grammar : Grammar) (parsed : Parsed) : List String :=
  let options := grammar.options.filter fun option =>
    option.required && (parsed.all option.title).isEmpty
  let operand := if parsed.operand.isNone then grammar.operandTitle?.toList else []
  options.map (·.title) ++ operand

def parse (grammar : Grammar) (arguments : List String) : Except Stop Parsed := do
  let parsed ← grammar.consume (← grammar.roles arguments) {}
  match grammar.missing parsed with
  | [] => pure parsed
  | titles =>
    throw (.misuse ("the following arguments are required: " ++ String.intercalate ", " titles))

end Grammar

end RouteOverrides.CommandLine
