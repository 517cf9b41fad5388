import RouteOverrides.CommandLine.Command
import RouteOverrides.Proofs.Json.Lenient

/-! # What a command line is read as

A command line has two parts: the options of the program with the name of a subcommand, and everything
behind that name, which the subcommand reads with a grammar of its own. An option is read with a text,
unless the text stands behind an equals sign and is a separator. Nothing is left of such a text.

* `Grammar.parse_eq_ok_iff`, `Grammar.all_ne_nil_of_required` — what is known once a part is read.
* `Grammar.written_of_parse` — when every value that is read is a text.
* `Divides` — the two parts of a command line, and what they are read as.
* `Invocation.parse_eq_ok_iff`, `Asks` — what is asked for, as the parts say it.
-/

namespace RouteOverrides.CommandLine

/-- Something is left of every value that has been read. -/
def Parsed.Written (parsed : Parsed) : Prop := ∀ title, (title, Value.nothing) ∉ parsed.values

/-- If an argument is an option with a value in it, something is left of the value. -/
def Role.Leaves : Role → Prop
  | .option reading => reading.option.takesValue = true → reading.attached ≠ some ['-', '-']
  | _ => True

namespace Grammar

variable {grammar : Grammar} {arguments : List String} {argument : String} {parsed later : Parsed}
  {reading : Reading} {text : List Char}

theorem parse_eq_ok_iff : grammar.parse arguments = .ok parsed ↔
    ∃ roles, grammar.roles arguments = .ok roles ∧ grammar.consume roles {} = .ok parsed ∧
      grammar.missing parsed = [] := by
  simp only [parse, bind_eq_ok_iff]
  constructor
  · rintro ⟨roles, known, read, consumed, complete⟩
    split at complete
    · rename_i none
      cases complete
      exact ⟨roles, known, consumed, none⟩
    · cases complete
  · rintro ⟨roles, known, consumed, none⟩
    refine ⟨roles, known, parsed, consumed, ?_⟩
    rw [none]
    rfl

theorem all_ne_nil_of_required (read : grammar.parse arguments = .ok parsed) {option : OptionSpec}
    (listed : option ∈ grammar.options) (required : option.required = true) :
    parsed.all option.title ≠ [] := by
  obtain ⟨_, _, _, complete⟩ := parse_eq_ok_iff.1 read
  obtain ⟨noOption, -⟩ := List.append_eq_nil_iff.1 complete
  intro none
  have absent : option ∈ grammar.options.filter fun option =>
      option.required && (parsed.all option.title).isEmpty :=
    List.mem_filter.2 ⟨listed, by rw [required, none]; rfl⟩
  rw [List.map_eq_nil_iff.1 noOption] at absent
  cases absent

theorem exists_operand_of_parse (read : grammar.parse arguments = .ok parsed)
    (awaited : grammar.operandTitle? ≠ none) : ∃ operand, parsed.operand = some operand := by
  obtain ⟨_, _, _, complete⟩ := parse_eq_ok_iff.1 read
  obtain ⟨-, noOperand⟩ := List.append_eq_nil_iff.1 complete
  cases found : parsed.operand with
  | some operand => exact ⟨operand, rfl⟩
  | none =>
    rw [found] at noOperand
    exact absurd (Option.toList_eq_nil_iff.1 noOperand) awaited

/-! ## Values behind an equals sign -/

/-- Every option that takes a value has long names only. -/
def Spacious (grammar : Grammar) : Prop :=
  ∀ named ∈ grammar.namedOptions, named.2.takesValue = true → named.1.toList.length ≠ 2

instance (grammar : Grammar) : Decidable grammar.Spacious :=
  inferInstanceAs (Decidable (∀ named ∈ grammar.namedOptions,
    named.2.takesValue = true → named.1.toList.length ≠ 2))

theorem cut_of_spelledOut? {written : List Char} (spelled : grammar.spelledOut? written = some reading)
    (attached : reading.attached = some text) : ∃ before, written = before ++ '=' :: text := by
  rw [spelledOut?] at spelled
  split at spelled
  · cases spelled
    cases attached
  · obtain ⟨⟨before, after⟩, cut, named⟩ := Option.bind_eq_some_iff.1 spelled
    obtain ⟨option, -, made⟩ := Option.bind_eq_some_iff.1 named
    cases made
    cases attached
    exact ⟨before, (Text.cut?_eq_some_iff.1 cut).1⟩

theorem cut_of_mem_longReadings {written : List Char} (member : reading ∈ grammar.longReadings written)
    (attached : reading.attached = some text) : ∃ before, written = before ++ '=' :: text := by
  obtain ⟨named, -, made⟩ := List.mem_filterMap.1 member
  split at made
  · rename_i before after cut
    split at made
    · cases made
      cases attached
      exact ⟨before, (Text.cut?_eq_some_iff.1 cut).1⟩
    · cases made
  · split at made
    · cases made
      cases attached
    · cases made

theorem not_mem_shortReadings (spacious : grammar.Spacious) {written : List Char}
    (long : 2 ≤ written.length) (takes : reading.option.takesValue = true)
    (attached : reading.attached = some text) : reading ∉ grammar.shortReadings written := by
  intro member
  obtain ⟨named, listed, made⟩ := List.mem_filterMap.1 member
  split at made
  · rename_i short
    cases made
    exact spacious named listed takes (by rw [short, List.length_take]; omega)
  · split at made
    · cases made
      cases attached
    · cases made

theorem cut_of_mem_readings (spacious : grammar.Spacious) {written : List Char}
    (long : 2 ≤ written.length) (takes : reading.option.takesValue = true)
    (attached : reading.attached = some text) (member : reading ∈ grammar.readings written) :
    ∃ before, written = before ++ '=' :: text := by
  unfold readings at member
  split at member
  · exact cut_of_mem_longReadings member attached
  · exact absurd member (not_mem_shortReadings spacious long takes attached)

theorem two_le_length {written : List Char}
    (dashed : ¬ (written.head? ≠ some '-' ∨ written.length = 1)) : 2 ≤ written.length := by
  obtain ⟨starts, several⟩ := not_or.1 dashed
  match written with
  | [] => exact absurd nofun starts
  | [_] => exact absurd rfl several
  | _ :: _ :: _ => exact Nat.le_add_left 2 _

/-- An option that takes a value takes one in the same argument only behind an equals sign. -/
theorem cut_of_roleOf (spacious : grammar.Spacious)
    (role : grammar.roleOf argument = .ok (.option reading))
    (takes : reading.option.takesValue = true) (attached : reading.attached = some text) :
    ∃ before, argument.toList = before ++ '=' :: text := by
  rw [roleOf] at role
  split at role
  · cases role
  rename_i dashed
  split at role
  · rename_i spelled
    cases role
    exact cut_of_spelledOut? spelled attached
  split at role
  · rw [roleOfUnnamed] at role
    split at role <;> cases role
  · rename_i only
    cases role
    have member : reading ∈ grammar.readings argument.toList := by
      rw [only]
      exact List.mem_singleton_self _
    exact cut_of_mem_readings spacious (two_le_length dashed) takes attached member
  · cases role

theorem cut_of_mem_roles (spacious : grammar.Spacious) {roles : List (String × Role)}
    (known : grammar.roles arguments = .ok roles) (member : (argument, .option reading) ∈ roles)
    (takes : reading.option.takesValue = true) (attached : reading.attached = some text) :
    argument ∈ arguments ∧ ∃ before, argument.toList = before ++ '=' :: text := by
  induction arguments generalizing roles with
  | nil =>
    cases known
    cases member
  | cons first rest inductionHypothesis =>
    rw [Grammar.roles] at known
    split at known
    · -- Everything behind a separator is a value.
      cases known
      simp at member
    · obtain ⟨role, isRole, known⟩ := bind_eq_ok_iff.1 known
      obtain ⟨others, knownRest, known⟩ := bind_eq_ok_iff.1 known
      cases known
      rcases List.mem_cons.1 member with same | inRest
      · cases same
        exact ⟨List.mem_cons_self, cut_of_roleOf spacious isRole takes attached⟩
      · obtain ⟨given, cut⟩ := inductionHypothesis knownRest inRest
        exact ⟨List.mem_cons_of_mem _ given, cut⟩

/-! ## Values that are texts -/

theorem written_of_takeOperand {value : String} {following : List String} (written : parsed.Written)
    (taken : grammar.takeOperand value following parsed = .ok later) : later.Written := by
  have same : later.values = parsed.values := by
    rw [takeOperand] at taken
    split at taken
    · cases taken
      rfl
    · split at taken
      · cases taken
        rfl
      · cases taken
    · cases taken
      rfl
  rwa [Parsed.Written, same]

theorem written_of_take {option : OptionSpec} {value : Value} (written : parsed.Written)
    (some : value ≠ .nothing) (taken : option.take value parsed = .ok later) : later.Written := by
  rw [OptionSpec.take] at taken
  split at taken
  · cases taken
  · cases taken
    intro title member
    rcases List.mem_append.1 member with before | new
    · exact written title before
    · cases List.mem_singleton.1 new
      exact some rfl

/-- A value is read from every option that takes one, unless it stands in the same argument and is a
separator. -/
theorem written_of_consume {roles : List (String × Role)}
    (leaves : ∀ given ∈ roles, given.2.Leaves) (written : parsed.Written)
    (consumed : grammar.consume roles parsed = .ok later) : later.Written := by
  -- On the arguments as they are consumed; only options bring values.
  fun_induction consume grammar roles parsed with
  | case1 parsed =>
    cases consumed
    exact written
  | case2 | case7 => exact written_of_takeOperand written consumed
  | case3 argument parsed _ _ separator rest inductionHypothesis =>
    obtain ⟨middle, taken, consumed⟩ := bind_eq_ok_iff.1 consumed
    have leavesRest := (List.forall_mem_cons.1 (List.forall_mem_cons.1 leaves).2).2
    exact inductionHypothesis middle leavesRest (written_of_takeOperand written taken) consumed
  | case4 argument parsed _ _ rest _ inductionHypothesis =>
    obtain ⟨middle, taken, consumed⟩ := bind_eq_ok_iff.1 consumed
    have leavesRest := (List.forall_mem_cons.1 leaves).2
    exact inductionHypothesis middle leavesRest (written_of_takeOperand written taken) consumed
  | case5 _ _ _ _ _ inductionHypothesis | case8 _ _ _ _ _ _ inductionHypothesis
  | case9 _ _ _ _ _ _ inductionHypothesis | case10 _ _ _ inductionHypothesis =>
    exact inductionHypothesis (List.forall_mem_cons.1 leaves).2 written consumed
  | case6 argument rest parsed =>
    cases consumed
    exact written
  | case11 argument reading rest parsed takes text attached inductionHypothesis =>
    obtain ⟨middle, taken, consumed⟩ := bind_eq_ok_iff.1 consumed
    obtain ⟨left, leavesRest⟩ := List.forall_mem_cons.1 leaves
    have some : Value.ofAttached text ≠ .nothing := by
      rw [Ne, Value.ofAttached_eq_nothing_iff]
      rintro rfl
      exact left takes attached
    exact inductionHypothesis middle leavesRest (written_of_take written some taken) consumed
  | case12 argument reading parsed takes _ value rest inductionHypothesis =>
    obtain ⟨middle, taken, consumed⟩ := bind_eq_ok_iff.1 consumed
    have leavesRest := (List.forall_mem_cons.1 (List.forall_mem_cons.1 leaves).2).2
    have some : Value.text value ≠ .nothing := nofun
    exact inductionHypothesis middle leavesRest (written_of_take written some taken) consumed
  | case13 | case14 => cases consumed

/-- An argument whose value, if it has one, is a separator behind an equals sign. -/
abbrev Emptying (argument : String) : Prop := ['=', '-', '-'] <:+ argument.toList

/-- Something is left of all values, unless an argument ends in a separator behind an equals sign. -/
theorem written_of_parse (spacious : grammar.Spacious)
    (read : grammar.parse arguments = .ok parsed)
    (filled : ∀ argument ∈ arguments, ¬ Emptying argument) : parsed.Written := by
  obtain ⟨roles, known, consumed, -⟩ := parse_eq_ok_iff.1 read
  refine written_of_consume ?_ (fun _ => List.not_mem_nil) consumed
  rintro ⟨argument, role⟩ member
  cases role with
  | option reading =>
    intro takes attached
    obtain ⟨given, before, written⟩ := cut_of_mem_roles spacious known member takes attached
    exact filled argument given ⟨before, written.symm⟩
  | value | separator | unknownOption => trivial

end Grammar

/-! ## The parts of a command line -/

/-- A command line as it is read: the options before the name of the subcommand, the name, and the options
behind it. Nothing is left over. -/
structure Divides (arguments : List String) (outer : Parsed) (name : String) (rest : List String)
    (inner : Parsed) : Prop where
  readOuter : mainGrammar.parse arguments = .ok outer
  operand : outer.operand = some (name, rest)
  readInner : (subcommandGrammar name).parse rest = .ok inner
  whole : outer.extra = [] ∧ inner.extra = []

theorem Invocation.parse_eq_ok_iff {settings : Settings} {arguments : List String}
    {invocation : Invocation} : Invocation.parse settings arguments = .ok invocation ↔
      ∃ outer name rest inner, Divides arguments outer name rest inner ∧
        givenAddress outer = .ok invocation.api ∧ commandOf name inner = .ok invocation.command ∧
        invocation.user = (outer.last? "--user").getD (.text settings.adminUser) ∧
        invocation.password = (outer.last? "--password").getD (.text settings.adminPassword) := by
  simp only [Invocation.parse, bind_eq_ok_iff]
  constructor
  · rintro ⟨outer, readOuter, inner, readInner, asked⟩
    obtain ⟨⟨name, rest⟩, operand⟩ := Grammar.exists_operand_of_parse readOuter nofun
    rw [operand] at readInner asked
    split at asked
    · rename_i whole
      obtain ⟨api, address, asked⟩ := bind_eq_ok_iff.1 asked
      obtain ⟨command, given, asked⟩ := bind_eq_ok_iff.1 asked
      cases asked
      exact ⟨outer, name, rest, inner,
        ⟨readOuter, operand, readInner, List.append_eq_nil_iff.1 whole⟩, address, given, rfl, rfl⟩
    · cases asked
  · rintro ⟨outer, name, rest, inner, divides, address, given, user, password⟩
    refine ⟨outer, divides.readOuter, inner, ?_, ?_⟩
    · rw [divides.operand]
      exact divides.readInner
    · rw [divides.operand, divides.whole.1, divides.whole.2, address, ← user, ← password]
      exact bind_eq_ok_iff.2 ⟨_, rfl, bind_eq_ok_iff.2 ⟨_, given, rfl⟩⟩

/-! ## Commands -/

/-- What the arguments say about the overrides of an owner that are to be seen to. -/
def overrideArguments (owner : Owner) (parsed : Parsed) : OverrideArguments where
  owner := owner
  uniqueName := given parsed "--unique-name"
  uniqueVersion := given parsed "--unique-version"
  ns := given parsed "--namespace"
  hosts := parsed.all "--host"
  versionLabel := parsed.last? "--version-label"
  defaultVersion := parsed.last? "--default-version"

/-- What the arguments say about the overrides of an owner that are to be released. -/
def releaseArguments (owner : Owner) (parsed : Parsed) : ReleaseArguments where
  owner := owner
  uniqueName := given parsed "--unique-name"
  ns := given parsed "--namespace"
  hosts := parsed.all "--host"

/-- The commands that the arguments of a subcommand ask for. -/
inductive Asks (parsed : Parsed) : String → Command → Prop where
  | reconcile {owner : Owner} (known : givenOwner parsed = .ok owner) :
      Asks parsed "reconcile" (.reconcile (overrideArguments owner parsed))
  | release {owner : Owner} (known : givenOwner parsed = .ok owner) :
      Asks parsed "release" (.release (releaseArguments owner parsed))
  | status (subset : String) : Asks parsed "status" (.status subset)
  | events (name : String) (limit : Option Int) : Asks parsed name (.events limit)

theorem asks_of_commandOf {name : String} {parsed : Parsed} {command : Command}
    (asked : commandOf name parsed = .ok command) : Asks parsed name command := by
  unfold commandOf at asked
  split at asked
  · obtain ⟨owner, known, made⟩ := bind_eq_ok_iff.1 asked
    cases made
    exact .reconcile known
  · obtain ⟨owner, known, made⟩ := bind_eq_ok_iff.1 asked
    cases made
    exact .release known
  · cases asked
    exact .status _
  · cases asked
    exact .events _ _

end RouteOverrides.CommandLine
