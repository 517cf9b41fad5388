import RouteOverrides.CommandLine.Parsed
import RouteOverrides.Json.Parser
import RouteOverrides.Json.Printer
import RouteOverrides.Owner.Basic
import RouteOverrides.Settings
import RouteOverrides.Text.Integer

/-! # The commands

The command line sends one request to the API and prints the answer. There are four commands: to see
to the overrides of an owner, to release them, to show the statuses of a subset, and to show events.

* `Owner.ofArgument?`: an owner given as an argument. The namespace ends at the first slash; the
  name may hold more of them.
* `Invocation.parse`: what the arguments ask for. An option of which no value is left is sent on as
  an empty list, but the address of the API and the owner cannot be done without.
* `Invocation.call`: the request to send.
* `Reply.report`: what is printed, and the exit code. -/

namespace RouteOverrides

/-- An owner given as an argument: two parts that are not empty, cut at the first slash. -/
def Owner.ofArgument? (argument : String) : Option Owner :=
  match Text.cut? '/' argument.toList with
  | some (ns, name) =>
    if ns = [] ∨ name = [] then none else some ⟨String.ofList ns, String.ofList name⟩
  | none => none

namespace CommandLine

/-- What the arguments say about overrides to see to. -/
structure OverrideArguments where
  owner : Owner
  uniqueName : Value
  uniqueVersion : Value
  ns : Value
  hosts : List Value
  versionLabel : Option Value
  defaultVersion : Option Value
  deriving DecidableEq, Repr

/-- What the arguments say about overrides to release. -/
structure ReleaseArguments where
  owner : Owner
  uniqueName : Value
  ns : Value
  hosts : List Value
  deriving DecidableEq, Repr

/-- What to ask the API for. -/
inductive Command where
  | reconcile (arguments : OverrideArguments)
  | release (arguments : ReleaseArguments)
  | status (subset : String)
  /-- Shows the newest events; there may be no number left. -/
  | events (limit : Option Int)
  deriving DecidableEq, Repr

/-- A command with where to send it and as whom. -/
structure Invocation where
  api : String
  user : Value
  password : Value
  command : Command
  deriving DecidableEq, Repr

/-! ## Grammars -/

/-- The complaint about an argument that is no owner. -/
def ownerComplaint (value : String) : Option String :=
  if (Owner.ofArgument? value).isSome then none
  else some "owner must look like <namespace>/<name>"

/-- The complaint about an argument that is no integer. -/
def integerComplaint (value : String) : Option String :=
  if (Text.integer? value.toList).isSome then none
  else some ("invalid int value: " ++ Text.quoted value)

def needed (name : String) : OptionSpec where
  names := [name]
  required := true

/-- The owner, as an option that has to be given. -/
def ownerOption : OptionSpec where
  names := ["--owner"]
  required := true
  complaint := ownerComplaint

/-- The number of events to show. -/
def limitOption : OptionSpec where
  names := ["--limit"]
  complaint := integerComplaint

def mainGrammar : Grammar where
  options := [{ names := ["--api"] }, { names := ["--user"] }, { names := ["--password"] }]
  operand := .command "cmd" ["reconcile", "release", "status", "events"]

def reconcileGrammar : Grammar where
  options :=
    [ownerOption, needed "--unique-name", needed "--unique-version", needed "--namespace",
      needed "--host", { names := ["--version-label"] }, { names := ["--default-version"] }]
  operand := .none

def releaseGrammar : Grammar where
  options := [ownerOption, needed "--unique-name", needed "--namespace", needed "--host"]
  operand := .none

def statusGrammar : Grammar where
  options := []
  operand := .word "subset"

/-- The grammar of showing events. -/
def eventsGrammar : Grammar where
  options := [limitOption]
  operand := .none

def subcommandGrammar (name : String) : Grammar :=
  match name with
  | "reconcile" => reconcileGrammar
  | "release" => releaseGrammar
  | "status" => statusGrammar
  | _ => eventsGrammar

/-! ## From arguments to commands -/

/-- The number of events to show when none is given. -/
def defaultLimit : Int := 20

/-- The value of an option that has been checked to be there. -/
def given (parsed : Parsed) (option : String) : Value := (parsed.last? option).getD .nothing

/-- The owner that the arguments name last. -/
def givenOwner (parsed : Parsed) : Except Stop Owner :=
  match ((given parsed "--owner").text?).bind Owner.ofArgument? with
  | some owner => .ok owner
  | none => .error .noOwner

/-- The number of events that the arguments ask for, unless no value is left of it. -/
def givenLimit (parsed : Parsed) : Option Int :=
  match parsed.last? "--limit" with
  | none => some defaultLimit
  | some limit => limit.text?.bind fun text => Text.integer? text.toList

/-- The command that a subcommand's arguments ask for. -/
def commandOf (name : String) (parsed : Parsed) : Except Stop Command :=
  match name with
  | "reconcile" => do
    let owner ← givenOwner parsed
    pure
      (.reconcile
        { owner
          uniqueName := given parsed "--unique-name"
          uniqueVersion := given parsed "--unique-version"
          ns := given parsed "--namespace"
          hosts := parsed.all "--host"
          versionLabel := parsed.last? "--version-label"
          defaultVersion := parsed.last? "--default-version" })
  | "release" => do
    let owner ← givenOwner parsed
    pure
      (.release
        { owner
          uniqueName := given parsed "--unique-name"
          ns := given parsed "--namespace"
          hosts := parsed.all "--host" })
  | "status" => .ok (.status ((parsed.operand.map (·.1)).getD ""))
  | _ => .ok (.events (givenLimit parsed))

/-- Where the API is unless the arguments say so. -/
def defaultAddress : String := "http://localhost:8000"

def givenAddress (parsed : Parsed) : Except Stop String :=
  match parsed.last? "--api" with
  | none => .ok defaultAddress
  | some (.text address) => .ok address
  | some .nothing => .error .noAddress

namespace Invocation

/-- What the arguments ask for. Settings stand in for a user and a password that are not given. -/
def parse (settings : Settings) (arguments : List String) : Except Stop Invocation := do
  let outer ← mainGrammar.parse arguments
  let (name, rest) := outer.operand.getD ("", [])
  let inner ← (subcommandGrammar name).parse rest
  match outer.extra ++ inner.extra with
  | [] => do
    let api ← givenAddress outer
    let command ← commandOf name inner
    pure
      { api
        user := (outer.last? "--user").getD (.text settings.adminUser)
        password := (outer.last? "--password").getD (.text settings.adminPassword)
        command }
  | extra => throw (.misuse ("unrecognized arguments: " ++ String.intercalate " " extra))

/-- The address of the API without slashes at its end. -/
def base (invocation : Invocation) : String :=
  String.ofList (invocation.api.toList.reverse.dropWhile (· == '/')).reverse

end Invocation

/-! ## Requests and replies -/

/-- A value in the body of a request: its text, or an empty list where nothing is left of it. -/
def Value.toJson : Value → Json
  | .text word => .str word
  | .nothing => .arr []

/-- A value that may not be given in the body of a request. -/
def optionalJson (value : Option Value) : Json := (value.map Value.toJson).getD .null

def OverrideArguments.toJson (arguments : OverrideArguments) : Json :=
  .obj
    [("owner_namespace", .str arguments.owner.ns), ("owner_name", .str arguments.owner.name),
      ("unique_name", arguments.uniqueName.toJson),
      ("unique_version", arguments.uniqueVersion.toJson), ("namespace", arguments.ns.toJson),
      ("service_hosts", .arr (arguments.hosts.map Value.toJson)),
      ("version_label", optionalJson arguments.versionLabel),
      ("default_version", optionalJson arguments.defaultVersion)]

def ReleaseArguments.toJson (arguments : ReleaseArguments) : Json :=
  .obj
    [("owner_namespace", .str arguments.owner.ns), ("owner_name", .str arguments.owner.name),
      ("unique_name", arguments.uniqueName.toJson), ("namespace", arguments.ns.toJson),
      ("service_hosts", .arr (arguments.hosts.map Value.toJson))]

/-- A request to the API. -/
inductive Call where
  | status (url : String)
  | events (url : String) (limit : Option Int)
  | post (url : String) (body : Json) (user password : Value)

namespace Invocation

def call (invocation : Invocation) : Call :=
  match invocation.command with
  | .status subset => .status (invocation.base ++ "/status/" ++ subset)
  | .events limit => .events (invocation.base ++ "/events") limit
  | .reconcile arguments =>
    .post (invocation.base ++ "/overrides") arguments.toJson invocation.user invocation.password
  | .release arguments =>
    .post (invocation.base ++ "/overrides/release") arguments.toJson invocation.user
      invocation.password

end Invocation

/-- The answer to a request: whether it was carried out, and the text of the body. -/
structure Reply where
  ok : Bool
  body : String
  deriving DecidableEq, Repr

/-- What is printed, and the exit code. -/
structure Report where
  exit : Nat
  output : String
  deriving DecidableEq, Repr

def Report.ofJson (ok : Bool) (value : Json) : Report := ⟨if ok then 0 else 1, value.pretty ++ "\n"⟩

/-- What is printed for a reply, or what is wrong with its body. -/
def Reply.report (reply : Reply) : Except Json.Fault Report :=
  (Json.parse reply.body).map (Report.ofJson reply.ok)

/-- The exit code of a command line that cannot be run, and the complaint about it. -/
def Stop.exit : Stop → Nat × Option String
  | help => (0, none)
  | misuse message => (2, some message)
  | noAddress => (1, some "no address of the API is left")
  | noOwner => (1, some "no owner is left")

end CommandLine

end RouteOverrides
