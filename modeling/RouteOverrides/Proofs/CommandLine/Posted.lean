import RouteOverrides.Api.App
import RouteOverrides.Proofs.CommandLine.Owners

/-! # What the command line posts

Two subcommands post. The body is a record of what their options were given, as the API reads it: an option
counts as it was given last, and hosts count all. The API refuses it only if nothing is left of a value,
which takes an argument that ends in an equals sign and a separator.

* `OverrideForm.check_toJson_eq_ok_iff`, `ReleaseForm.check_toJson_eq_ok_iff` — when a body is accepted,
  and as what.
* `CommandLine.SpellsOverride`, `CommandLine.SpellsRelease` — what the arguments spell.
* `CommandLine.meant_reconcile`, `CommandLine.meant_release` — a body means what the arguments spell.
* `CommandLine.calls`, `CommandLine.posted_of_calls` — what a command line posts, where to and as whom.
-/

namespace RouteOverrides

open CommandLine

/-! ## Parts of a body -/

namespace Schema

variable {α : Type} {members : List (String × Json)} {name : String}

theorem within_eq_ok_iff {step : Step} {checked : Checked α} {value : α} :
    within step checked = .ok value ↔ checked = .ok value := by
  cases checked with
  | ok _ => rfl
  | error _ => exact iff_of_false nofun nofun

theorem required_eq_ok_iff {check : Json → Checked α} {part : Json} {value : α}
    (found : Keyed.find? name members = some part) :
    required members name check = .ok value ↔ check part = .ok value := by
  rw [required, within_eq_ok_iff, found]

theorem text_str_eq_ok_iff {word other : String} : text (.str word) = .ok other ↔ word = other := by
  simp [text]

/-- A value is read as a text if something is left of it. -/
theorem text_toJson_eq_ok_iff {value : Value} {word : String} :
    text value.toJson = .ok word ↔ value = .text word := by
  cases value with
  | text _ => simp [Value.toJson, text]
  | nothing => exact iff_of_false nofun nofun

theorem checkItems_toJson_eq_ok_iff {index : Nat} {values : List Value} {words : List String} :
    checkItems text index (values.map Value.toJson) = .ok words ↔ values = words.map .text := by
  induction values generalizing index words with
  | nil => cases words <;> simp [checkItems]
  | cons value rest inductionHypothesis =>
    rw [List.map_cons, checkItems]
    simp only [apply_eq_ok_iff, within_eq_ok_iff, text_toJson_eq_ok_iff, inductionHypothesis]
    constructor
    · rintro ⟨_, tail, ⟨_, head, made, rfl, rfl⟩, rfl, rfl⟩
      cases made
      rfl
    · intro same
      obtain _ | ⟨head, tail⟩ := words
      · cases same
      obtain ⟨rfl, rfl⟩ := List.cons_eq_cons.1 same
      exact ⟨_, tail, ⟨_, head, rfl, rfl, rfl⟩, rfl, rfl⟩

theorem nonEmptyListOf_toJson_eq_ok_iff {values : List Value} {words : List String} :
    nonEmptyListOf text (.arr (values.map Value.toJson)) = .ok words ↔
      values = words.map .text ∧ words ≠ [] := by
  cases values with
  | nil =>
    refine iff_of_false nofun ?_
    rintro ⟨none, some⟩
    exact some (List.map_eq_nil_iff.1 none.symm)
  | cons value rest =>
    have items : nonEmptyListOf text (.arr ((value :: rest).map Value.toJson)) =
        checkItems text 0 ((value :: rest).map Value.toJson) := rfl
    rw [items, checkItems_toJson_eq_ok_iff, iff_self_and]
    rintro same rfl
    cases same

theorem nullable_eq_ok_iff {value : Option Value} {word : Option String}
    (found : Keyed.find? name members = some (optionalJson value)) :
    nullable members name text = .ok word ↔ value = word.map .text := by
  rw [nullable, found]
  cases value with
  | none => cases word <;> simp [optionalJson]
  | some value =>
    cases value with
    | text _ => cases word <;> simp [optionalJson, Value.toJson, text]
    | nothing => cases word <;> simp [optionalJson, Value.toJson, text, refuse, within]

end Schema

/-! ## Bodies -/

namespace OverrideForm

theorem check_eq_ok_iff {members : List (String × Json)} {form : OverrideForm} :
    check (.obj members) = .ok form ↔
      Schema.required members "owner_namespace" Schema.text = .ok form.ownerNs ∧
      Schema.required members "owner_name" Schema.text = .ok form.ownerName ∧
      Schema.required members "unique_name" Schema.text = .ok form.uniqueName ∧
      Schema.required members "unique_version" Schema.text = .ok form.uniqueVersion ∧
      Schema.required members "namespace" Schema.text = .ok form.ns ∧
      Schema.required members "service_hosts" (Schema.nonEmptyListOf Schema.text) = .ok form.hosts ∧
      Schema.nullable members "version_label" Schema.text = .ok form.versionLabel ∧
      Schema.nullable members "default_version" Schema.text = .ok form.defaultVersion := by
  simp only [check, Schema.record, Schema.apply_eq_ok_iff]
  constructor
  · rintro ⟨_, _, ⟨_, _, ⟨_, _, ⟨_, _, ⟨_, _, ⟨_, _, ⟨_, _, ⟨_, _, made, ownerNs, rfl⟩, ownerName, rfl⟩,
      uniqueName, rfl⟩, uniqueVersion, rfl⟩, ns, rfl⟩, hosts, rfl⟩, versionLabel, rfl⟩,
      defaultVersion, rfl⟩
    cases made
    exact ⟨ownerNs, ownerName, uniqueName, uniqueVersion, ns, hosts, versionLabel, defaultVersion⟩
  · rintro ⟨ownerNs, ownerName, uniqueName, uniqueVersion, ns, hosts, versionLabel, defaultVersion⟩
    exact ⟨_, _, ⟨_, _, ⟨_, _, ⟨_, _, ⟨_, _, ⟨_, _, ⟨_, _, ⟨_, _, rfl, ownerNs, rfl⟩, ownerName, rfl⟩,
      uniqueName, rfl⟩, uniqueVersion, rfl⟩, ns, rfl⟩, hosts, rfl⟩, versionLabel, rfl⟩,
      defaultVersion, rfl⟩

/-- The arguments that ask for what a form asks for. -/
def arguments (form : OverrideForm) : OverrideArguments where
  owner := form.owner
  uniqueName := .text form.uniqueName
  uniqueVersion := .text form.uniqueVersion
  ns := .text form.ns
  hosts := form.hosts.map .text
  versionLabel := form.versionLabel.map .text
  defaultVersion := form.defaultVersion.map .text

theorem check_toJson_eq_ok_iff {arguments : OverrideArguments} {form : OverrideForm} :
    check arguments.toJson = .ok form ↔ arguments = form.arguments ∧ form.hosts ≠ [] := by
  rw [OverrideArguments.toJson, check_eq_ok_iff, Schema.required_eq_ok_iff rfl,
    Schema.required_eq_ok_iff rfl, Schema.required_eq_ok_iff rfl, Schema.required_eq_ok_iff rfl,
    Schema.required_eq_ok_iff rfl, Schema.required_eq_ok_iff rfl, Schema.nullable_eq_ok_iff rfl,
    Schema.nullable_eq_ok_iff rfl]
  simp only [Schema.text_str_eq_ok_iff, Schema.text_toJson_eq_ok_iff,
    Schema.nonEmptyListOf_toJson_eq_ok_iff]
  constructor
  · rintro ⟨ownerNs, ownerName, uniqueName, uniqueVersion, ns, ⟨hosts, some⟩, versionLabel, defaultVersion⟩
    obtain ⟨⟨_, _⟩, _, _, _, _, _, _⟩ := arguments
    subst ownerNs ownerName uniqueName uniqueVersion ns hosts versionLabel defaultVersion
    exact ⟨rfl, some⟩
  · rintro ⟨rfl, some⟩
    exact ⟨rfl, rfl, rfl, rfl, rfl, ⟨rfl, some⟩, rfl, rfl⟩

end OverrideForm

namespace ReleaseForm

theorem check_eq_ok_iff {members : List (String × Json)} {form : ReleaseForm} :
    check (.obj members) = .ok form ↔
      Schema.required members "owner_namespace" Schema.text = .ok form.ownerNs ∧
      Schema.required members "owner_name" Schema.text = .ok form.ownerName ∧
      Schema.required members "unique_name" Schema.text = .ok form.uniqueName ∧
      Schema.required members "namespace" Schema.text = .ok form.ns ∧
      Schema.required members "service_hosts" (Schema.nonEmptyListOf Schema.text) = .ok form.hosts := by
  simp only [check, Schema.record, Schema.apply_eq_ok_iff]
  constructor
  · rintro ⟨_, _, ⟨_, _, ⟨_, _, ⟨_, _, ⟨_, _, made, ownerNs, rfl⟩, ownerName, rfl⟩, uniqueName, rfl⟩,
      ns, rfl⟩, hosts, rfl⟩
    cases made
    exact ⟨ownerNs, ownerName, uniqueName, ns, hosts⟩
  · rintro ⟨ownerNs, ownerName, uniqueName, ns, hosts⟩
    exact ⟨_, _, ⟨_, _, ⟨_, _, ⟨_, _, ⟨_, _, rfl, ownerNs, rfl⟩, ownerName, rfl⟩, uniqueName, rfl⟩,
      ns, rfl⟩, hosts, rfl⟩

/-- The arguments that ask for what a form asks for. -/
def arguments (form : ReleaseForm) : ReleaseArguments where
  owner := form.owner
  uniqueName := .text form.uniqueName
  ns := .text form.ns
  hosts := form.hosts.map .text

theorem check_toJson_eq_ok_iff {arguments : ReleaseArguments} {form : ReleaseForm} :
    check arguments.toJson = .ok form ↔ arguments = form.arguments ∧ form.hosts ≠ [] := by
  rw [ReleaseArguments.toJson, check_eq_ok_iff, Schema.required_eq_ok_iff rfl,
    Schema.required_eq_ok_iff rfl, Schema.required_eq_ok_iff rfl, Schema.required_eq_ok_iff rfl,
    Schema.required_eq_ok_iff rfl]
  simp only [Schema.text_str_eq_ok_iff, Schema.text_toJson_eq_ok_iff,
    Schema.nonEmptyListOf_toJson_eq_ok_iff]
  constructor
  · rintro ⟨ownerNs, ownerName, uniqueName, ns, hosts, some⟩
    obtain ⟨⟨_, _⟩, _, _, _⟩ := arguments
    subst ownerNs ownerName uniqueName ns hosts
    exact ⟨rfl, some⟩
  · rintro ⟨rfl, some⟩
    exact ⟨rfl, rfl, rfl, rfl, rfl, some⟩

end ReleaseForm

/-! ## What the arguments spell -/

namespace CommandLine

variable {parsed inner : Parsed} {option name : String} {owner : Owner} {arguments rest : List String}

/-- What the arguments say in common about overrides to see to and to release. An option counts as it is
given last, but of the hosts all count. -/
structure Spells (inner : Parsed) (owner : Owner) (uniqueName ns : String) (hosts : List String) :
    Prop where
  named : inner.last? "--owner" = some (.text (owner.ns ++ "/" ++ owner.name))
  firstSlash : '/' ∉ owner.ns.toList
  uniqueName : inner.last? "--unique-name" = some (.text uniqueName)
  ns : inner.last? "--namespace" = some (.text ns)
  hosts : inner.all "--host" = hosts.map .text

/-- The arguments spell a request to see to overrides. -/
structure SpellsOverride (inner : Parsed) (form : OverrideForm) : Prop extends
    Spells inner form.owner form.uniqueName form.ns form.hosts where
  uniqueVersion : inner.last? "--unique-version" = some (.text form.uniqueVersion)
  versionLabel : inner.last? "--version-label" = form.versionLabel.map .text
  defaultVersion : inner.last? "--default-version" = form.defaultVersion.map .text

/-- The arguments spell a request to release overrides. -/
abbrev SpellsRelease (inner : Parsed) (form : ReleaseForm) : Prop :=
  Spells inner form.owner form.uniqueName form.ns form.hosts

theorem given_eq_text_iff {word : String} :
    given parsed option = .text word ↔ parsed.last? option = some (.text word) := by
  rw [given]
  cases parsed.last? option with
  | none => exact iff_of_false nofun nofun
  | some value => simp

theorem owner_eq_iff (known : givenOwner inner = .ok owner) (other : Owner) :
    owner = other ↔ inner.last? "--owner" = some (.text (other.ns ++ "/" ++ other.name)) ∧
      '/' ∉ other.ns.toList := by
  rw [givenOwner] at known
  split at known
  · rename_i found
    cases known
    obtain ⟨argument, written, read⟩ := Option.bind_eq_some_iff.1 found
    obtain ⟨rfl, someNs, someName, slashless⟩ := Owner.ofArgument?_eq_some_iff.1 read
    have last : inner.last? "--owner" = some (.text owner.token) := by
      rw [← given_eq_text_iff]
      cases value : given inner "--owner" with
      | text word =>
        rw [value] at written
        cases written
        rfl
      | nothing =>
        rw [value] at written
        cases written
    rw [last]
    constructor
    · rintro rfl
      exact ⟨rfl, slashless⟩
    · rintro ⟨same, otherSlashless⟩
      exact Owner.eq_of_firstSlash slashless otherSlashless (Value.text.inj (Option.some.inj same))
  · cases known

/-! ## Options that are given -/

theorem exists_texts {values : List Value} (written : .nothing ∉ values) :
    ∃ words : List String, values = words.map .text := by
  induction values with
  | nil => exact ⟨[], rfl⟩
  | cons value rest inductionHypothesis =>
    obtain ⟨some, writtenRest⟩ := not_or.1 (mt List.mem_cons.2 written)
    obtain ⟨words, rfl⟩ := inductionHypothesis writtenRest
    cases value with
    | text word => exact ⟨word :: words, rfl⟩
    | nothing => exact absurd rfl some

theorem Parsed.Written.exists_all (written : inner.Written) (option : String) :
    ∃ words : List String, inner.all option = words.map .text := by
  refine exists_texts fun member => ?_
  obtain ⟨⟨title, _⟩, listed, rfl⟩ := List.mem_map.1 member
  exact written title (List.mem_of_mem_filter listed)

theorem Parsed.Written.exists_last? (written : inner.Written) (option : String) :
    ∃ word, inner.last? option = Option.map .text word := by
  obtain ⟨words, all⟩ := written.exists_all option
  exact ⟨words.getLast?, by rw [Parsed.last?, all, List.getLast?_map]⟩

theorem exists_text_of_required {grammar : Grammar} (written : inner.Written)
    (read : grammar.parse rest = .ok inner) {option : OptionSpec} (listed : option ∈ grammar.options)
    (required : option.required = true) : ∃ word, inner.last? option.title = some (.text word) := by
  have some := Grammar.all_ne_nil_of_required read listed required
  obtain ⟨word, last⟩ := written.exists_last? option.title
  cases word with
  | some word => exact ⟨word, last⟩
  | none => exact absurd (List.getLast?_eq_none_iff.1 last) some

/-! ## Bodies that are read -/

/-- The body of a request means what the arguments spell, and it is accepted if something is left of every
value. -/
structure Meant {form : Type} (check : Json → Schema.Checked form) (spells : Parsed → form → Prop)
    (rest : List String) (inner : Parsed) (body : Json) : Prop where
  read : ∀ asked, check body = .ok asked ↔ spells inner asked
  accepted : (∀ argument ∈ rest, ¬ Grammar.Emptying argument) → ∃ asked, check body = .ok asked

/-- The options that both subcommands need. -/
def SharesOptions (grammar : Grammar) : Prop :=
  ∀ name ∈ ["--unique-name", "--namespace", "--host"], needed name ∈ grammar.options

theorem sharesOptions_reconcile : SharesOptions reconcileGrammar := by
  simp [SharesOptions, reconcileGrammar]

theorem sharesOptions_release : SharesOptions releaseGrammar := by
  simp [SharesOptions, releaseGrammar]

variable {grammar : Grammar}

theorem all_hosts_ne_nil (shares : SharesOptions grammar) (read : grammar.parse rest = .ok inner) :
    inner.all "--host" ≠ [] :=
  Grammar.all_ne_nil_of_required read (shares "--host" (by simp)) rfl

theorem exists_spells (shares : SharesOptions grammar) (read : grammar.parse rest = .ok inner)
    (written : inner.Written) (known : givenOwner inner = .ok owner) :
    ∃ uniqueName ns hosts, Spells inner owner uniqueName ns hosts := by
  obtain ⟨named, firstSlash⟩ := (owner_eq_iff known owner).1 rfl
  obtain ⟨uniqueName, lastName⟩ :=
    exists_text_of_required written read (shares "--unique-name" (by simp)) rfl
  obtain ⟨ns, lastNs⟩ := exists_text_of_required written read (shares "--namespace" (by simp)) rfl
  obtain ⟨hosts, allHosts⟩ := written.exists_all "--host"
  exact ⟨uniqueName, ns, hosts, named, firstSlash, lastName, lastNs, allHosts⟩

theorem hosts_ne_nil {uniqueName ns : String} {hosts : List String} (some : inner.all "--host" ≠ [])
    (spells : Spells inner owner uniqueName ns hosts) : hosts ≠ [] := by
  rintro rfl
  exact some spells.hosts

theorem meant_reconcile (read : reconcileGrammar.parse rest = .ok inner)
    (known : givenOwner inner = .ok owner) :
    Meant OverrideForm.check SpellsOverride rest inner (overrideArguments owner inner).toJson := by
  have some := all_hosts_ne_nil sharesOptions_reconcile read
  have reads : ∀ form, OverrideForm.check (overrideArguments owner inner).toJson = .ok form ↔
      SpellsOverride inner form := by
    intro form
    rw [OverrideForm.check_toJson_eq_ok_iff, OverrideForm.arguments, overrideArguments,
      OverrideArguments.mk.injEq, owner_eq_iff known, given_eq_text_iff, given_eq_text_iff,
      given_eq_text_iff]
    constructor
    · rintro ⟨⟨⟨named, firstSlash⟩, uniqueName, uniqueVersion, ns, hosts, versionLabel, defaultVersion⟩, _⟩
      exact ⟨⟨named, firstSlash, uniqueName, ns, hosts⟩, uniqueVersion, versionLabel, defaultVersion⟩
    · rintro ⟨spells, uniqueVersion, versionLabel, defaultVersion⟩
      exact ⟨⟨⟨spells.named, spells.firstSlash⟩, spells.uniqueName, uniqueVersion, spells.ns,
        spells.hosts, versionLabel, defaultVersion⟩, hosts_ne_nil some spells⟩
  refine ⟨reads, fun filled => ?_⟩
  -- Each value is a text, and the form of these texts is spelled.
  have written := Grammar.written_of_parse (by decide) read filled
  obtain ⟨uniqueName, ns, hosts, spells⟩ := exists_spells sharesOptions_reconcile read written known
  obtain ⟨uniqueVersion, lastVersion⟩ := exists_text_of_required written read
    (show needed "--unique-version" ∈ reconcileGrammar.options by simp [reconcileGrammar]) rfl
  obtain ⟨versionLabel, lastLabel⟩ := written.exists_last? "--version-label"
  obtain ⟨defaultVersion, lastDefault⟩ := written.exists_last? "--default-version"
  have spelled : SpellsOverride inner
      ⟨owner.ns, owner.name, uniqueName, uniqueVersion, ns, hosts, versionLabel, defaultVersion⟩ :=
    ⟨spells, lastVersion, lastLabel, lastDefault⟩
  exact ⟨_, (reads _).2 spelled⟩

theorem meant_release (read : releaseGrammar.parse rest = .ok inner)
    (known : givenOwner inner = .ok owner) :
    Meant ReleaseForm.check SpellsRelease rest inner (releaseArguments owner inner).toJson := by
  have some := all_hosts_ne_nil sharesOptions_release read
  have reads : ∀ form, ReleaseForm.check (releaseArguments owner inner).toJson = .ok form ↔
      SpellsRelease inner form := by
    intro form
    rw [ReleaseForm.check_toJson_eq_ok_iff, ReleaseForm.arguments, releaseArguments,
      ReleaseArguments.mk.injEq, owner_eq_iff known, given_eq_text_iff, given_eq_text_iff]
    constructor
    · rintro ⟨⟨⟨named, firstSlash⟩, uniqueName, ns, hosts⟩, _⟩
      exact ⟨named, firstSlash, uniqueName, ns, hosts⟩
    · intro spells
      exact ⟨⟨⟨spells.named, spells.firstSlash⟩, spells.uniqueName, spells.ns, spells.hosts⟩,
        hosts_ne_nil some spells⟩
  refine ⟨reads, fun filled => ?_⟩
  have written := Grammar.written_of_parse (by decide) read filled
  obtain ⟨uniqueName, ns, hosts, spells⟩ := exists_spells sharesOptions_release read written known
  have spelled : SpellsRelease inner ⟨owner.ns, owner.name, uniqueName, ns, hosts⟩ := spells
  exact ⟨_, (reads _).2 spelled⟩

/-! ## Calls -/

/-- The calls that a command line makes. -/
def calls (settings : Settings) (arguments : List String) : List Call :=
  match Invocation.parse settings arguments with
  | .ok invocation => [invocation.call]
  | .error _ => []

/-- An address, and the same without the slashes at its end. -/
structure IsBase (api base : String) : Prop where
  cut : ∃ count, api.toList = base.toList ++ List.replicate count '/'
  last : base.toList.getLast? ≠ some '/'

theorem isBase_base (invocation : Invocation) : IsBase invocation.api invocation.base := by
  have slashes : ∀ c ∈ (invocation.api.toList.reverse.takeWhile (· == '/')).reverse, c = '/' := by
    intro c member
    exact beq_iff_eq.1 (List.all_eq_true.1 List.all_takeWhile c (List.mem_reverse.1 member))
  have whole : invocation.api.toList = invocation.base.toList ++
      (invocation.api.toList.reverse.takeWhile (· == '/')).reverse := by
    rw [Invocation.base, String.toList_ofList, ← List.reverse_append, List.takeWhile_append_dropWhile,
      List.reverse_reverse]
  constructor
  · exact ⟨_, whole.trans (congrArg _ (List.eq_replicate_of_mem slashes))⟩
  · rw [Invocation.base, String.toList_ofList, List.getLast?_reverse]
    intro slash
    have other := List.head?_dropWhile_not (· == '/') invocation.api.toList.reverse
    rw [slash] at other
    simp at other

theorem address_of_givenAddress {api : String} (given : givenAddress parsed = .ok api) :
    (parsed.last? "--api").getD (.text defaultAddress) = .text api := by
  rw [givenAddress] at given
  split at given
  · rename_i none
    cases given
    rw [none]
    rfl
  · rename_i found
    cases given
    rw [found]
    rfl
  · cases given

/-- The subcommands that post: to what address each of them does, and what its body means. -/
inductive Posts (rest : List String) (inner : Parsed) (body : Json) : String → String → Prop where
  | reconcile (meant : Meant OverrideForm.check SpellsOverride rest inner body) :
      Posts rest inner body "reconcile" "/overrides"
  | release (meant : Meant ReleaseForm.check SpellsRelease rest inner body) :
      Posts rest inner body "release" "/overrides/release"

theorem Asks.posts {command : Command} (asks : Asks inner name command)
    (read : (subcommandGrammar name).parse rest = .ok inner) {invocation : Invocation}
    (same : invocation.command = command) {url : String} {body : Json} {user password : Value}
    (call : invocation.call = .post url body user password) :
    user = invocation.user ∧ password = invocation.password ∧
      ∃ ending, url = invocation.base ++ ending ∧ Posts rest inner body name ending := by
  rw [Invocation.call, same] at call
  cases asks with
  | reconcile known =>
    cases call
    exact ⟨rfl, rfl, _, rfl, .reconcile (meant_reconcile read known)⟩
  | release known =>
    cases call
    exact ⟨rfl, rfl, _, rfl, .release (meant_release read known)⟩
  | status _ | events _ _ => cases call

end CommandLine

namespace App

/-- An application is sent the calls of a command line that it runs, and nothing else. -/
theorem runCommand_of_calls {app : App} {arguments : List String} {call : Call}
    (only : calls app.settings arguments = [call]) : app.runCommand arguments =
      ((app.send call.toRequest).1.mapError .client, (app.send call.toRequest).2) := by
  rw [calls] at only
  rw [runCommand]
  split at only
  · rename_i invocation asked
    cases only
    rw [asked]
  · cases only

end App

namespace CommandLine

variable {settings : Settings} {arguments : List String} {url : String} {body : Json}
  {user password : Value}

/-- Let a command line post. It posts once, with the user and the password that are given last or those of
the settings, to the address that is given last without the slashes at its end. The body is read exactly as
what the arguments spell, and it is accepted unless one of the arguments leaves nothing of a value. -/
theorem posted_of_calls (posts : .post url body user password ∈ calls settings arguments) :
    (∀ app : App, app.settings = settings → app.runCommand arguments =
      ((app.send (Call.post url body user password).toRequest).1.mapError .client,
        (app.send (Call.post url body user password).toRequest).2)) ∧
    calls settings arguments = [.post url body user password] ∧
    ∃ outer name rest inner api base ending, Divides arguments outer name rest inner ∧
      (outer.last? "--api").getD (.text defaultAddress) = .text api ∧ IsBase api base ∧
      url = base ++ ending ∧ Posts rest inner body name ending ∧
      user = (outer.last? "--user").getD (.text settings.adminUser) ∧
      password = (outer.last? "--password").getD (.text settings.adminPassword) := by
  have only : calls settings arguments = [.post url body user password] := by
    rw [calls] at posts ⊢
    split at posts
    · rw [List.mem_singleton.1 posts]
    · cases posts
  have asked : ∃ invocation, Invocation.parse settings arguments = .ok invocation ∧
      invocation.call = .post url body user password := by
    rw [calls] at only
    split at only
    · rename_i invocation asked
      exact ⟨invocation, asked, List.head_eq_of_cons_eq only⟩
    · cases only
  obtain ⟨invocation, asked, call⟩ := asked
  obtain ⟨outer, name, rest, inner, divides, address, given, sameUser, samePassword⟩ :=
    Invocation.parse_eq_ok_iff.1 asked
  obtain ⟨rfl, rfl, ending, there, posts⟩ :=
    (asks_of_commandOf given).posts divides.readInner rfl call
  refine ⟨?_, only, outer, name, rest, inner, invocation.api, invocation.base, ending, divides,
    address_of_givenAddress address, isBase_base invocation, there, posts, sameUser, samePassword⟩
  rintro app rfl
  exact app.runCommand_of_calls only

theorem calls_of_toOption {invocation : Invocation}
    (asked : (Invocation.parse settings arguments).toOption = some invocation) :
    calls settings arguments = [invocation.call] := by
  rw [calls]
  cases parsed : Invocation.parse settings arguments with
  | ok other =>
    rw [parsed] at asked
    cases asked
    rfl
  | error _ =>
    rw [parsed] at asked
    cases asked

/-- A command line with most of the options of a request. -/
def reconcileShop : List String :=
  ["--api", "http://vsr:8000/", "--user", "ops", "--password", "pw", "reconcile", "--owner", "envs/dyn-env",
    "--unique-name", "dyn-env", "--unique-version", "v2", "--namespace", "shop", "--host", "payments",
    "--host", "orders"]

theorem calls_reconcileShop : ∃ body, calls {} reconcileShop =
    [.post "http://vsr:8000/overrides" body (.text "ops") (.text "pw")] := by
  have asked : (Invocation.parse {} reconcileShop).toOption = some
      { api := "http://vsr:8000/"
        user := .text "ops"
        password := .text "pw"
        command := .reconcile
          { owner := ⟨"envs", "dyn-env"⟩
            uniqueName := .text "dyn-env"
            uniqueVersion := .text "v2"
            ns := .text "shop"
            hosts := [.text "payments", .text "orders"]
            versionLabel := none
            defaultVersion := none } } := by decide +kernel
  exact ⟨_, calls_of_toOption asked⟩

theorem posted_of_calls_reconcileShop : ∃ body rest inner name ending,
    .post "http://vsr:8000/overrides" body (.text "ops") (.text "pw") ∈ calls {} reconcileShop ∧
    Posts rest inner body name ending := by
  obtain ⟨body, only⟩ := calls_reconcileShop
  have posts : .post "http://vsr:8000/overrides" body (.text "ops") (.text "pw") ∈
      calls {} reconcileShop := by
    rw [only]
    exact List.mem_singleton_self _
  obtain ⟨-, -, _, name, rest, inner, _, _, ending, _, _, _, _, posted, _⟩ := posted_of_calls posts
  exact ⟨body, rest, inner, name, ending, posts, posted⟩

/-- A command line that leaves nothing of the unique name. -/
def releaseNameless : List String :=
  ["release", "--owner", "envs/team", "--unique-name=--", "--namespace", "prod", "--host", "cart"]

/-- What is posted may be refused. -/
theorem not_accepted_releaseNameless : ¬ ∀ settings arguments api body user password,
    .post (api ++ "/overrides/release") body user password ∈ calls settings arguments →
    ∃ form, ReleaseForm.check body = .ok form := by
  have asked : (Invocation.parse {} releaseNameless).toOption = some
      { api := "http://localhost:8000"
        user := .text "admin"
        password := .text "change-me"
        command := .release ⟨⟨"envs", "team"⟩, .nothing, .text "prod", [.text "cart"]⟩ } := by
    decide +kernel
  intro accepted
  obtain ⟨form, read⟩ := accepted {} releaseNameless _ _ _ _ (by
    rw [calls_of_toOption asked]
    exact List.mem_singleton_self _)
  cases read

end CommandLine

end RouteOverrides
