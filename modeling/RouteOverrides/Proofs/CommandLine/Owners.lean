import RouteOverrides.Proofs.CommandLine.Reading
import RouteOverrides.Proofs.Owner.Codec

/-! # Owners on the command line

An owner is written in the same way for the command line and in annotations, and there are two readers for
it. Both cut at the first slash, but only the reader of tokens looks for another one behind it. So the
command line sends owners whose tokens name nobody.

* `Owner.ofArgument?_eq_some_iff`, `Owner.ofToken?_eq_some_iff` — what both readers read.
* `CommandLine.Command.owner?` — the owner that a command is about.
* `Owner.readers_agree_on_slashless` — the readers agree unless there is a slash in the name.
-/

namespace RouteOverrides

open CommandLine

namespace CommandLine

/-- The owner that a command is about, if it changes overrides. -/
def Command.owner? : Command → Option Owner
  | .reconcile arguments => some arguments.owner
  | .release arguments => some arguments.owner
  | .status _ | .events _ => none

theorem ofArgument?_of_givenOwner {parsed : Parsed} {owner : Owner}
    (given : givenOwner parsed = .ok owner) : ∃ argument, Owner.ofArgument? argument = some owner := by
  rw [givenOwner] at given
  split at given
  · rename_i found
    cases given
    obtain ⟨argument, -, read⟩ := Option.bind_eq_some_iff.1 found
    exact ⟨argument, read⟩
  · cases given

/-- The owner of a command has been read from an argument. -/
theorem Asks.exists_argument {name : String} {parsed : Parsed} {command : Command} {owner : Owner}
    (asks : Asks parsed name command) (about : command.owner? = some owner) :
    ∃ argument, Owner.ofArgument? argument = some owner := by
  cases asks with
  | reconcile known | release known =>
    cases about
    exact ofArgument?_of_givenOwner known
  | status _ | events _ _ => cases about

end CommandLine

namespace Owner

variable {argument : String} {owner : Owner}

/-- The namespace ends at the first slash of the token. -/
theorem eq_of_firstSlash {other : Owner} (slashless : '/' ∉ owner.ns.toList)
    (otherSlashless : '/' ∉ other.ns.toList) (same : owner.token = other.token) : owner = other := by
  have cut := Text.cut?_eq_some_iff.2 ⟨toList_token owner, slashless⟩
  rw [same, Text.cut?_eq_some_iff.2 ⟨toList_token other, otherSlashless⟩] at cut
  obtain ⟨sameNs, sameName⟩ := Prod.mk.inj (Option.some.inj cut)
  cases owner
  cases other
  exact congrArg₂ Owner.mk (String.toList_inj.1 sameNs).symm (String.toList_inj.1 sameName).symm

/-- The name of an owner that is given as an argument may hold slashes. -/
theorem ofArgument?_eq_some_iff : ofArgument? argument = some owner ↔
    argument = owner.token ∧ owner.ns.toList ≠ [] ∧ owner.name.toList ≠ [] ∧
      '/' ∉ owner.ns.toList := by
  constructor
  · intro read
    unfold ofArgument? at read
    split at read
    · rename_i ns name cut
      obtain ⟨written, slashless⟩ := Text.cut?_eq_some_iff.1 cut
      split at read
      · cases read
      · rename_i complete
        cases read
        obtain ⟨someNs, someName⟩ := not_or.1 complete
        refine ⟨String.toList_inj.1 ?_, by simpa using someNs, by simpa using someName,
          by simpa using slashless⟩
        rw [toList_token, String.toList_ofList, String.toList_ofList, written]
    · cases read
  · rintro ⟨rfl, someNs, someName, slashless⟩
    have cut : Text.cut? '/' owner.token.toList = some (owner.ns.toList, owner.name.toList) :=
      Text.cut?_eq_some_iff.2 ⟨toList_token owner, slashless⟩
    unfold ofArgument?
    rw [cut]
    simp [someNs, someName]

theorem ofToken?_eq_some_iff : ofToken? argument = some owner ↔
    ofArgument? argument = some owner ∧ '/' ∉ owner.name.toList := by
  rw [ofToken?, ofChars?_eq_some_iff, ofArgument?_eq_some_iff, String.toList_inj]
  tauto

theorem ownerComplaint_eq_none_iff :
    ownerComplaint argument = none ↔ (ofArgument? argument).isSome = true := by
  rw [ownerComplaint]
  split
  · rename_i read
    exact iff_of_true rfl read
  · rename_i unread
    exact iff_of_false nofun unread

theorem ofToken?_token (read : ofArgument? argument = some owner) :
    ofToken? owner.token = if '/' ∈ owner.name.toList then none else some owner := by
  obtain ⟨rfl, -⟩ := ofArgument?_eq_some_iff.1 read
  split
  · rename_i slash
    cases found : ofToken? owner.token with
    | none => rfl
    | some other =>
      obtain ⟨readOther, slashless⟩ := ofToken?_eq_some_iff.1 found
      rw [read] at readOther
      cases readOther
      exact absurd slash slashless
  · rename_i slashless
    exact ofToken?_eq_some_iff.2 ⟨read, slashless⟩

theorem agree_iff_slashless :
    (ownerComplaint argument = none ↔ (ofToken? argument).isSome = true) ↔
      ∀ other, ofArgument? argument = some other → '/' ∉ other.name.toList := by
  rw [ownerComplaint_eq_none_iff]
  constructor
  · intro agree other read
    obtain ⟨named, token⟩ := Option.isSome_iff_exists.1 (agree.1 (Option.isSome_of_eq_some read))
    obtain ⟨readNamed, slashless⟩ := ofToken?_eq_some_iff.1 token
    rw [read] at readNamed
    cases readNamed
    exact slashless
  · intro slashless
    constructor
    · intro accepted
      obtain ⟨other, read⟩ := Option.isSome_iff_exists.1 accepted
      exact Option.isSome_of_eq_some (ofToken?_eq_some_iff.2 ⟨read, slashless other read⟩)
    · intro token
      obtain ⟨other, read⟩ := Option.isSome_iff_exists.1 token
      exact Option.isSome_of_eq_some (ofToken?_eq_some_iff.1 read).1

/-- When both readers agree on what an owner is: if no owner with a slash in its name is read from the
argument. What is read from a token is read from the argument too. But the token of an owner that a command
line sends is read again only if there is no slash in its name. -/
theorem readers_agree_on_slashless (argument : String) (owner : Owner) :
    (ofToken? argument = some owner ↔
      ofArgument? argument = some owner ∧ '/' ∉ owner.name.toList) ∧
    ((ownerComplaint argument = none ↔ (ofToken? argument).isSome = true) ↔
      ∀ other, ofArgument? argument = some other → '/' ∉ other.name.toList) ∧
    ∀ settings arguments invocation,
      Invocation.parse settings arguments = .ok invocation →
      invocation.command.owner? = some owner →
      ofToken? owner.token = if '/' ∈ owner.name.toList then none else some owner := by
  refine ⟨ofToken?_eq_some_iff, agree_iff_slashless, ?_⟩
  intro settings arguments invocation asked about
  obtain ⟨_, name, _, inner, _, _, given, _⟩ := Invocation.parse_eq_ok_iff.1 asked
  obtain ⟨argument, read⟩ := (asks_of_commandOf given).exists_argument about
  exact ofToken?_token read

/-- A command line that names an owner with a slash in its name. -/
def releaseTeam : List String :=
  ["release", "--owner", "envs/team/web", "--unique-name", "blue", "--namespace", "prod", "--host", "cart"]

theorem readers_agree_on_slashless_releaseTeam : ∃ invocation,
    Invocation.parse {} releaseTeam = .ok invocation ∧
    invocation.command.owner? = some ⟨"envs", "team/web"⟩ ∧ ofToken? "envs/team/web" = none := by
  have asked : ∃ invocation, Invocation.parse {} releaseTeam = .ok invocation ∧
      invocation.command.owner? = some ⟨"envs", "team/web"⟩ := ⟨_, rfl, rfl⟩
  obtain ⟨invocation, asked, about⟩ := asked
  exact ⟨invocation, asked, about,
    (readers_agree_on_slashless "envs/team/web" ⟨"envs", "team/web"⟩).2.2 _ _ _ asked about⟩

/-- Not every argument that is accepted is the token of an owner. -/
theorem not_readers_agree :
    ¬ ∀ argument owner, ofArgument? argument = some owner ↔ ofToken? argument = some owner := by
  intro agree
  exact nomatch (agree "envs/team/web" ⟨"envs", "team/web"⟩).1 (by decide)

end Owner

end RouteOverrides
