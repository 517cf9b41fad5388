import RouteOverrides.Proofs.Owner.Lenience

/-! # The history of a set of owners

What a set of owners lists and answers is told from its history, which begins with the owners that it
was made from. An owner stands in the set from the step that added it, unless its token was there
already, until a step discards the token. So the set lists its owners in the order of these steps,
whatever owners share a token and whatever characters a token has.

* `OwnerSet.Present`, `OwnerSet.Entered` — a history leaves a token in the set, and the step from which
  on an owner stands there; `OwnerSet.lasting_concat_iff` for one step more.
* `OwnerSet.Listing` — a set lists the owners that its history leaves there; `Listing.concat` for one
  step more.
* `OwnerSet.Reflects`, `OwnerSet.reflects_history` — after any steps, what the set lists and what it
  answers next.
-/

namespace RouteOverrides

namespace OwnerSet

variable {history : List OwnerSet.Step} {step : OwnerSet.Step} {owners : OwnerSet} {owner : Owner}
  {token : String} {position : Nat} {entries : List (Nat × Owner)}

/-! ## Histories -/

namespace Step

def Adds (token : String) : Step → Prop
  | add owner => owner.token = token
  | discard _ | find _ => False

def Discards (token : String) : Step → Prop
  | discard owner => owner.token = token
  | add _ | find _ => False

end Step

/-- After this part of a history a step adds the owner, and no later step discards its token. -/
inductive Lasting : List Step → List Step → Owner → Prop where
  | added {before after : List Step} {owner : Owner}
      (kept : ∀ step ∈ after, ¬ step.Discards owner.token) :
      Lasting (before ++ .add owner :: after) before owner

/-- A token was added and not discarded since. -/
def Present (history : List Step) (token : String) : Prop :=
  ∃ before owner, Lasting history before owner ∧ owner.token = token

/-- The step at a position added the owner when its token was not there, and it was not discarded
since. -/
def Entered (history : List Step) (position : Nat) (owner : Owner) : Prop :=
  ∃ before, Lasting history before owner ∧ before.length = position ∧ ¬ Present before owner.token

theorem concat_eq_iff {α : Type} {history before after : List α} {last item : α} :
    history ++ [last] = before ++ item :: after ↔
      (history = before ∧ last = item ∧ after = []) ∨
      ∃ between, history = before ++ item :: between ∧ after = between ++ [last] := by
  constructor
  · intro same
    rcases List.eq_nil_or_concat after with rfl | ⟨between, final, rfl⟩
    · obtain ⟨first, second⟩ := List.append_inj' same rfl
      exact .inl ⟨first, List.singleton_inj.1 second, rfl⟩
    · rw [List.concat_eq_append] at same ⊢
      rw [← List.cons_append, ← List.append_assoc] at same
      obtain ⟨first, second⟩ := List.append_inj' same rfl
      cases List.singleton_inj.1 second
      exact .inr ⟨between, first, rfl⟩
  · rintro (⟨rfl, rfl, rfl⟩ | ⟨between, rfl, rfl⟩)
    · rfl
    · simp

theorem lasting_concat_iff {before : List Step} : Lasting (history ++ [step]) before owner ↔
    (before = history ∧ step = .add owner) ∨
    Lasting history before owner ∧ ¬ step.Discards owner.token := by
  constructor
  · intro lasting
    generalize whole : history ++ [step] = longer at lasting
    cases lasting with
    | added kept =>
      -- The last step is the one that adds the owner, or it comes later.
      rcases concat_eq_iff.1 whole with ⟨rfl, rfl, -⟩ | ⟨between, rfl, rfl⟩
      · exact .inl ⟨rfl, rfl⟩
      · rw [List.forall_mem_append, List.forall_mem_singleton] at kept
        exact .inr ⟨.added kept.1, kept.2⟩
  · rintro (⟨rfl, rfl⟩ | ⟨lasting, kept⟩)
    · exact .added (List.forall_mem_nil _)
    · cases lasting with
      | added keptBefore =>
        rw [List.append_assoc, List.cons_append]
        refine .added ?_
        rw [List.forall_mem_append, List.forall_mem_singleton]
        exact ⟨keptBefore, kept⟩

theorem Lasting.length_lt {before : List Step} (lasting : Lasting history before owner) :
    before.length < history.length := by
  cases lasting with
  | added _ => simp

theorem present_concat_iff : Present (history ++ [step]) token ↔
    step.Adds token ∨ Present history token ∧ ¬ step.Discards token := by
  constructor
  · rintro ⟨before, owner, lasting, rfl⟩
    rcases lasting_concat_iff.1 lasting with ⟨-, rfl⟩ | ⟨lastingBefore, kept⟩
    · exact .inl rfl
    · exact .inr ⟨⟨before, owner, lastingBefore, rfl⟩, kept⟩
  · rintro (adds | ⟨⟨before, owner, lasting, rfl⟩, kept⟩)
    · cases step with
      | add owner => exact ⟨history, owner, lasting_concat_iff.2 (.inl ⟨rfl, rfl⟩), adds⟩
      | discard _ => cases adds
      | find _ => cases adds
    · exact ⟨before, owner, lasting_concat_iff.2 (.inr ⟨lasting, kept⟩), rfl⟩

theorem entered_concat_iff : Entered (history ++ [step]) position owner ↔
    (Entered history position owner ∧ ¬ step.Discards owner.token) ∨
    (position = history.length ∧ step = .add owner ∧ ¬ Present history owner.token) := by
  constructor
  · rintro ⟨before, lasting, rfl, new⟩
    rcases lasting_concat_iff.1 lasting with ⟨rfl, rfl⟩ | ⟨lastingBefore, kept⟩
    · exact .inr ⟨rfl, rfl, new⟩
    · exact .inl ⟨⟨before, lastingBefore, rfl, new⟩, kept⟩
  · rintro (⟨⟨before, lasting, rfl, new⟩, kept⟩ | ⟨rfl, rfl, new⟩)
    · exact ⟨before, lasting_concat_iff.2 (.inr ⟨lasting, kept⟩), rfl, new⟩
    · exact ⟨history, lasting_concat_iff.2 (.inl ⟨rfl, rfl⟩), rfl, new⟩

theorem Entered.lt_length (entered : Entered history position owner) : position < history.length := by
  obtain ⟨before, lasting, rfl, -⟩ := entered
  exact lasting.length_lt

/-! ## Listings -/

/-- A set lists the owners that its history leaves there, and these entries are the owners with the
positions of the steps that put them there. -/
structure Listing (history : List Step) (owners : OwnerSet) (entries : List (Nat × Owner)) : Prop where
  present_iff : ∀ token, token ∈ owners.tokens ↔ Present history token
  listed : owners.toList = entries.map Prod.snd
  ordered : entries.Pairwise fun first second => first.1 < second.1
  mem_iff : ∀ position owner, (position, owner) ∈ entries ↔ Entered history position owner

theorem mem_tokens_erase :
    token ∈ (owners.erase owner).tokens ↔ token ∈ owners.tokens ∧ token ≠ owner.token := by
  rw [tokens, toList_erase, List.mem_map, tokens, List.mem_map]
  constructor
  · rintro ⟨other, member, rfl⟩
    obtain ⟨listed, different⟩ := List.mem_filter.1 member
    exact ⟨⟨other, listed, rfl⟩, bne_iff_ne.1 different⟩
  · rintro ⟨⟨other, listed, rfl⟩, different⟩
    exact ⟨other, List.mem_filter.2 ⟨listed, bne_iff_ne.2 different⟩, rfl⟩

theorem listing_nil : Listing [] empty [] where
  present_iff token := by
    refine iff_of_false List.not_mem_nil ?_
    rintro ⟨before, owner, lasting, -⟩
    exact Nat.not_lt_zero _ lasting.length_lt
  listed := rfl
  ordered := .nil
  mem_iff position owner :=
    iff_of_false List.not_mem_nil fun entered => Nat.not_lt_zero _ entered.lt_length

namespace Listing

/-- A step that changes nothing: it adds only what is there already, and discards nothing. -/
theorem idle (listing : Listing history owners entries)
    (known : ∀ token, step.Adds token → Present history token)
    (keeps : ∀ token, ¬ step.Discards token) : Listing (history ++ [step]) owners entries where
  present_iff token := by
    rw [listing.present_iff, present_concat_iff, and_iff_left (keeps token)]
    exact (or_iff_right_of_imp (known token)).symm
  listed := listing.listed
  ordered := listing.ordered
  mem_iff position owner := by
    have notNew : ¬ (position = history.length ∧ step = .add owner ∧ ¬ Present history owner.token) := by
      rintro ⟨-, rfl, new⟩
      exact new (known _ rfl)
    rw [listing.mem_iff, entered_concat_iff, and_iff_left (keeps _), or_iff_left notNew]

theorem insert_new (listing : Listing history owners entries) (new : ¬ Present history owner.token) :
    Listing (history ++ [.add owner]) (owners.insert owner)
      (entries ++ [(history.length, owner)]) where
  present_iff token := by
    rw [mem_tokens_insert, listing.present_iff, present_concat_iff, Step.Adds, Step.Discards,
      not_false_iff, and_true, or_comm, eq_comm]
  listed := by
    have absent : owner.token ∉ owners.tokens := mt (listing.present_iff _).1 new
    rw [toList_insert_of_not_mem absent, listing.listed, List.map_append, List.map_singleton]
  ordered := by
    rw [List.pairwise_append]
    refine ⟨listing.ordered, List.pairwise_singleton _ _, fun entry member last isLast => ?_⟩
    cases List.mem_singleton.1 isLast
    exact ((listing.mem_iff entry.1 entry.2).1 member).lt_length
  mem_iff position other := by
    rw [List.mem_append, List.mem_singleton, listing.mem_iff, entered_concat_iff, Prod.mk.injEq,
      Step.Discards, not_false_iff, and_true, Step.add.injEq]
    refine or_congr_right (and_congr_right fun _ => ?_)
    constructor
    · rintro rfl
      exact ⟨rfl, new⟩
    · rintro ⟨rfl, -⟩
      rfl

theorem erase (listing : Listing history owners entries) (owner : Owner) :
    Listing (history ++ [.discard owner]) (owners.erase owner)
      (entries.filter fun entry => entry.2.token != owner.token) where
  present_iff token := by
    rw [mem_tokens_erase, listing.present_iff, present_concat_iff, Step.Adds, Step.Discards,
      false_or, ne_comm]
  listed := by
    rw [toList_erase, listing.listed, List.filter_map]
    rfl
  ordered := listing.ordered.filter _
  mem_iff position other := by
    rw [List.mem_filter, listing.mem_iff, entered_concat_iff, Step.Discards, bne_iff_ne, ne_comm]
    simp

/-- One step more. -/
theorem concat (listing : Listing history owners entries) (step : Step) :
    ∃ entries, Listing (history ++ [step]) (owners.perform step).2 entries := by
  cases step with
  | add owner =>
    by_cases present : Present history owner.token
    · -- The owner that brought the token stays, and at its place.
      have same : (owners.perform (.add owner)).2 = owners :=
        insert_of_mem ((listing.present_iff _).2 present)
      rw [same]
      refine ⟨entries, listing.idle ?_ fun _ => False.elim⟩
      rintro _ rfl
      exact present
    · exact ⟨_, listing.insert_new present⟩
  | discard owner => exact ⟨_, listing.erase owner⟩
  | find candidate => exact ⟨entries, listing.idle (fun _ => False.elim) fun _ => False.elim⟩

end Listing

/-! ## Any steps -/

/-- What a set of owners is made from. -/
inductive Source where
  | list (added : List Owner)
  | text (raw : String)

namespace Source

/-- The owners that are added to the empty set at first. -/
def added : Source → List Owner
  | list added => added
  | text raw => (OwnerText.tokens raw).filterMap Owner.named?

def set : Source → OwnerSet
  | list added => ofList added
  | text raw => parse raw

theorem set_eq (source : Source) : source.set = ofList source.added := by
  cases source <;> rfl

end Source

/-- The set after some steps. -/
def performAll (owners : OwnerSet) (steps : List Step) : OwnerSet :=
  steps.foldl (fun owners step => (owners.perform step).2) owners

theorem performAll_append (owners : OwnerSet) (steps more : List Step) :
    owners.performAll (steps ++ more) = (owners.performAll steps).performAll more :=
  List.foldl_append

theorem performAll_add (owners : OwnerSet) (added : List Owner) :
    owners.performAll (added.map .add) = added.foldl insert owners := by
  rw [performAll, List.foldl_map]
  rfl

theorem exists_listing (steps : List Step) :
    ∃ entries, Listing steps (empty.performAll steps) entries := by
  -- From the end, since what a step does depends on the history before it.
  induction steps using List.reverseRecOn with
  | nil => exact ⟨[], listing_nil⟩
  | append_singleton earlier last inductionHypothesis =>
    obtain ⟨entries, listing⟩ := inductionHypothesis
    rw [performAll_append]
    exact listing.concat last

/-- Whether a step is answered with yes after a history. -/
def Step.Succeeds (history : List Step) : Step → Prop
  | add owner => ¬ Present history owner.token
  | discard owner => Present history owner.token
  | find (.owner owner) => Present history owner.token
  | find (.text _) => False

theorem Listing.succeeds_iff (listing : Listing history owners entries) (step : Step) :
    (owners.perform step).1 = true ↔ step.Succeeds history := by
  have contained (owner : Owner) : owners.contains owner = true ↔ Present history owner.token :=
    contains_iff.trans (listing.present_iff owner.token)
  cases step with
  | add owner =>
    rw [perform, add, Bool.not_eq_true', Step.Succeeds, ← contained, Bool.not_eq_true]
  | discard owner => exact contained owner
  | find candidate =>
    cases candidate with
    | owner owner => exact contained owner
    | text token => exact Bool.false_eq_true.to_iff

/-- A set is what its history says. -/
structure Reflects (history : List Step) (owners : OwnerSet) : Prop where
  /-- No two owners have one token. -/
  tokens_nodup : (owners.toList.map Owner.token).Nodup
  /-- The owners are listed in the order of the steps from which on they stand in the set. -/
  listing : ∃ entries, Listing history owners entries
  /-- What any next step is answered. -/
  answered : ∀ step, (owners.perform step).1 = true ↔ step.Succeeds history
  encode_eq : owners.encode = String.intercalate "," (owners.toList.map Owner.token)
  size_eq : owners.size = owners.toList.length

/-- Let a set be made from any owners or from any text, and let any steps follow. Its history begins
with the owners that it was made from. Then it lists the owners that its history leaves there, in the
order of the steps that put them there, and answers the next step by this. -/
theorem reflects_history (source : Source) (steps : List Step) :
    Reflects (source.added.map .add ++ steps) (source.set.performAll steps) := by
  have whole : source.set.performAll steps = empty.performAll (source.added.map .add ++ steps) := by
    rw [performAll_append, performAll_add, source.set_eq, ofList]
  obtain ⟨entries, listing⟩ := exists_listing (source.added.map .add ++ steps)
  rw [whole]
  exact
    { tokens_nodup := OwnerSet.tokens_nodup _
      listing := ⟨entries, listing⟩
      answered := listing.succeeds_iff
      encode_eq := rfl
      size_eq := rfl }

-- Two owners share a token: discarding one takes out the other, and the token comes back at the end.
example : ((Source.list [⟨"team/web", "api"⟩, ⟨"team", "cart"⟩]).set.performAll
    [.add ⟨"team", "web/api"⟩, .discard ⟨"team", "web/api"⟩, .add ⟨"team", "web/api"⟩]).toList =
      [⟨"team", "cart"⟩, ⟨"team", "web/api"⟩] := by
  decide +kernel

end OwnerSet

end RouteOverrides
