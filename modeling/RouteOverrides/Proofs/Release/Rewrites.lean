import Mathlib.Data.List.Forall2
import RouteOverrides.Proofs.Program.Confinement
import RouteOverrides.Proofs.Release.Visit

/-! # What a release may write

A release writes an object back as it was read, apart from the owners. The store replaces the whole object,
so this keeps everything else of it only because nobody else has written in between.

* `Release.Asks` — each update of a release carries an object that is in the store, less the owner.
* `Release.OnlyRewrites` — the objects of a store stay in their places, and only the owners of overrides
  change.
* `Release.onlyRewrites_of_reaches` — wherever a release stops, that is all it has done.
-/

namespace RouteOverrides

open Program

/-! ## Objects that keep their places -/

namespace RoutingObject.SameBesideOwners

variable {key : String} {first second third : RoutingObject}

theorem trans (before : SameBesideOwners key first second)
    (after : SameBesideOwners key second third) : SameBesideOwners key first third where
  same_fields := by
    refine after.same_fields.trans ?_
    rw [before.same_fields]
  same_keys := after.same_keys.trans before.same_keys
  same_values other different :=
    (after.same_values other different).trans (before.same_values other different)

theorem key_eq (same : SameBesideOwners key first second) : second.key = first.key := by
  rw [same.same_fields]
  rfl

end RoutingObject.SameBesideOwners

/-- A write to a place that is taken changes the object there and no other one. -/
theorem MemoryStore.forall₂_place_of_find? {related : RoutingObject → RoutingObject → Prop}
    {current : RoutingObject} (object : RoutingObject)
    (changed : ∀ before, related before current → related before object)
    {start objects : List RoutingObject} (all : List.Forall₂ related start objects)
    (found : objects.find? (isAt object.ns object.name) = some current) :
    List.Forall₂ related start (place object objects) := by
  induction all with
  | nil => cases found
  | @cons before other rest others head tail inductionHypothesis =>
    rw [place]
    split
    · rename_i same
      rw [List.find?_cons_of_pos (isAt_iff.2 same), Option.some.injEq] at found
      exact .cons (changed before (found ▸ head)) tail
    · rename_i different
      rw [List.find?_cons_of_neg fun isThere => different (isAt_iff.1 isThere)] at found
      exact .cons head (inductionHypothesis found)

/-! ## Calls that may fail -/

namespace MemoryStore

variable {late : Bool} {store later : MemoryStore}

theorem of_faulty_call {call : StoreCall} {reply : Except Failure call.Reply}
    (allowed : faulty late (.store call) store reply later) :
    later = store ∨ later = (store.answer call).2 := by
  rcases allowed with ⟨-, same⟩ | ⟨-, -, same | ⟨-, same⟩⟩
  · exact .inr same
  · exact .inl same
  · exact .inr same

theorem of_faulty_reads {request : Request} {answer : request.Answer} (reads : request.Reads)
    (allowed : faulty late request store answer later) : later = store := by
  cases request with
  | log _ | record _ _ => exact reads.elim
  | report _ | latest _ | interrupted => exact allowed
  | store call =>
    have unchanged : (store.answer call).2 = store := by
      cases call with
      | get ns name => exact answer_get_snd store ns name
      | list ns => rfl
      | create object | update object => exact reads.elim
    exact (of_faulty_call allowed).elim id (·.trans unchanged)

end MemoryStore

namespace Release

open MemoryStore

variable {release : Release} {late : Bool} {start store later : MemoryStore} {host : String}

/-- A release creates nothing. It updates an object only if the store has it under the name of one of the
hosts, listing the owner, and takes the owner off it. -/
def Asks (release : Release) : Request → MemoryStore → Prop
  | .store (.create _), _ => False
  | .store (.update object), store => ∃ host ∈ release.hosts, ∃ current,
      store.find? release.ns (release.nameFor host) = some current ∧
      release.owner ∈ (current.owners release.key).toList ∧ object = release.withoutOwner current
  | _, _ => True

theorem guarded_asks (release : Release) :
    Guarded (faulty late) release.Asks (fun _ => True) release release.hosts where
  kept _ _ := trivial
  checks _ := trivial
  logs _ _ := trivial
  reads _ _ _ _ := trivial
  writes host member state object read ready _ answered allowed listed := by
    -- The store is still as it was when the object was read.
    obtain ⟨same, found⟩ := of_faulty_get answered
    cases same
    cases allowed
    exact ⟨host, member, object, found object rfl, listed, rfl⟩

theorem keeps_perform_asks (release : Release) (store : MemoryStore) :
    Keeps (faulty late) release.Asks (fun _ _ => True) release.perform.run store :=
  release.guarded_asks.keeps_forHosts trivial

/-- An object is as it was, or it is an override of one of the hosts and differs in its owners and its
revision only. -/
def Rewrites (release : Release) (before after : RoutingObject) : Prop :=
  after = before ∨ (∃ host ∈ release.hosts, before.key = (release.ns, release.nameFor host)) ∧
    before.SameBesideOwners release.key after

/-- No object is added or removed or moved. Those of the overrides of the hosts may differ in their
owners and their revisions, and in nothing else. -/
def OnlyRewrites (release : Release) (start later : MemoryStore) : Prop :=
  List.Forall₂ release.Rewrites start.objects later.objects

theorem onlyRewrites_refl (release : Release) (store : MemoryStore) :
    release.OnlyRewrites store store :=
  List.forall₂_same.2 fun _ _ => .inl rfl

theorem OnlyRewrites.put {current : RoutingObject} (only : release.OnlyRewrites start store)
    (member : host ∈ release.hosts)
    (found : store.find? release.ns (release.nameFor host) = some current)
    (listed : release.owner ∈ (current.owners release.key).toList) :
    release.OnlyRewrites start (store.put (release.withoutOwner current)) := by
  have place : current.key = (release.ns, release.nameFor host) := key_of_find? found
  have rewritten : current.SameBesideOwners release.key
      (store.stamp (release.withoutOwner current)) :=
    RoutingObject.sameBesideOwners_withOwners (RoutingObject.mem_keys_of_mem_owners listed) _ _
  obtain ⟨sameNs, sameName⟩ := Prod.mk.inj place
  rw [← sameNs, ← sameName] at found
  refine forall₂_place_of_find? (store.stamp (release.withoutOwner current)) ?_ only found
  rintro before (rfl | ⟨isOverride, sameBefore⟩)
  · exact .inr ⟨⟨host, member, place⟩, rewritten⟩
  · exact .inr ⟨isOverride, sameBefore.trans rewritten⟩

theorem OnlyRewrites.answered {request : Request} {answer : request.Answer}
    (only : release.OnlyRewrites start store) (asks : release.Asks request store)
    (allowed : faulty late request store answer later) : release.OnlyRewrites start later := by
  cases request with
  | log _ | record _ _ | report _ | latest _ | interrupted =>
    cases allowed
    exact only
  | store call =>
    cases call with
    | get ns name => rwa [of_faulty_reads (Request.reads_get ns name) allowed]
    | list ns => rwa [of_faulty_reads (Request.reads_list ns) allowed]
    | create object => exact asks.elim
    | update object =>
      obtain ⟨host, member, current, found, listed, rfl⟩ := asks
      rcases of_faulty_update found allowed with ⟨-, rfl⟩ | ⟨-, -, rfl | ⟨-, rfl⟩⟩
      · exact only.put member found listed
      · exact only
      · exact only.put member found listed

theorem onlyRewrites_of_reaches {α : Type} {post : α → MemoryStore → Prop}
    {program left : Program α} (keeps : Keeps (faulty late) release.Asks post program start)
    (reached : Reaches (faulty late) program start left later) : release.OnlyRewrites start later :=
  keeps.holds_of_reaches
    (fun _ _ _ _ asks allowed only => only.answered asks allowed)
    (onlyRewrites_refl release start) reached

end Release

end RouteOverrides
