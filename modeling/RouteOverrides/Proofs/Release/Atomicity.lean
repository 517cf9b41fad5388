import RouteOverrides.Proofs.Release.Attempt
import RouteOverrides.Proofs.Store.Revision

/-! # Releases among other writers

Between two requests of a release, anyone may use the store. A write of the release goes through only
if the object has the revision that was read, and then the object is the one that was read: every
write takes the owner off the object as it stands, and loses nothing that others wrote.

* `MemoryStore.shared` — exact answers, and other calls in between.
* `Release.OwnerTakenOff` — what one write of a release does to the store.
* `Release.ownerTakenOff_of_update` — every write of a release does it, whatever others do.
-/

namespace RouteOverrides

open Program

/-- The store answers exactly, and after each request others make some calls to it. Whether the
program is told to stop, and what the database answers, is open. -/
def MemoryStore.shared : Rules MemoryStore
  | .store call, store, reply, later =>
    reply = (store.answer call).1 ∧ ∃ others, later = (store.answer call).2.after others
  | .log _, store, _, later => ∃ others, later = store.after others
  | .record _ _, store, _, later => ∃ others, later = store.after others
  | .report _, store, _, later => ∃ others, later = store.after others
  | .latest _, store, _, later => ∃ others, later = store.after others
  | .interrupted, store, _, later => ∃ others, later = store.after others

namespace MemoryStore

variable {store later : MemoryStore}

theorem grownFrom_of_shared {request : Request} {answer : request.Answer}
    (allowed : shared request store answer later) : GrownFrom store later := by
  cases request with
  | store call =>
    obtain ⟨-, others, rfl⟩ := allowed
    exact (GrownFrom.answer store call).trans (GrownFrom.after _ others)
  | log _ | record _ _ | report _ | latest _ | interrupted =>
    obtain ⟨others, rfl⟩ := allowed
    exact GrownFrom.after store others

end MemoryStore

namespace Release

open MemoryStore

variable {release : Release} {name : String} {store read : MemoryStore}
  {object : RoutingObject}

/-- Writing an object takes the owner off the object that stands in its place, and does nothing
else. -/
def OwnerTakenOff (release : Release) (object : RoutingObject) (store : MemoryStore) : Prop :=
  ∃ before after,
    store.find? object.ns object.name = some before ∧
    (store.answer (.update object)).2.find? object.ns object.name = some after ∧
    before.SameBesideOwners release.key after ∧
    release.owner ∈ (before.owners release.key).toList ∧
    (after.owners release.key).toList = (before.owners release.key).toList.erase release.owner ∧
    ∀ ns name, object.key ≠ (ns, name) →
      (store.answer (.update object)).2.find? ns name = store.find? ns name

/-- What a release promises of its requests: a write that goes through takes the owner off. -/
def writesBack (release : Release) : Request → MemoryStore → Prop
  | .store (.update object), store =>
    (store.answer (.update object)).1 = .ok () → release.OwnerTakenOff object store
  | .store (.create _), _ => False
  | _, _ => True

/-- If the object was read before and its revision is still the stored one, nobody wrote it. -/
theorem ownerTakenOff_of_read (filled : GrownFrom empty read) (grown : GrownFrom read store)
    (found : read.find? release.ns name = some object)
    (listed : release.owner ∈ (object.owners release.key).toList)
    (succeeded : (store.answer (.update (release.withoutOwner object))).1 = .ok ()) :
    release.OwnerTakenOff (release.withoutOwner object) store := by
  obtain ⟨sameNs, rfl⟩ : object.ns = release.ns ∧ object.name = name :=
    Prod.mk.inj (key_of_find? found)
  rw [← sameNs] at found
  obtain ⟨current, stored, upToDate, written⟩ := of_update_ok succeeded
  -- The object that is overwritten is the one that was read: a write in between would have given it
  -- another revision.
  have same : current = object := by
    refine filled.eq_of_revision_eq grown found stored ?_
    rcases upToDate with unknown | same
    · -- An update without a revision is not checked, but objects in a store always carry one.
      have numbered : object.revision ≠ none := by
        rcases filled.kept_or_newer _ _ _ found with none | ⟨n, -, -, numbered⟩
        · cases none
        · simp [numbered]
      exact absurd unknown numbered
    · exact same.symm
  subst same
  have answered : (store.answer (.update (release.withoutOwner current))).2 =
      store.put (release.withoutOwner current) := written
  refine ⟨current, store.stamp (release.withoutOwner current), stored, ?_,
    RoutingObject.sameBesideOwners_withOwners (RoutingObject.mem_keys_of_mem_owners listed) _ _,
    listed, toList_owners_withoutOwner release current,
    fun ns name elsewhere => ?_⟩
  · rw [answered]
    exact find?_put_self store _
  · rw [answered]
    exact find?_put_of_ne store elsewhere

/-! ## Along a release -/

theorem guarded_shared (release : Release) (hosts : List String) :
    Guarded shared release.writesBack (GrownFrom empty) release hosts where
  kept filled allowed := filled.trans (grownFrom_of_shared allowed)
  checks _ := trivial
  logs _ _ := trivial
  reads _ _ _ _ := trivial
  writes host _ state object read ready filled answered allowed listed := by
    have found := find?_of_answer_get answered.1.symm
    have grown := (grownFrom_of_shared answered).trans (grownFrom_of_shared allowed)
    exact ownerTakenOff_of_read filled grown found listed

theorem keeps_forHosts_shared (hosts : List String) (filled : GrownFrom empty store) :
    Keeps shared release.writesBack (fun _ final => GrownFrom empty final)
      (release.forHosts hosts).run store :=
  (release.guarded_shared hosts).keeps_forHosts filled

/-- Let a release run in a store that was filled in any way, while others use the store. Every write
of the release that goes through takes the owner off the object that stands in the store right then:
the other owners keep their order, and all else stays as it is. -/
theorem ownerTakenOff_of_update (release : Release) (objects : List RoutingObject)
    (earlier : List StoreCall) {next : Except Failure Unit → Program (Except Failure (List String))}
    (reached : Reaches shared release.perform.run ((MemoryStore.ofList objects).after earlier)
      (.ask (.store (.update object)) next) store)
    (succeeded : (store.answer (.update object)).1 = .ok ()) :
    release.OwnerTakenOff object store := by
  have filled : GrownFrom empty ((MemoryStore.ofList objects).after earlier) :=
    (GrownFrom.ofList objects).trans (GrownFrom.after _ earlier)
  exact (keeps_forHosts_shared release.hosts filled).promise_of_reaches reached succeeded

/-! ## A contended release

The release of one host's override. Another owner joins after the override was read, so the first
write is a conflict; the second one takes off the owner and keeps the other two. -/

def ofOneHost : Release := ⟨⟨"team", "web"⟩, "blue", "prod", ["cart"], "owners"⟩

def cartOverride (owners : String) (revision : Option String) : RoutingObject where
  name := "blue-cart"
  ns := "prod"
  labels := []
  annotations := [("owners", owners)]
  host := "cart"
  subsets := []
  revision := revision

def joined : RoutingObject := cartOverride "team/web,team/api,team/ops" (some "2")

theorem ownerTakenOff_of_contended_update : ∃ store object next,
    Reaches shared ofOneHost.perform.run
      ((MemoryStore.ofList [cartOverride "team/web,team/api" none]).after [])
      (.ask (.store (.update object)) next) store ∧
    (store.answer (.update object)).1 = .ok () ∧ ofOneHost.OwnerTakenOff object store := by
  have reached : Reaches shared ofOneHost.perform.run
      ((MemoryStore.ofList [cartOverride "team/web,team/api" none]).after [])
      (.ask (.store (.update (ofOneHost.withoutOwner joined))) _) ⟨[joined], 2⟩ :=
    .answered false ⟨[], rfl⟩ <|
    .answered (.ok (cartOverride "team/web,team/api" (some "1")))
      ⟨rfl, [.update (cartOverride "team/web,team/api,team/ops" none)], rfl⟩ <|
    .answered false ⟨[], rfl⟩ <|
    .answered (.error (.conflict "prod/blue-cart: have 1, store has 2")) ⟨rfl, [], rfl⟩ <|
    .answered (.ok ()) ⟨[], rfl⟩ <|
    .answered false ⟨[], rfl⟩ <|
    .answered (.ok joined) ⟨rfl, [], rfl⟩ <|
    .answered false ⟨[], rfl⟩ <| .here
  have succeeded :
      (MemoryStore.answer ⟨[joined], 2⟩ (.update (ofOneHost.withoutOwner joined))).1 = .ok () := rfl
  exact ⟨_, _, _, reached, succeeded, ownerTakenOff_of_update ofOneHost _ [] reached succeeded⟩

end Release

end RouteOverrides
