import RouteOverrides.Proofs.Handler.Deployment
import RouteOverrides.Proofs.Release.Retry
import RouteOverrides.Proofs.Store.History

/-! # What a release does to the store

When nobody else writes, the store decides what a release makes of a host: its override lists the owner
and is written back without it, or nothing happens. The name of the override is answered if the owner was
the only one. An override that was written back lists the owner no more, so a host that comes again is
passed over.

* `Release.lists`, `Release.empties` — whether the override of a host lists the owner, and nobody else.
* `Release.keeps_one`, `Release.keeps_forHosts`, `Release.exists_seen` — a release does this, or is
  disturbed and has seen to the first hosts only.
* `Release.listing`, `Release.emptying` — the hosts whose overrides are written, and those that are
  answered.
* `Release.namesAfter_eq`, `Release.find?_storeAfterAll`, `Release.find?_storeAfterAll_of_apart` — the
  answer and the store, told from the store before.
-/

namespace RouteOverrides.Release

open Program MemoryStore

/-! ## What becomes of a host -/

def nameFor (release : Release) (host : String) : String := overrideName release.uniqueName host

/-- Whether the override of a host is in the store and passes a test. -/
def passes (release : Release) (test : RoutingObject → Bool) (store : MemoryStore)
    (host : String) : Bool :=
  (store.find? release.ns (release.nameFor host)).any test

/-- Whether the override of a host lists the owner. -/
def lists (release : Release) : MemoryStore → String → Bool :=
  release.passes fun object => release.owner ∈ (object.owners release.key).toList

/-- Whether the override of a host lists the owner and nobody else. -/
def empties (release : Release) : MemoryStore → String → Bool :=
  release.passes fun object => (object.owners release.key).toList = [release.owner]

/-- The store after the release of one host. -/
def storeAfter (release : Release) (store : MemoryStore) (host : String) : MemoryStore :=
  match store.find? release.ns (release.nameFor host) with
  | some object =>
    if release.owner ∈ (object.owners release.key).toList then store.put (release.withoutOwner object)
    else store
  | none => store

variable {release : Release} {store : MemoryStore} {host other : String} {hosts : List String}
  {object : RoutingObject} {calm : Bool}

theorem nameFor_inj : release.nameFor host = release.nameFor other ↔ host = other :=
  String.append_right_inj _

theorem passes_of_find? {test : RoutingObject → Bool}
    (found : store.find? release.ns (release.nameFor host) = some object) :
    release.passes test store host = test object := by
  rw [passes, found, Option.any_some]

theorem passes_of_vacant {test : RoutingObject → Bool}
    (vacant : store.find? release.ns (release.nameFor host) = none) :
    release.passes test store host = false := by
  rw [passes, vacant, Option.any_none]

theorem lists_iff : release.lists store host = true ↔
    ∃ object, store.find? release.ns (release.nameFor host) = some object ∧
      release.owner ∈ (object.owners release.key).toList := by
  rw [lists, passes, Option.any_eq_true]
  exact exists_congr fun object => and_congr_right fun _ => decide_eq_true_iff

theorem empties_iff : release.empties store host = true ↔
    ∃ object, store.find? release.ns (release.nameFor host) = some object ∧
      (object.owners release.key).toList = [release.owner] := by
  rw [empties, passes, Option.any_eq_true]
  exact exists_congr fun object => and_congr_right fun _ => decide_eq_true_iff

theorem storeAfter_of_listed (found : store.find? release.ns (release.nameFor host) = some object)
    (listed : release.owner ∈ (object.owners release.key).toList) :
    release.storeAfter store host = store.put (release.withoutOwner object) := by
  rw [storeAfter, found]
  exact if_pos listed

/-- The release of a host leaves the store alone, or the override lists the owner and is written back
without it. -/
theorem storeAfter_cases (release : Release) (store : MemoryStore) (host : String) :
    release.storeAfter store host = store ∧ release.lists store host = false ∨
    ∃ object, release.storeAfter store host = store.put (release.withoutOwner object) ∧
      store.find? release.ns (release.nameFor host) = some object ∧
      release.owner ∈ (object.owners release.key).toList := by
  cases found : store.find? release.ns (release.nameFor host) with
  | none => exact .inl ⟨by rw [storeAfter, found], passes_of_vacant found⟩
  | some object =>
    by_cases listed : release.owner ∈ (object.owners release.key).toList
    · exact .inr ⟨object, storeAfter_of_listed found listed, rfl, listed⟩
    · refine .inl ⟨?_, (passes_of_find? found).trans (decide_eq_false listed)⟩
      rw [storeAfter, found]
      exact if_neg listed

theorem not_mem_owners_stamp_withoutOwner (release : Release) (store : MemoryStore)
    (object : RoutingObject) :
    release.owner ∉ ((store.stamp (release.withoutOwner object)).owners release.key).toList := by
  have distinct : (object.owners release.key).toList.Nodup :=
    List.Nodup.of_map _ (object.owners release.key).tokens_nodup
  rw [toList_owners_stamp_withoutOwner]
  exact distinct.not_mem_erase

/-! ## Visits -/

/-- How the release of one host ends: as the store decides, or disturbed, and then the override may
have been written or not. -/
def Visited (release : Release) (calm : Bool) (store : MemoryStore) (host : String) :
    Except Failure Bool → MemoryStore → Prop
  | .ok emptied, final =>
    emptied = release.empties store host ∧ final = release.storeAfter store host
  | .error _, final => calm = false ∧ (final = store ∨ final = release.storeAfter store host)

theorem keeps_writeBack_exact {left : Nat}
    (found : store.find? release.ns (release.nameFor host) = some object)
    (listed : release.owner ∈ (object.owners release.key).toList) :
    Keeps (exact calm) (fun _ _ => True) (release.Visited calm store host)
      (release.writeBack host (release.nameFor host) left object).run store := by
  have written := storeAfter_of_listed found listed
  have foundHere : store.find? object.ns object.name = some object := by
    obtain ⟨sameNs, sameName⟩ := Prod.mk.inj (key_of_find? found)
    rw [sameNs, sameName, found]
  have emptied : ((release.withoutOwner object).owners release.key).toList.isEmpty =
      release.empties store host := by
    rw [empties, passes_of_find? found, toList_owners_withoutOwner, Bool.eq_iff_iff,
      List.isEmpty_iff, List.erase_eq_nil_iff, decide_eq_true_iff]
    exact or_iff_right (List.ne_nil_of_mem listed)
  refine keeps_writeBack.2 ⟨trivial, fun after ⟨quiet, same⟩ => ?_, fun ready ⟨_, same⟩ =>
    ⟨trivial, ?_⟩⟩
  · refine ⟨Bool.eq_false_iff.2 fun isCalm => ?_, .inl same⟩
    cases quiet isCalm
  · cases same
    rintro _ _ ⟨rfl, rfl⟩
    have answered : store.answer (.update (release.withoutOwner object)) =
        (.ok (), store.put (release.withoutOwner object)) :=
      -- Nobody has written since the object was read, so there is no conflict.
      update_eq_put foundHere (.inr rfl)
    rw [answered, ← written]
    refine ⟨trivial, fun logged final ⟨works, same⟩ => ?_⟩
    cases same
    cases logged with
    | ok _ => exact ⟨emptied, rfl⟩
    | error failure =>
      refine ⟨Bool.eq_false_iff.2 fun isCalm => ?_, .inr rfl⟩
      cases works isCalm

theorem keeps_one (release : Release) (store : MemoryStore) (host : String) (left : Nat) :
    Keeps (exact calm) (fun _ _ => True) (release.Visited calm store host)
      (release.one host (release.nameFor host) (left + 1)).run store := by
  refine keeps_one_succ.2 ⟨trivial, fun after ⟨quiet, same⟩ => ?_, fun ready ⟨_, same⟩ =>
    ⟨trivial, ?_⟩⟩
  · refine ⟨Bool.eq_false_iff.2 fun isCalm => ?_, .inl same⟩
    cases quiet isCalm
  · cases same
    rintro _ _ ⟨rfl, rfl⟩
    rw [answer_get_snd, answer]
    cases found : store.find? release.ns (release.nameFor host) with
    | none => exact ⟨(passes_of_vacant found).symm, by rw [storeAfter, found]⟩
    | some object =>
      dsimp only [AfterRead]
      split
      · rename_i listed
        exact keeps_writeBack_exact found listed
      · rename_i unlisted
        refine ⟨?_, ?_⟩
        · rw [empties, passes_of_find? found, eq_comm, decide_eq_false_iff_not]
          exact fun alone => unlisted (alone ▸ List.mem_singleton.2 rfl)
        · rw [storeAfter, found]
          exact (if_neg unlisted).symm

def storeAfterAll (release : Release) (store : MemoryStore) (hosts : List String) : MemoryStore :=
  hosts.foldl release.storeAfter store

/-- The names that a release answers. -/
def namesAfter (release : Release) : MemoryStore → List String → List String
  | _, [] => []
  | store, host :: rest =>
    (if release.empties store host then [release.nameFor host] else []) ++
      namesAfter release (release.storeAfter store host) rest

/-- How the release of some hosts ends. If it was disturbed, it has seen to the first of them. -/
def VisitedAll (release : Release) (calm : Bool) (store : MemoryStore) (hosts : List String) :
    Except Failure (List String) → MemoryStore → Prop
  | .ok names, final =>
    names = release.namesAfter store hosts ∧ final = release.storeAfterAll store hosts
  | .error _, final =>
    calm = false ∧ ∃ seen, seen <+: hosts ∧ final = release.storeAfterAll store seen

theorem keeps_forHosts (release : Release) (store : MemoryStore) (hosts : List String) :
    Keeps (exact calm) (fun _ _ => True) (release.VisitedAll calm store hosts)
      (release.forHosts hosts).run store := by
  -- On the hosts, for any store: the rest is released from the store that the first host leaves.
  induction hosts generalizing store with
  | nil => exact ⟨rfl, rfl⟩
  | cons host rest inductionHypothesis =>
    rw [keeps_forHosts_cons]
    refine (keeps_one release store host 4).mono fun result middle visited => ?_
    cases result with
    | error failure =>
      obtain ⟨disturbed, same | written⟩ := visited
      · exact ⟨disturbed, [], List.nil_prefix, same⟩
      · exact ⟨disturbed, [host], List.prefix_append [host] rest, written⟩
    | ok emptied =>
      obtain ⟨rfl, rfl⟩ := visited
      refine keeps_run_bind.2 ((inductionHypothesis _).mono fun result final visited => ?_)
      cases result with
      | error failure =>
        obtain ⟨disturbed, seen, first, written⟩ := visited
        exact ⟨disturbed, host :: seen, List.cons_prefix_cons.2 ⟨rfl, first⟩, written⟩
      | ok names =>
        obtain ⟨rfl, rfl⟩ := visited
        refine ⟨?_, rfl⟩
        rw [namesAfter]
        split <;> rfl

theorem exists_seen {result : Except Failure (List String)} {final : MemoryStore}
    (visited : release.VisitedAll calm store hosts result final) :
    ∃ seen, seen <+: hosts ∧ final = release.storeAfterAll store seen := by
  cases result with
  | ok names => exact ⟨hosts, List.prefix_refl hosts, visited.2⟩
  | error failure => exact visited.2

/-! ## Released once -/

/-- A test that only overrides that list the owner pass: after the release of a host, its override
passes no more, and the others do as before. -/
theorem passes_storeAfter {test : RoutingObject → Bool}
    (needs : ∀ object, test object = true → release.owner ∈ (object.owners release.key).toList)
    (store : MemoryStore) (host other : String) :
    release.passes test (release.storeAfter store host) other =
      (release.passes test store other && other != host) := by
  by_cases same : other = host
  · subst same
    rw [bne_self_eq_false, Bool.and_false, ← Bool.not_eq_true, passes, Option.any_eq_true]
    rintro ⟨object, found, passed⟩
    obtain ⟨kept, unlisted⟩ | ⟨before, written, foundBefore, -⟩ :=
      storeAfter_cases release store other
    · rw [kept] at found
      rw [lists, passes_of_find? found, decide_eq_false_iff_not] at unlisted
      exact unlisted (needs object passed)
    · rw [written, find?_put_withoutOwner foundBefore] at found
      cases found
      exact not_mem_owners_stamp_withoutOwner release store before (needs _ passed)
  · rw [bne_iff_ne.2 same, Bool.and_true]
    obtain ⟨kept, -⟩ | ⟨before, written, foundBefore, -⟩ := storeAfter_cases release store host
    · rw [kept]
    · rw [passes, passes, written,
        find?_put_withoutOwner_of_ne foundBefore fun sameName => same (nameFor_inj.1 sameName)]

theorem lists_storeAfter (release : Release) (store : MemoryStore) (host other : String) :
    release.lists (release.storeAfter store host) other =
      (release.lists store other && other != host) :=
  passes_storeAfter (fun _ => of_decide_eq_true) store host other

theorem empties_storeAfter (release : Release) (store : MemoryStore) (host other : String) :
    release.empties (release.storeAfter store host) other =
      (release.empties store other && other != host) :=
  passes_storeAfter
    (fun _ alone => (of_decide_eq_true alone) ▸ List.mem_singleton.2 rfl) store host other

theorem lists_storeAfterAll (release : Release) (store : MemoryStore) (hosts : List String)
    (other : String) :
    release.lists (release.storeAfterAll store hosts) other =
      (release.lists store other && !hosts.contains other) := by
  induction hosts generalizing store with
  | nil => exact (Bool.and_true _).symm
  | cons host rest inductionHypothesis =>
    have next : release.storeAfterAll store (host :: rest) =
        release.storeAfterAll (release.storeAfter store host) rest := rfl
    rw [next, inductionHypothesis, lists_storeAfter, List.contains_cons, Bool.not_or,
      Bool.and_assoc]
    rfl

/-! ## The answer and the store, told from the store before -/

/-- The hosts whose overrides list the owner, each once and in the order in which they come first. -/
def listing (release : Release) (store : MemoryStore) (hosts : List String) : List String :=
  (hosts.filter (release.lists store)).eraseDups

/-- The hosts whose overrides list nobody but the owner, each once and in that order. -/
def emptying (release : Release) (store : MemoryStore) (hosts : List String) : List String :=
  (hosts.filter (release.empties store)).eraseDups

theorem listing_cons (release : Release) (store : MemoryStore) (host : String)
    (hosts : List String) :
    release.listing store (host :: hosts) = (if release.lists store host then [host] else []) ++
      release.listing (release.storeAfter store host) hosts :=
  eraseDups_filter_cons (lists_storeAfter release store host) hosts

theorem emptying_cons (release : Release) (store : MemoryStore) (host : String)
    (hosts : List String) :
    release.emptying store (host :: hosts) = (if release.empties store host then [host] else []) ++
      release.emptying (release.storeAfter store host) hosts :=
  eraseDups_filter_cons (empties_storeAfter release store host) hosts

theorem namesAfter_eq (release : Release) (store : MemoryStore) (hosts : List String) :
    release.namesAfter store hosts = (release.emptying store hosts).map release.nameFor := by
  induction hosts generalizing store with
  | nil => rfl
  | cons host rest inductionHypothesis =>
    rw [namesAfter, inductionHypothesis, emptying_cons, List.map_append]
    split <;> rfl

theorem lists_of_mem_listing (member : host ∈ release.listing store hosts) :
    release.lists store host = true :=
  (List.mem_filter.1 (List.mem_eraseDups.1 member)).2

theorem mem_of_mem_listing (member : host ∈ release.listing store hosts) : host ∈ hosts :=
  (List.mem_filter.1 (List.mem_eraseDups.1 member)).1

theorem keys_storeAfterAll (release : Release) (store : MemoryStore) (hosts : List String) :
    (release.storeAfterAll store hosts).objects.map (·.key) = store.objects.map (·.key) := by
  induction hosts generalizing store with
  | nil => rfl
  | cons host rest inductionHypothesis =>
    refine (inductionHypothesis (release.storeAfter store host)).trans ?_
    obtain ⟨kept, -⟩ | ⟨object, written, found, -⟩ := storeAfter_cases release store host
    · rw [kept]
    · have known : object.key ∈ store.objects.map (·.key) :=
        List.mem_map.2 ⟨object, List.mem_of_find?_eq_some found, rfl⟩
      rw [written, keys_put]
      exact if_pos known

theorem writes_storeAfterAll (release : Release) (store : MemoryStore) (hosts : List String) :
    (release.storeAfterAll store hosts).writes =
      store.writes + (release.listing store hosts).length := by
  induction hosts generalizing store with
  | nil => rfl
  | cons host rest inductionHypothesis =>
    refine (inductionHypothesis (release.storeAfter store host)).trans ?_
    rw [listing_cons, List.length_append]
    obtain ⟨kept, unlisted⟩ | ⟨object, written, found, listed⟩ := storeAfter_cases release store host
    · rw [kept, unlisted]
      simp
    · have writes : (release.storeAfter store host).writes = store.writes + 1 := by rw [written]; rfl
      rw [writes, lists_iff.2 ⟨object, found, listed⟩, if_pos rfl, List.length_singleton,
        Nat.add_assoc]

/-- Places other than those of overrides that list the owner stay as they are. -/
theorem find?_storeAfterAll_of_apart {ns name : String}
    (apart : ∀ host ∈ release.listing store hosts, (release.ns, release.nameFor host) ≠ (ns, name)) :
    (release.storeAfterAll store hosts).find? ns name = store.find? ns name := by
  induction hosts generalizing store with
  | nil => rfl
  | cons host rest inductionHypothesis =>
    rw [listing_cons] at apart
    have later := inductionHypothesis fun other member => apart other (List.mem_append_right _ member)
    refine later.trans ?_
    obtain ⟨kept, -⟩ | ⟨object, written, found, listed⟩ := storeAfter_cases release store host
    · rw [kept]
    · have elsewhere : object.key ≠ (ns, name) := by
        rw [key_of_find? found]
        refine apart host (List.mem_append_left _ ?_)
        rw [lists_iff.2 ⟨object, found, listed⟩, if_pos rfl, List.mem_singleton]
      rw [written]
      exact find?_put_of_ne store elsewhere

/-- The overrides that list the owner are written back without it, and their revisions count the
writes. -/
theorem find?_storeAfterAll {index : Nat} (listed : (release.listing store hosts)[index]? = some host)
    (found : store.find? release.ns (release.nameFor host) = some object) :
    (release.storeAfterAll store hosts).find? release.ns (release.nameFor host) =
      some { release.withoutOwner object with
        revision := some (toString (store.writes + index + 1)) } := by
  -- On the hosts, for any store and index: if the first host is written, the index of the others among
  -- what is left is lower by one, and the number of writes higher.
  induction hosts generalizing store index with
  | nil => cases listed
  | cons first rest inductionHypothesis =>
    have next : release.storeAfterAll store (first :: rest) =
        release.storeAfterAll (release.storeAfter store first) rest := rfl
    rw [listing_cons] at listed
    rw [next]
    obtain ⟨kept, unlisted⟩ | ⟨before, written, foundBefore, listedBefore⟩ :=
      storeAfter_cases release store first
    · rw [kept, unlisted] at listed
      rw [kept]
      exact inductionHypothesis listed found
    · have writes : (release.storeAfter store first).writes = store.writes + 1 := by rw [written]; rfl
      -- The first host is not listed any more, so the rest leaves its override alone.
      have apart : ∀ other ∈ release.listing (release.storeAfter store first) rest, other ≠ first := by
        intro other member
        have still := lists_of_mem_listing member
        rw [lists_storeAfter, Bool.and_eq_true] at still
        exact bne_iff_ne.1 still.2
      rw [lists_iff.2 ⟨before, foundBefore, listedBefore⟩, if_pos rfl] at listed
      cases index with
      | zero =>
        obtain rfl : first = host := Option.some.inj listed
        have stays : (release.storeAfterAll (release.storeAfter store first) rest).find? release.ns
            (release.nameFor first) =
              (release.storeAfter store first).find? release.ns (release.nameFor first) :=
          find?_storeAfterAll_of_apart fun other member same =>
            apart other member (nameFor_inj.1 (Prod.mk.inj same).2)
        obtain rfl : before = object := Option.some.inj (foundBefore.symm.trans found)
        rw [stays, written]
        exact find?_put_withoutOwner found
      | succ index =>
        have later : (release.listing (release.storeAfter store first) rest)[index]? = some host :=
          listed
        have different : host ≠ first := apart host (List.mem_of_getElem? later)
        have foundThen : (release.storeAfter store first).find? release.ns (release.nameFor host) =
            some object := by
          rw [written, find?_put_withoutOwner_of_ne foundBefore, found]
          exact fun sameName => different (nameFor_inj.1 sameName)
        rw [inductionHypothesis later foundThen, writes, Nat.add_right_comm store.writes,
          Nat.add_assoc store.writes]

end RouteOverrides.Release
