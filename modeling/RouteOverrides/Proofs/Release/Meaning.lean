import RouteOverrides.Proofs.Handler.Concurrent
import RouteOverrides.Proofs.Handler.Subscription
import RouteOverrides.Proofs.Release.Visit

/-! # The meaning of a release

In calm surroundings, what a release returns and what it leaves in the store are functions of the store
that it started with.

* `Release.Meaning` — the outcome of a release and the store after it, field by field.
* `Release.run_perform`, `Release.meaning_storeAfterAll` — a release has this meaning.
* `Release.unlisted_storeAfterAll` — a second one has nothing left to do.
* `Release.emptying_storeAfterAll` — after a pass that found none of its overrides, the release empties
  those that the pass created.
-/

namespace RouteOverrides.Release

open Program MemoryStore

variable {release : Release} {store final : MemoryStore} {hosts : List String}
  {outcome : Except Failure (List String)} {handler : Handler} {host : String}

/-- What a release returns and what it leaves in the store, told from the store before. -/
structure Meaning (release : Release) (store : MemoryStore)
    (outcome : Except Failure (List String)) (final : MemoryStore) : Prop where
  /-- The release returns the names of the overrides that listed nobody but the owner, in the order in
  which their hosts come first. -/
  names : outcome = .ok ((release.emptying store release.hosts).map release.nameFor)
  names_nodup : ((release.emptying store release.hosts).map release.nameFor).Nodup
  /-- No object comes or goes or is moved. -/
  places : final.objects.map (·.key) = store.objects.map (·.key)
  /-- An override that listed the owner lists the others, in their order. Nothing else of it changes,
  but it carries the number of its write: each is written once, in the order in which the hosts come
  first. -/
  taken_off : ∀ index host before, (release.listing store release.hosts)[index]? = some host →
    store.find? release.ns (release.nameFor host) = some before →
    ∃ after, final.find? release.ns (release.nameFor host) = some after ∧
      before.SameBesideOwners release.key after ∧
      (after.owners release.key).toList = (before.owners release.key).toList.erase release.owner ∧
      after.revision = some (toString (store.writes + index + 1))
  /-- All other objects are as they were. -/
  others : ∀ ns name, (∀ host ∈ release.listing store release.hosts,
    (release.ns, release.nameFor host) ≠ (ns, name)) → final.find? ns name = store.find? ns name
  writes : final.writes = store.writes + (release.listing store release.hosts).length

/-! ## One release -/

theorem lists_of_empties (emptied : release.empties store host = true) :
    release.lists store host = true := by
  obtain ⟨object, found, alone⟩ := empties_iff.1 emptied
  exact lists_iff.2 ⟨object, found, alone ▸ List.mem_singleton.2 rfl⟩

theorem nodup_emptying (release : Release) (store : MemoryStore) (hosts : List String) :
    (release.emptying store hosts).Nodup := by
  induction hosts generalizing store with
  | nil => exact List.nodup_nil
  | cons host rest inductionHypothesis =>
    rw [emptying_cons]
    refine List.nodup_append.2 ⟨by split <;> simp, inductionHypothesis _, ?_⟩
    rintro first member _ later rfl
    obtain rfl : first = host := by
      split at member
      · exact List.mem_singleton.1 member
      · cases member
    -- What the first release emptied is not emptied again.
    have again := (List.mem_filter.1 (List.mem_eraseDups.1 later)).2
    rw [empties_storeAfter, bne_self_eq_false, Bool.and_false] at again
    cases again

theorem of_visitedAll_calm (visited : release.VisitedAll true store hosts outcome final) :
    outcome = .ok ((release.emptying store hosts).map release.nameFor) ∧
      final = release.storeAfterAll store hosts := by
  cases outcome with
  | error failure => exact nomatch visited.1
  | ok names =>
    obtain ⟨rfl, written⟩ := visited
    exact ⟨congrArg Except.ok (namesAfter_eq release store hosts), written⟩

theorem run_perform (release : Release) (store : MemoryStore) (journal : Journal)
    (statuses : StatusTable) (listens : Bool) :
    ∃ journal' statuses',
      (Surroundings.quiet store journal statuses).runProgram listens release.perform.run =
        (.ok ((release.emptying store release.hosts).map release.nameFor),
          Surroundings.quiet (release.storeAfterAll store release.hosts) journal' statuses') := by
  obtain ⟨_, journal', statuses', ends, visited⟩ := Surroundings.runProgram_quiet
    (release.keeps_forHosts store release.hosts) journal statuses listens
  obtain ⟨names, rfl⟩ := of_visitedAll_calm visited
  exact ⟨journal', statuses', Prod.ext names ends⟩

theorem meaning_storeAfterAll (release : Release) (store : MemoryStore) :
    release.Meaning store (.ok ((release.emptying store release.hosts).map release.nameFor))
      (release.storeAfterAll store release.hosts) := by
  refine ⟨rfl, (nodup_emptying release store release.hosts).map fun _ _ => nameFor_inj.1,
    keys_storeAfterAll release store release.hosts, ?_,
    fun _ _ => find?_storeAfterAll_of_apart, writes_storeAfterAll release store release.hosts⟩
  intro index host before listed found
  obtain ⟨object, foundListed, member⟩ :=
    lists_iff.1 (lists_of_mem_listing (List.mem_of_getElem? listed))
  obtain rfl : object = before := Option.some.inj (foundListed.symm.trans found)
  exact ⟨_, find?_storeAfterAll listed found, RoutingObject.sameBesideOwners_withOwners
    (RoutingObject.mem_keys_of_mem_owners member) _ _, toList_owners_withoutOwner release object,
    rfl⟩

/-! ## A second release -/

theorem storeAfterAll_of_unlisted (unlisted : ∀ host ∈ hosts, release.lists store host = false) :
    release.storeAfterAll store hosts = store := by
  induction hosts with
  | nil => rfl
  | cons host rest inductionHypothesis =>
    have kept : release.storeAfter store host = store := by
      obtain ⟨kept, -⟩ | ⟨object, -, found, listed⟩ := storeAfter_cases release store host
      · exact kept
      · cases (unlisted host List.mem_cons_self).symm.trans (lists_iff.2 ⟨object, found, listed⟩)
    have next : release.storeAfterAll store (host :: rest) =
        release.storeAfterAll (release.storeAfter store host) rest := rfl
    rw [next, kept]
    exact inductionHypothesis fun other member => unlisted other (List.mem_cons_of_mem _ member)

theorem emptying_of_unlisted (unlisted : ∀ host ∈ hosts, release.lists store host = false) :
    release.emptying store hosts = [] := by
  have nothing : hosts.filter (release.empties store) = [] := by
    refine List.filter_eq_nil_iff.2 fun host member emptied => ?_
    cases (unlisted host member).symm.trans (lists_of_empties emptied)
  rw [emptying, nothing, List.eraseDups_nil]

theorem unlisted_storeAfterAll (release : Release) (store : MemoryStore) (hosts : List String) :
    ∀ host ∈ hosts, release.lists (release.storeAfterAll store hosts) host = false := by
  intro host member
  rw [lists_storeAfterAll, List.contains_iff_mem.2 member, Bool.not_true, Bool.and_false]

/-! ## A release after a pass -/

theorem empties_storeAfterAll (wellFormed : handler.owner.WellFormed) (member : host ∈ hosts)
    (missing : handler.holds store host = false) :
    handler.toRelease.empties (handler.storeAfterAll store hosts) host =
      handler.deploys store host := by
  rw [Handler.deploys, missing, Bool.not_false, Bool.true_and, Handler.available_of_missing missing]
  cases located : handler.baseline? store host with
  | some baseline =>
    obtain ⟨revision, created⟩ :=
      Handler.find?_storeAfterAll_of_created member missing located
    exact (passes_of_find? created).trans
      (decide_eq_true (Handler.toList_owners_overrideFrom wellFormed revision))
  | none =>
    have unavailable : handler.available (handler.storeAfterAll store hosts) host = false := by
      rw [Handler.available_storeAfterAll, Handler.available_of_missing missing, located,
        Option.isSome_none]
    rw [Handler.available, Bool.or_eq_false_iff] at unavailable
    exact passes_of_vacant (Handler.holds_eq_false_iff.1 unavailable.1)

theorem emptying_storeAfterAll (wellFormed : handler.owner.WellFormed)
    (missing : ∀ host ∈ hosts, handler.holds store host = false) :
    handler.toRelease.emptying (handler.storeAfterAll store hosts) hosts =
      handler.toCreate store hosts :=
  congrArg List.eraseDups <| List.filter_congr fun host member =>
    empties_storeAfterAll wellFormed member (missing host member)

end RouteOverrides.Release

namespace RouteOverrides

open Program MemoryStore

/-- A release in quiet surroundings, with any objects in the store, ends as its meaning says, and the
same release once more returns no names and leaves the store as it is. And if a handler with a
well-formed owner found none of its overrides, then the release right after its pass returns the names
of exactly the objects that the pass added, however the pass ended. -/
theorem Release.meaning_perform (store : MemoryStore) (journal : Journal) (statuses : StatusTable)
    (listens : Bool) :
    (∀ release : Release,
      let once := (Surroundings.quiet store journal statuses).runProgram listens release.perform.run
      let again := once.2.runProgram listens release.perform.run
      ∃ final, once.2.store? = some final ∧ release.Meaning store once.1 final ∧
        again.1 = .ok [] ∧ again.2.store? = some final) ∧
    (∀ (handler : Handler) (tracker : Tracker), handler.owner.WellFormed →
      (∀ host ∈ handler.hosts, handler.holds store host = false) →
      let handled := (Surroundings.quiet store journal statuses).runProgram listens
        (handler.handle.outcome tracker)
      let released := handled.2.runProgram listens handler.release.run
      ∃ middle made, handled.2.store? = some middle ∧ middle.objects = store.objects ++ made ∧
        released.1 = .ok (made.map (·.name))) := by
  constructor
  · intro release once again
    obtain ⟨journal', statuses', ran⟩ := release.run_perform store journal statuses listens
    -- The second release starts where the first one ended, and nothing lists the owner there.
    have unlisted := release.unlisted_storeAfterAll store release.hosts
    obtain ⟨_, _, ranAgain⟩ := release.run_perform (release.storeAfterAll store release.hosts)
      journal' statuses' listens
    rw [Release.emptying_of_unlisted unlisted, Release.storeAfterAll_of_unlisted unlisted] at ranAgain
    refine ⟨release.storeAfterAll store release.hosts, ?_⟩
    simp only [once, again, ran, ranAgain]
    exact ⟨rfl, release.meaning_storeAfterAll store, rfl, rfl⟩
  · intro handler tracker wellFormed missing handled released
    obtain ⟨middle, journal', statuses', ends, passed⟩ := Surroundings.runProgram_quiet
      (handler.keeps_handle store tracker) journal statuses listens
    obtain ⟨-, rfl⟩ := Handler.undisturbed_of_handled passed
    obtain ⟨_, _, ran⟩ := handler.toRelease.run_perform
      (handler.storeAfterAll store handler.hosts) journal' statuses' listens
    refine ⟨_, Handler.numbered store.writes (handler.created store handler.hosts),
      congrArg Surroundings.store? ends, ?_, ?_⟩
    · rw [Handler.storeAfterAll_eq]
    · simp only [released, handled, ends]
      rw [Handler.map_name_numbered, Handler.map_name_created]
      refine (congrArg Prod.fst ran).trans ?_
      exact congrArg (fun hosts => Except.ok (hosts.map handler.nameFor))
        (Release.emptying_storeAfterAll wellFormed missing)

/-- A handler whose overrides are not in the store yet. -/
theorem Release.meaning_perform_after_handle :
    (∀ host ∈ Handler.ofShop.hosts, Handler.ofShop.holds Handler.shopStore host = false) ∧
    let handled := (Surroundings.quiet Handler.shopStore .empty .empty).runProgram true
      (Handler.ofShop.handle.outcome .empty)
    let released := handled.2.runProgram true Handler.ofShop.release.run
    ∃ middle made, handled.2.store? = some middle ∧
      middle.objects = Handler.shopStore.objects ++ made ∧ released.1 = .ok (made.map (·.name)) := by
  have missing : ∀ host ∈ Handler.ofShop.hosts,
      Handler.ofShop.holds Handler.shopStore host = false := by
    decide
  exact ⟨missing, (Release.meaning_perform Handler.shopStore .empty .empty true).2 Handler.ofShop
    .empty Handler.wellFormed_ofTeam_web missing⟩

end RouteOverrides
