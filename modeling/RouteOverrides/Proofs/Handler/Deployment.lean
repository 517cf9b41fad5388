import RouteOverrides.Proofs.Handler.Visit
import RouteOverrides.Proofs.Repetition

/-! # What a pass deploys

The overrides that a pass creates are listed for the hosts that follow, and a created override may
even serve the default version. This never matters: a created override names the same service as its
baseline, so it attracts only hosts that have a baseline anyway. So what a pass makes of a store can
be told from the store that it started with.

* `Handler.baseline?_storeAfter`, `Handler.available_storeAfter` — a visit does not change what
  becomes of other hosts.
* `Handler.created` — the overrides that visits create, in order.
* `Handler.storeAfterAll_eq` — the store after visits.
* `Handler.active_trackerAfterAll`, `Handler.ignored_trackerAfterAll` — the tracker after visits.
-/

namespace RouteOverrides

namespace Tracker

variable {tracker : Tracker} {host : String}

theorem markIgnored_of_ignored (ignored : tracker.isIgnored host = true) :
    (tracker.markIgnored host).2 = tracker := by
  rw [markIgnored, if_pos ignored]

theorem ignored_markIgnored_of_new (new : tracker.isIgnored host = false) :
    (tracker.markIgnored host).2.ignored = tracker.ignored ++ [host] := by
  rw [markIgnored, if_neg (Bool.not_eq_true _ ▸ new)]

end Tracker

namespace Handler

open Program MemoryStore

variable {handler : Handler} {store : MemoryStore} {host other : String} {tracker : Tracker}
  {baseline : RoutingObject} {hosts : List String}

/-! ## One override more -/

theorem nameFor_inj : handler.nameFor host = handler.nameFor other ↔ host = other :=
  String.append_right_inj _

theorem holds_eq_false_iff :
    handler.holds store host = false ↔ store.find? handler.ns (handler.nameFor host) = none := by
  rw [holds, Option.isSome_eq_false_iff, Option.isNone_iff_eq_none]

/-- A visit leaves the store alone, or there was no override and it is created from the baseline. -/
theorem storeAfter_cases (handler : Handler) (store : MemoryStore) (host : String) :
    handler.storeAfter store host = store ∧
      (handler.holds store host = true ∨ handler.baseline? store host = none) ∨
    ∃ baseline, handler.storeAfter store host = store.put (handler.overrideFrom host baseline) ∧
      handler.holds store host = false ∧ handler.baseline? store host = some baseline := by
  cases held : handler.holds store host with
  | true => exact .inl ⟨storeAfter_of_holds held, .inl rfl⟩
  | false =>
    cases located : handler.baseline? store host with
    | none => exact .inl ⟨storeAfter_of_no_baseline located, .inr rfl⟩
    | some baseline => exact .inr ⟨baseline, storeAfter_of_baseline held located, rfl, rfl⟩

theorem objects_put_override (missing : handler.holds store host = false) :
    (store.put (handler.overrideFrom host baseline)).objects =
      store.objects ++ [store.stamp (handler.overrideFrom host baseline)] :=
  objects_put_of_find?_eq_none (holds_eq_false_iff.1 missing)

theorem inNamespace_put_override (missing : handler.holds store host = false) :
    (store.put (handler.overrideFrom host baseline)).inNamespace handler.ns =
      store.inNamespace handler.ns ++ [store.stamp (handler.overrideFrom host baseline)] := by
  have inside : [store.stamp (handler.overrideFrom host baseline)].filter
      (fun object => object.ns == handler.ns) = [store.stamp (handler.overrideFrom host baseline)] :=
    List.filter_cons_of_pos (beq_self_eq_true handler.ns)
  rw [inNamespace, objects_put_override missing, List.filter_append, inside, inNamespace]

theorem holds_put_override (missing : handler.holds store host = false) :
    handler.holds (store.put (handler.overrideFrom host baseline)) other =
      (handler.holds store other || other == host) := by
  rw [holds, holds]
  by_cases same : other = host
  · subst same
    have found : (store.put (handler.overrideFrom other baseline)).find? handler.ns
        (handler.nameFor other) = some (store.stamp (handler.overrideFrom other baseline)) :=
      find?_put_self store _
    rw [found, Option.isSome_some, beq_self_eq_true, Bool.or_true]
  · have elsewhere : (handler.overrideFrom host baseline).key ≠
        (handler.ns, handler.nameFor other) :=
      fun sameKey => same (nameFor_inj.1 (Prod.mk.inj sameKey).2.symm)
    rw [find?_put_of_ne store elsewhere, beq_eq_false_iff_ne.2 same, Bool.or_false]

/-- A created override is accepted only for hosts for which its baseline is accepted. -/
theorem accepts_baseline (located : handler.baseline? store host = some baseline)
    (accepted :
      handler.lookup.accepts other (store.stamp (handler.overrideFrom host baseline)) = true) :
    handler.lookup.accepts other baseline = true := by
  have member := List.mem_of_find?_eq_some located
  have inside : baseline.ns = handler.ns := eq_of_beq (List.mem_filter.1 member).2
  have serves := List.find?_some located
  rw [Lookup.accepts, Bool.and_eq_true] at accepted serves ⊢
  -- The override declares the host of its baseline, in the same namespace.
  refine ⟨?_, serves.2⟩
  rw [inside]
  exact accepted.1

/-- The overrides that were created are no new baselines. -/
theorem baseline?_storeAfter (handler : Handler) (store : MemoryStore) (host other : String) :
    handler.baseline? (handler.storeAfter store host) other = handler.baseline? store other := by
  obtain ⟨same, -⟩ | ⟨baseline, written, missing, located⟩ := storeAfter_cases handler store host
  · rw [same]
  · -- The override is listed last, so it could be found only where nothing else is.
    rw [written, baseline?, inNamespace_put_override missing, List.find?_append]
    cases known : (store.inNamespace handler.ns).find? (handler.lookup.accepts other) with
    | some found => rw [baseline?, known, Option.some_or]
    | none =>
      have refused : ¬ handler.lookup.accepts other
          (store.stamp (handler.overrideFrom host baseline)) = true := fun accepted =>
        List.find?_eq_none.1 known baseline (List.mem_of_find?_eq_some located)
          (accepts_baseline located accepted)
      rw [baseline?, known, Option.none_or, List.find?_cons_of_neg refused, List.find?_nil]

theorem available_storeAfter (handler : Handler) (store : MemoryStore) (host other : String) :
    handler.available (handler.storeAfter store host) other = handler.available store other := by
  rw [available_eq, available_eq, baseline?_storeAfter]
  obtain ⟨same, -⟩ | ⟨baseline, written, missing, located⟩ := storeAfter_cases handler store host
  · rw [same]
  · rw [written, holds_put_override missing]
    by_cases same : other = host
    · -- The host had a baseline before, and has an override now.
      subst same
      rw [located, Option.isSome_some, Bool.or_true, Bool.or_true]
    · rw [beq_eq_false_iff_ne.2 same, Bool.or_false]

theorem available_storeAfterAll (handler : Handler) (store : MemoryStore) (hosts : List String)
    (other : String) :
    handler.available (handler.storeAfterAll store hosts) other = handler.available store other := by
  induction hosts generalizing store with
  | nil => rfl
  | cons host rest inductionHypothesis =>
    exact (inductionHypothesis (handler.storeAfter store host)).trans
      (available_storeAfter handler store host other)

/-! ## The store after visits -/

/-- Whether a visit creates the override of a host: it is not in the store, and has a baseline. -/
def deploys (handler : Handler) (store : MemoryStore) (host : String) : Bool :=
  !handler.holds store host && handler.available store host

/-- The hosts whose overrides visits create, each once and in the order of their first visits. -/
def toCreate (handler : Handler) (store : MemoryStore) (hosts : List String) : List String :=
  (hosts.filter (handler.deploys store)).eraseDups

/-- The overrides that visits create, without their revisions. -/
def created (handler : Handler) (store : MemoryStore) (hosts : List String) : List RoutingObject :=
  (handler.toCreate store hosts).filterMap fun host =>
    (handler.baseline? store host).map (handler.overrideFrom host)

/-- Objects as they stand in a store that had been written to so often before them. -/
def numbered (writes : Nat) (objects : List RoutingObject) : List RoutingObject :=
  objects.mapIdx fun i object => { object with revision := some (toString (writes + i + 1)) }

theorem toCreate_cons_of_settled
    (settled : handler.holds store host = true ∨ handler.baseline? store host = none) :
    handler.toCreate store (host :: hosts) = handler.toCreate store hosts := by
  have skipped : ¬ handler.deploys store host = true := by
    rw [deploys, available_eq]
    rcases settled with held | missing
    · simp [held]
    · cases handler.holds store host <;> simp [missing]
  rw [toCreate, List.filter_cons_of_neg skipped, toCreate]

theorem toCreate_cons_of_created (missing : handler.holds store host = false)
    (located : handler.baseline? store host = some baseline) :
    handler.toCreate store (host :: hosts) =
      host :: handler.toCreate (handler.storeAfter store host) hosts := by
  have first : handler.deploys store host = true := by
    rw [deploys, available_of_missing missing, missing, located]
    rfl
  -- The store holds the override from now on, so later visits to the host create nothing.
  have once : ∀ other, handler.deploys (handler.storeAfter store host) other =
      (handler.deploys store other && other != host) := by
    intro other
    rw [deploys, deploys, available_storeAfter, storeAfter_of_baseline missing located,
      holds_put_override missing, Bool.not_or, bne, Bool.and_right_comm]
  rw [toCreate, eraseDups_filter_cons once, if_pos first, toCreate]
  rfl

theorem created_cons_of_settled
    (settled : handler.holds store host = true ∨ handler.baseline? store host = none) :
    handler.created store (host :: hosts) = handler.created store hosts := by
  rw [created, toCreate_cons_of_settled settled, created]

theorem created_cons_of_created (missing : handler.holds store host = false)
    (located : handler.baseline? store host = some baseline) :
    handler.created store (host :: hosts) = handler.overrideFrom host baseline ::
      handler.created (handler.storeAfter store host) hosts := by
  rw [created, toCreate_cons_of_created missing located, List.filterMap_cons, located]
  simp only [Option.map_some, created, baseline?_storeAfter]

theorem numbered_cons (writes : Nat) (object : RoutingObject) (objects : List RoutingObject) :
    numbered writes (object :: objects) =
      { object with revision := some (toString (writes + 1)) } :: numbered (writes + 1) objects := by
  simp only [numbered, List.mapIdx_cons, Nat.add_zero, Nat.add_right_comm writes 1,
    ← Nat.add_assoc]

theorem map_name_created (handler : Handler) (store : MemoryStore) (hosts : List String) :
    (handler.created store hosts).map (·.name) =
      (handler.toCreate store hosts).map handler.nameFor := by
  rw [created, List.map_filterMap]
  have named : ∀ host ∈ handler.toCreate store hosts,
      ((handler.baseline? store host).map (handler.overrideFrom host)).map (·.name) =
        some (handler.nameFor host) := by
    intro host member
    have wanted := (List.mem_filter.1 (List.mem_eraseDups.1 member)).2
    rw [deploys, Bool.and_eq_true, Bool.not_eq_true', available_eq] at wanted
    obtain ⟨missing, available⟩ := wanted
    rw [missing, Bool.false_or] at available
    obtain ⟨baseline, located⟩ := Option.isSome_iff_exists.1 available
    rw [located]
    rfl
  rw [List.filterMap_congr named, List.filterMap_eq_map']

theorem map_name_numbered (writes : Nat) (objects : List RoutingObject) :
    (numbered writes objects).map (·.name) = objects.map (·.name) := by
  induction objects generalizing writes with
  | nil => rfl
  | cons object rest inductionHypothesis =>
    rw [numbered_cons, List.map_cons, List.map_cons, inductionHypothesis]

theorem storeAfterAll_eq (handler : Handler) (store : MemoryStore) (hosts : List String) :
    handler.storeAfterAll store hosts =
      ⟨store.objects ++ numbered store.writes (handler.created store hosts),
        store.writes + (handler.created store hosts).length⟩ := by
  -- On the hosts, for any store: what a later store would create from is what this one creates from,
  -- so the overrides of the rest are those of `created` behind the first.
  induction hosts generalizing store with
  | nil => simp [storeAfterAll, created, toCreate, numbered]
  | cons host rest inductionHypothesis =>
    have next : handler.storeAfterAll store (host :: rest) =
        handler.storeAfterAll (handler.storeAfter store host) rest := rfl
    obtain ⟨same, settled⟩ | ⟨baseline, written, missing, located⟩ :=
      storeAfter_cases handler store host
    · rw [next, same, inductionHypothesis, created_cons_of_settled settled]
    · have objects : (store.put (handler.overrideFrom host baseline)).objects =
          store.objects ++ [store.stamp (handler.overrideFrom host baseline)] :=
        objects_put_override missing
      rw [next, inductionHypothesis, created_cons_of_created missing located, numbered_cons,
        written, objects, List.append_assoc, List.singleton_append, List.length_cons]
      have writes : (store.put (handler.overrideFrom host baseline)).writes = store.writes + 1 := rfl
      rw [writes, Nat.add_assoc, Nat.add_comm 1]
      rfl

/-! ## The tracker after visits -/

/-- Whether a visit adds a host to the ignored ones. -/
def ignoresAnew (handler : Handler) (store : MemoryStore) (tracker : Tracker)
    (host : String) : Bool :=
  !handler.available store host && !tracker.isIgnored host

/-- The hosts that visits add to the ignored ones, in the order of their first visits. -/
def newlyIgnored (handler : Handler) (store : MemoryStore) (tracker : Tracker)
    (hosts : List String) : List String :=
  (hosts.filter (handler.ignoresAnew store tracker)).eraseDups

theorem ignoresAnew_storeAfter : handler.ignoresAnew (handler.storeAfter store host) tracker =
    handler.ignoresAnew store tracker := by
  funext other
  rw [ignoresAnew, ignoresAnew, available_storeAfter]

theorem active_trackerAfterAll (handler : Handler) (store : MemoryStore) (tracker : Tracker)
    (hosts : List String) :
    (handler.trackerAfterAll store tracker hosts).active =
      tracker.active ++ hosts.filter (handler.available store) := by
  induction hosts generalizing store tracker with
  | nil => exact (List.append_nil _).symm
  | cons host rest inductionHypothesis =>
    have stable : handler.available (handler.storeAfter store host) = handler.available store :=
      funext (available_storeAfter handler store host)
    rw [trackerAfterAll, inductionHypothesis, stable, trackerAfter]
    cases available : handler.available store host with
    | true =>
      rw [if_pos rfl, Tracker.active_markActive, List.filter_cons_of_pos available,
        List.append_assoc, List.singleton_append]
    | false =>
      rw [if_neg Bool.false_ne_true, Tracker.active_markIgnored,
        List.filter_cons_of_neg (Bool.not_eq_true _ ▸ available)]

theorem newlyIgnored_cons_of_old (old : handler.ignoresAnew store tracker host = false) :
    handler.newlyIgnored store tracker (host :: hosts) =
      handler.newlyIgnored store tracker hosts := by
  rw [newlyIgnored, List.filter_cons_of_neg (Bool.not_eq_true _ ▸ old), newlyIgnored]

theorem newlyIgnored_cons_of_new (missing : handler.available store host = false)
    (new : tracker.isIgnored host = false) :
    handler.newlyIgnored store tracker (host :: hosts) =
      host :: handler.newlyIgnored store (tracker.markIgnored host).2 hosts := by
  have ignored : handler.ignoresAnew store tracker host = true := by
    rw [ignoresAnew, missing, new]
    rfl
  -- The tracker ignores the host from now on, so later visits to it are not noted.
  have once : ∀ other, handler.ignoresAnew store (tracker.markIgnored host).2 other =
      (handler.ignoresAnew store tracker other && other != host) := by
    intro other
    rw [ignoresAnew, ignoresAnew, Tracker.isIgnored, Tracker.isIgnored,
      Tracker.ignored_markIgnored_of_new new]
    cases same : other == host <;> simp_all [bne]
  rw [newlyIgnored, eraseDups_filter_cons once, if_pos ignored, newlyIgnored]
  rfl

theorem ignored_trackerAfterAll (handler : Handler) (store : MemoryStore) (tracker : Tracker)
    (hosts : List String) :
    (handler.trackerAfterAll store tracker hosts).ignored =
      tracker.ignored ++ handler.newlyIgnored store tracker hosts := by
  induction hosts generalizing store tracker with
  | nil => exact (List.append_nil _).symm
  | cons host rest inductionHypothesis =>
    rw [trackerAfterAll, inductionHypothesis, trackerAfter, newlyIgnored, ignoresAnew_storeAfter,
      ← newlyIgnored]
    cases available : handler.available store host with
    | true =>
      have old : handler.ignoresAnew store tracker host = false := by
        rw [ignoresAnew, available, Bool.not_true, Bool.false_and]
      rw [if_pos rfl, newlyIgnored_cons_of_old old]
      rfl
    | false =>
      rw [if_neg Bool.false_ne_true]
      cases ignored : tracker.isIgnored host with
      | true =>
        have old : handler.ignoresAnew store tracker host = false := by
          rw [ignoresAnew, ignored, Bool.not_true, Bool.and_false]
        rw [Tracker.markIgnored_of_ignored ignored, newlyIgnored_cons_of_old old]
      | false =>
        rw [newlyIgnored_cons_of_new available ignored, Tracker.ignored_markIgnored_of_new ignored,
          List.append_assoc, List.singleton_append]

/-! ## A pass that returns -/

/-- Whatever the database answers, and whether or not the program is told to stop: if a pass returns,
it has visited all its hosts, and exactly those that were available are active. -/
theorem of_handle_returned {noted : Tracker} {result : PassResult} {final : MemoryStore}
    (returned : Reaches (exact false) (handler.handle.outcome tracker) store
      (.done (.ok result, noted)) final) :
    final = handler.storeAfterAll store handler.hosts ∧
      result.active = handler.hosts.filter (handler.available store) := by
  obtain ⟨-, rfl, rfl⟩ := (keeps_handle handler store tracker).post_of_reaches returned
  exact ⟨rfl, active_trackerAfterAll handler store tracker.beginPass handler.hosts⟩

end Handler

end RouteOverrides
