import RouteOverrides.Proofs.Handler.Pass
import RouteOverrides.Proofs.Owner.Recorded
import RouteOverrides.Proofs.Store.Revision

/-! # What a pass does to the store and to the tracker

When nobody else writes, the store decides what becomes of a host: its override exists, or it has a
baseline and the override is created from it, or the host is ignored. A pass does this for one host
after the other, and each host finds the store as the hosts before it left it.

* `Handler.available` — whether a host becomes active.
* `Handler.storeAfter`, `Handler.trackerAfter` — what a visit makes of the store and of the tracker.
* `Handler.keeps_visit` — a visit does this, or is disturbed and leaves the store alone.
* `Handler.keeps_visitAll` — the same for several hosts.
-/

namespace RouteOverrides.Handler

open Program MemoryStore

/-! ## What becomes of a host -/

def holds (handler : Handler) (store : MemoryStore) (host : String) : Bool :=
  (store.find? handler.ns (handler.nameFor host)).isSome

/-- The baseline of a host: the first that the store lists. -/
def baseline? (handler : Handler) (store : MemoryStore) (host : String) : Option RoutingObject :=
  (store.inNamespace handler.ns).find? (handler.lookup.accepts host)

/-- Whether a host can become active: its override is in the store, or it has a baseline there. -/
def available (handler : Handler) (store : MemoryStore) (host : String) : Bool :=
  handler.holds store host || (store.inNamespace handler.ns).any (handler.lookup.accepts host)

/-- The override that a handler creates from a baseline. -/
def overrideFrom (handler : Handler) (host : String) (baseline : RoutingObject) : RoutingObject where
  name := handler.nameFor host
  ns := handler.ns
  labels := [(handler.versionLabel, handler.uniqueVersion)]
  annotations := [(handler.key, handler.owner.token)]
  host := baseline.host
  subsets := [⟨handler.uniqueVersion, [(handler.versionLabel, handler.uniqueVersion)]⟩]
  revision := none

/-- The store after a visit to a host. -/
def storeAfter (handler : Handler) (store : MemoryStore) (host : String) : MemoryStore :=
  if handler.holds store host then store
  else
    match handler.baseline? store host with
    | some baseline => store.put (handler.overrideFrom host baseline)
    | none => store

/-- The tracker after a visit to a host. -/
def trackerAfter (handler : Handler) (store : MemoryStore) (tracker : Tracker) (host : String) :
    Tracker :=
  if handler.available store host then tracker.markActive host else (tracker.markIgnored host).2

variable {handler : Handler} {store : MemoryStore} {host : String} {tracker : Tracker} {calm : Bool}
  {baseline : RoutingObject}

theorem isSome_baseline? (handler : Handler) (store : MemoryStore) (host : String) :
    (handler.baseline? store host).isSome =
      (store.inNamespace handler.ns).any (handler.lookup.accepts host) := by
  rw [Bool.eq_iff_iff, List.any_eq_true]
  exact List.find?_isSome

theorem available_eq (handler : Handler) (store : MemoryStore) (host : String) :
    handler.available store host =
      (handler.holds store host || (handler.baseline? store host).isSome) := by
  rw [available, isSome_baseline?]

theorem available_of_holds (held : handler.holds store host = true) :
    handler.available store host = true := by
  rw [available, held, Bool.true_or]

theorem available_of_missing (missing : handler.holds store host = false) :
    handler.available store host = (handler.baseline? store host).isSome := by
  rw [available_eq, missing, Bool.false_or]

theorem storeAfter_of_holds (held : handler.holds store host = true) :
    handler.storeAfter store host = store := if_pos held

theorem storeAfter_of_no_baseline (located : handler.baseline? store host = none) :
    handler.storeAfter store host = store := by
  rw [storeAfter, located]
  split <;> rfl

theorem storeAfter_of_baseline (missing : handler.holds store host = false)
    (located : handler.baseline? store host = some baseline) :
    handler.storeAfter store host = store.put (handler.overrideFrom host baseline) := by
  rw [storeAfter, missing, located]
  rfl

theorem trackerAfter_of_available (available : handler.available store host = true) :
    handler.trackerAfter store tracker host = tracker.markActive host := if_pos available

theorem trackerAfter_of_unavailable (unavailable : handler.available store host = false) :
    handler.trackerAfter store tracker host = (tracker.markIgnored host).2 :=
  if_neg (Bool.not_eq_true _ ▸ unavailable)

theorem overrideFrom_eq (handler : Handler) (host : String) (baseline : RoutingObject) :
    handler.overrideFrom host baseline =
      (handler.template.object host baseline).withOwners handler.key
        (OwnerSet.empty.insert handler.owner) := by
  rw [RoutingObject.withOwners, OwnerSet.encode_insert_empty]
  rfl

/-- Adding the owner to a new override writes its token. -/
theorem addOwner_template (handler : Handler) (host : String) (baseline : RoutingObject) :
    ((handler.template.object host baseline).addOwner handler.key handler.owner).2 =
      handler.overrideFrom host baseline := by
  -- The override starts without annotations, whatever those of its baseline are.
  have nobody : (handler.template.object host baseline).owners handler.key = OwnerSet.empty := by
    rw [RoutingObject.owners, Template.object, Keyed.find?_nil, Option.getD_none]
    exact OwnerSet.ext_toList rfl
  rw [RoutingObject.addOwner, RoutingObject.change, nobody, overrideFrom_eq]
  rfl

/-! ## Asking the store -/

theorem ends_present (handler : Handler) (store : MemoryStore) (host : String) :
    Keeps (exact calm) (fun _ _ => True) (Ends calm store (handler.holds store host) store)
      (handler.present host).run store := by
  refine keeps_bind_of_ends ends_checkInterrupted (fun _ disturbed => ⟨disturbed, rfl⟩) ?_
  rw [keeps_attempt]
  refine ⟨trivial, ?_⟩
  rintro _ _ ⟨rfl, rfl⟩
  rw [answer_get_snd, answer]
  cases found : store.find? handler.ns (handler.nameFor host) with
  | some object =>
    have held : true = handler.holds store host := by rw [holds, found, Option.isSome_some]
    exact ⟨held, rfl⟩
  | none =>
    have missing : false = handler.holds store host := by rw [holds, found, Option.isSome_none]
    exact ⟨missing, rfl⟩

theorem ends_generate (handler : Handler) (store : MemoryStore) (host : String) :
    Keeps (exact calm) (fun _ _ => True)
      (Ends calm store ((handler.baseline? store host).map (handler.template.object host)) store)
      (handler.template.generate host).run store := by
  have located : Keeps (exact calm) (fun _ _ => True)
      (Ends calm store (handler.baseline? store host) store)
      (handler.lookup.locate host).run store := by
    refine keeps_bind_of_ends ends_checkInterrupted (fun _ disturbed => ⟨disturbed, rfl⟩) ?_
    refine keeps_bind_of_ends (ends_blaming (ends_call (answer_list store _)))
      (fun _ disturbed => ⟨disturbed, rfl⟩) ?_
    rw [baseline?]
    dsimp only [lookup]
    split
    · rename_i found
      exact ⟨found.symm, rfl⟩
    · rename_i missing
      refine keeps_bind_of_ends (ends_log _) (fun _ disturbed => ⟨disturbed, rfl⟩) ?_
      exact ⟨missing.symm, rfl⟩
  exact keeps_bind_of_ends located (fun _ disturbed => ⟨disturbed, rfl⟩) ⟨rfl, rfl⟩

/-! ## Visits -/

/-- How a visit ends: as the store decides, or disturbed and with the store as it was. -/
def Visited (handler : Handler) (calm : Bool) (store : MemoryStore) (tracker : Tracker)
    (host : String) : Except Failure Unit × Tracker → MemoryStore → Prop
  | (.ok _, noted), final =>
    noted = handler.trackerAfter store tracker host ∧ final = handler.storeAfter store host
  | (.error _, _), final => calm = false ∧ final = store

theorem keeps_createMissing (missing : handler.holds store host = false) :
    Keeps (exact calm) (fun _ _ => True) (handler.Visited calm store tracker host)
      ((handler.createMissing host).outcome tracker) store := by
  have vacant : store.find? handler.ns (handler.nameFor host) = none := by
    rw [holds] at missing
    exact Option.isSome_eq_false_iff.1 missing |> Option.isNone_iff_eq_none.1
  refine Pass.keeps_of_ends (ends_blaming (ends_record _ _))
    (fun _ disturbed => ⟨disturbed, rfl⟩) ?_
  refine Pass.keeps_of_ends (ends_generate handler store host)
    (fun _ disturbed => ⟨disturbed, rfl⟩) ?_
  cases located : handler.baseline? store host with
  | none =>
    have unavailable : handler.available store host = false := by
      rw [available_of_missing missing, located, Option.isSome_none]
    have noted : handler.trackerAfter store tracker host = (tracker.markIgnored host).2 :=
      trackerAfter_of_unavailable unavailable
    have kept := storeAfter_of_no_baseline located
    dsimp only [Option.map_none]
    -- The journal gets a row the first time only; the tracker is the same either way.
    rw [Pass.keeps_tracker_bind, Pass.keeps_note_bind]
    split
    · rw [Pass.keeps_ofAction]
      refine (ends_log _).mono fun result final ended => ?_
      cases result with
      | ok _ => exact ⟨noted.symm, ended.2.trans kept.symm⟩
      | error failure => exact ended
    · exact ⟨noted.symm, kept.symm⟩
  | some baseline =>
    have available : handler.available store host = true := by
      rw [available_of_missing missing, located, Option.isSome_some]
    have noted : handler.trackerAfter store tracker host = tracker.markActive host :=
      trackerAfter_of_available available
    have written := storeAfter_of_baseline missing located
    dsimp only [Option.map_some]
    refine Pass.keeps_of_ends (ends_log _) (fun _ disturbed => ⟨disturbed, rfl⟩) ?_
    refine Pass.keeps_of_ends ends_checkInterrupted (fun _ disturbed => ⟨disturbed, rfl⟩) ?_
    rw [addOwner_template]
    refine Pass.keeps_of_ends (ends_blaming (ends_call (answer_create vacant)))
      (fun _ disturbed => ⟨disturbed, rfl⟩) ?_
    exact ⟨noted.symm, written.symm⟩

theorem keeps_visit (handler : Handler) (store : MemoryStore) (tracker : Tracker)
    (host : String) : Keeps (exact calm) (fun _ _ => True) (handler.Visited calm store tracker host)
      ((handler.visit host).outcome tracker) store := by
  refine Pass.keeps_of_ends (ends_present handler store host)
    (fun _ disturbed => ⟨disturbed, rfl⟩) ?_
  cases held : handler.holds store host with
  | true =>
    have noted : handler.trackerAfter store tracker host = tracker.markActive host :=
      trackerAfter_of_available (available_of_holds held)
    exact ⟨noted.symm, (storeAfter_of_holds held).symm⟩
  | false => exact keeps_createMissing held

/-! ## Passes -/

def storeAfterAll (handler : Handler) (store : MemoryStore) (hosts : List String) : MemoryStore :=
  hosts.foldl handler.storeAfter store

def trackerAfterAll (handler : Handler) : MemoryStore → Tracker → List String → Tracker
  | _, tracker, [] => tracker
  | store, tracker, host :: rest =>
    trackerAfterAll handler (handler.storeAfter store host) (handler.trackerAfter store tracker host)
      rest

def VisitedAll (handler : Handler) (calm : Bool) (store : MemoryStore) (tracker : Tracker)
    (hosts : List String) : Except Failure Unit × Tracker → MemoryStore → Prop
  | (.ok _, noted), final =>
    noted = handler.trackerAfterAll store tracker hosts ∧ final = handler.storeAfterAll store hosts
  | (.error _, _), _ => calm = false

theorem keeps_visitAll (handler : Handler) (store : MemoryStore) (tracker : Tracker)
    (hosts : List String) :
    Keeps (exact calm) (fun _ _ => True) (handler.VisitedAll calm store tracker hosts)
      ((handler.visitAll hosts).outcome tracker) store := by
  induction hosts generalizing store tracker with
  | nil => exact ⟨rfl, rfl⟩
  | cons host rest inductionHypothesis =>
    rw [visitAll, Pass.keeps_bind]
    refine (keeps_visit handler store tracker host).mono fun ended after visited => ?_
    obtain ⟨result, noted⟩ := ended
    cases result with
    | error failure => exact visited.1
    | ok _ =>
      obtain ⟨rfl, rfl⟩ := visited
      exact inductionHypothesis _ _

/-- The tracker when all hosts of a pass were visited. -/
def trackerSeen (handler : Handler) (store : MemoryStore) (tracker : Tracker) : Tracker :=
  handler.trackerAfterAll store tracker.beginPass handler.hosts

/-- How a pass ends. It fails if it was disturbed or has left no host active. -/
def Handled (handler : Handler) (calm : Bool) (store : MemoryStore) (tracker : Tracker) :
    Except Failure PassResult × Tracker → MemoryStore → Prop
  | (.ok result, _), final =>
    (handler.trackerSeen store tracker).active ≠ [] ∧
    result = (handler.trackerSeen store tracker).result ∧
    final = handler.storeAfterAll store handler.hosts
  | (.error failure, _), final => calm = false ∨
    (handler.trackerSeen store tracker).active = [] ∧
    failure = .noActiveHost handler.uniqueName (handler.trackerSeen store tracker).ignored ∧
    final = handler.storeAfterAll store handler.hosts

theorem keeps_handle (handler : Handler) (store : MemoryStore) (tracker : Tracker) :
    Keeps (exact calm) (fun _ _ => True) (handler.Handled calm store tracker)
      (handler.handle.outcome tracker) store := by
  rw [handle, Pass.keeps_note_bind, Pass.keeps_bind]
  refine (keeps_visitAll handler store _ handler.hosts).mono fun ended after visited => ?_
  obtain ⟨result, noted⟩ := ended
  cases result with
  | error failure => exact .inl visited
  | ok _ =>
    obtain ⟨rfl, rfl⟩ := visited
    dsimp only
    rw [Pass.keeps_tracker_bind]
    split
    · rename_i nobody
      exact Pass.keeps_of_ends (ends_log _) (fun _ disturbed => .inl disturbed)
        (.inr ⟨List.isEmpty_iff.1 nobody, rfl, rfl⟩)
    · rename_i somebody
      exact ⟨fun none => somebody (List.isEmpty_iff.2 none), rfl, rfl⟩

end RouteOverrides.Handler
