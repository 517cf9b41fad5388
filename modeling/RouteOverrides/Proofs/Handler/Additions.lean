import RouteOverrides.Proofs.Handler.Subscription

/-! # What handlers add to a store

A handler overwrites nothing. Wherever a pass is broken off, the objects of the store are as they were,
and whatever is new is an override of the handler.

* `Program.Maintains` — an invariant of the store that a program keeps, whatever comes of the program.
* `Handler.Adds` — the objects of a store stay, and overrides of a handler are new.
* `Handler.maintains_handle`, `Handler.maintains_statusesOf`, `Handler.maintains_publish` — what
  handlers do.
* `Handler.Adds.owners_new` — whom a new object lists.
-/

namespace RouteOverrides

open Program MemoryStore

variable {α β : Type} {inv : MemoryStore → Prop}

/-! ## Invariants of the store -/

/-- If an invariant holds of the store at first, it does when the program is done. Nobody else writes;
whether the program is told to stop, and what the database answers, is open. -/
def Program.Maintains (inv : MemoryStore → Prop) (program : Program α) : Prop :=
  ∀ store, inv store →
    Keeps (exact false) (fun _ _ => True) (fun _ later => inv later) program store

theorem Program.maintains_done (result : α) : Maintains inv (.done result) := fun _ holds => holds

theorem Program.Maintains.bind {program : Program α} {next : α → Program β}
    (maintains : Maintains inv program) (onward : ∀ result, Maintains inv (next result)) :
    Maintains inv (program >>= next) := fun store holds =>
  keeps_bind.2 ((maintains store holds).mono fun result later => onward result later)

namespace Action

/-- An action that keeps an invariant, whether it fails or not. -/
def Maintains (inv : MemoryStore → Prop) (action : Action α) : Prop :=
  Program.Maintains inv action.run

theorem maintains_pure (value : α) : (pure value : Action α).Maintains inv := maintains_done _

theorem maintains_throw (failure : Failure) : (throw failure : Action α).Maintains inv :=
  maintains_done _

/-- An action that leaves the store as it is. -/
theorem maintains_of_ends {action : Action α}
    (ends : ∀ store, ∃ value, Keeps (exact false) (fun _ _ => True) (Ends false store value store)
      action.run store) : action.Maintains inv := by
  intro store holds
  obtain ⟨value, ended⟩ := ends store
  refine ended.mono fun result later same => ?_
  have unchanged : later = store := by cases result <;> exact same.2
  exact unchanged ▸ holds

theorem maintains_log (entry : Entry) : (Action.log entry).Maintains inv :=
  maintains_of_ends fun _ => ⟨(), ends_log entry⟩

theorem Maintains.bind {action : Action α} {next : α → Action β} (maintains : action.Maintains inv)
    (onward : ∀ value, (next value).Maintains inv) : (action >>= next).Maintains inv := by
  rw [Maintains, ExceptT.run_bind]
  refine Program.Maintains.bind maintains fun result => ?_
  cases result with
  | ok value => exact onward value
  | error failure => exact maintains_done _

theorem Maintains.settle {action : Action α} (maintains : action.Maintains inv) :
    (Action.settle action).Maintains inv :=
  Program.Maintains.bind maintains fun _ => maintains_done _

theorem maintains_ofProgram {program : Program α} (maintains : Program.Maintains inv program) :
    (Action.ofProgram program).Maintains inv :=
  maintains.bind fun _ => maintains_done _

end Action

namespace Pass

/-- A pass that keeps an invariant, whether it fails or not. -/
def Maintains (inv : MemoryStore → Prop) (pass : Pass α) : Prop :=
  ∀ tracker, Program.Maintains inv (pass.outcome tracker)

theorem maintains_ofAction {action : Action α} (maintains : action.Maintains inv) :
    (ofAction action).Maintains inv := fun _ =>
  Program.Maintains.bind maintains fun _ => maintains_done _

theorem Maintains.bind {pass : Pass α} {next : α → Pass β} (maintains : pass.Maintains inv)
    (onward : ∀ value, (next value).Maintains inv) : (pass >>= next).Maintains inv := by
  intro tracker store holds
  refine Pass.keeps_bind.2 ((maintains tracker store holds).mono ?_)
  rintro ⟨result, noted⟩ later holdsLater
  cases result with
  | ok value => exact onward value noted later holdsLater
  | error failure => exact holdsLater

end Pass

/-! ## Overrides that are added -/

namespace Handler

variable {handler : Handler} {store middle later : MemoryStore} {ns name : String}
  {object : RoutingObject}

/-- The objects of a store stay as they are in a later one, and whatever is new there is an override
of the handler. -/
structure Adds (handler : Handler) (store later : MemoryStore) : Prop where
  kept : ∀ ns name object, store.find? ns name = some object → later.find? ns name = some object
  new : ∀ ns name object, store.find? ns name = none → later.find? ns name = some object →
    ∃ host baseline revision,
      object = { handler.overrideFrom host baseline with revision := revision }

namespace Adds

theorem refl (handler : Handler) (store : MemoryStore) : handler.Adds store store :=
  ⟨fun _ _ _ found => found, fun _ _ _ vacant found => by rw [vacant] at found; cases found⟩

theorem trans (first : handler.Adds store middle) (second : handler.Adds middle later) :
    handler.Adds store later := by
  refine ⟨fun ns name object found => second.kept _ _ _ (first.kept _ _ _ found), ?_⟩
  intro ns name object vacant found
  cases between : middle.find? ns name with
  | none => exact second.new ns name object between found
  | some created =>
    rw [second.kept _ _ _ between] at found
    cases found
    exact first.new ns name object vacant between

theorem storeAfter (handler : Handler) (store : MemoryStore) (host : String) :
    handler.Adds store (handler.storeAfter store host) := by
  obtain ⟨same, -⟩ | ⟨baseline, written, missing, -⟩ := storeAfter_cases handler store host
  · rw [same]
    exact refl handler store
  rw [written]
  have vacantHere := holds_eq_false_iff.1 missing
  refine ⟨fun ns name object found => ?_, fun ns name object vacant found => ?_⟩
  · have elsewhere : (handler.overrideFrom host baseline).key ≠ (ns, name) := by
      rintro ⟨⟩
      cases vacantHere.symm.trans found
    rw [find?_put_of_ne store elsewhere, found]
  · by_cases here : (handler.overrideFrom host baseline).key = (ns, name)
    · cases here
      exact ⟨host, baseline, _, (Option.some.inj ((find?_put_self store _).symm.trans found)).symm⟩
    · rw [find?_put_of_ne store here, vacant] at found
      cases found

/-- A new object lists the owner of the handler if its token can be read back, and then nobody else.
Otherwise the owner is not listed, whoever else may be. -/
theorem owners_new (adds : handler.Adds store later) (vacant : store.find? ns name = none)
    (found : later.find? ns name = some object) :
    (handler.owner.WellFormed → (object.owners handler.key).toList = [handler.owner]) ∧
    (¬ handler.owner.WellFormed → handler.owner ∉ (object.owners handler.key).toList) := by
  obtain ⟨host, baseline, revision, rfl⟩ := adds.new ns name object vacant found
  refine ⟨fun wellFormed => toList_owners_overrideFrom wellFormed revision, fun unreadable => ?_⟩
  intro listed
  exact unreadable (OwnerSet.wellFormed_of_mem_parse listed)

end Adds

/-! ## What handlers do -/

theorem maintains_visit {host : String}
    (closed : ∀ store, inv store → inv (handler.storeAfter store host)) :
    (handler.visit host).Maintains inv := by
  intro tracker store holds
  refine (keeps_visit handler store tracker host).mono ?_
  rintro ⟨result, noted⟩ later visited
  cases result with
  | ok _ =>
    rw [visited.2]
    exact closed store holds
  | error failure =>
    rw [visited.2]
    exact holds

theorem maintains_visitAll {hosts : List String}
    (closed : ∀ host ∈ hosts, ∀ store, inv store → inv (handler.storeAfter store host)) :
    (handler.visitAll hosts).Maintains inv := by
  induction hosts with
  | nil => exact fun _ => maintains_done _
  | cons host rest inductionHypothesis =>
    obtain ⟨first, later⟩ := List.forall_mem_cons.1 closed
    exact (maintains_visit first).bind fun _ => inductionHypothesis later

theorem maintains_handle
    (closed : ∀ host ∈ handler.hosts, ∀ store, inv store → inv (handler.storeAfter store host)) :
    handler.handle.Maintains inv := by
  refine Pass.Maintains.bind (fun _ => maintains_done _) fun _ => ?_
  refine (maintains_visitAll closed).bind fun _ => ?_
  refine Pass.Maintains.bind (fun _ => maintains_done _) fun tracker => ?_
  dsimp only
  split
  · exact (Pass.maintains_ofAction (Action.maintains_log _)).bind fun _ _ => maintains_done _
  · exact fun _ => maintains_done _

theorem maintains_adds_handle (handler : Handler) :
    handler.handle.Maintains (handler.Adds store) :=
  maintains_handle fun host _ middle adds => adds.trans (.storeAfter handler middle host)

theorem maintains_statusesOf (handler : Handler) (ignored hosts : List String) :
    (handler.statusesOf ignored hosts).Maintains inv := by
  induction hosts with
  | nil => exact Action.maintains_pure []
  | cons host rest inductionHypothesis =>
    have present : (handler.present host).Maintains inv :=
      Action.maintains_of_ends fun store => ⟨_, ends_present handler store host⟩
    exact present.bind fun _ => inductionHypothesis.bind fun _ => Action.maintains_pure _

theorem maintains_publish (handler : Handler) (statuses : List ResourceStatus) :
    (handler.publish statuses).Maintains inv := by
  induction statuses with
  | nil => exact Action.maintains_pure ()
  | cons status rest inductionHypothesis =>
    have record : (Action.record handler.uniqueName status).Maintains inv :=
      Action.maintains_of_ends fun _ => ⟨(), ends_record _ _⟩
    exact record.bind fun _ => inductionHypothesis

end Handler

end RouteOverrides
