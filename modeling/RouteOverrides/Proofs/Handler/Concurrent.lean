import RouteOverrides.Proofs.Handler.Retry
import RouteOverrides.Proofs.Program.Interleaving

/-! # Passes at the same time

Several handlers with the same names and versions, but with any owners and hosts, make a pass at the
same time. Between the look for an override, the look for its baseline and its creation, the others may
create it or any other override. All that they ever do is to create missing overrides from baselines,
and that changes neither which baselines are found nor which hosts can become active.

* `Handler.Deploys`, `Handler.Deployed` — a missing override is created; any number of them.
* `Handler.Deployed.baseline?_eq`, `Handler.Deployed.available_eq` — what this leaves as it was.
* `Handler.Deployed.made` — the overrides that are new in a store.
* `Handler.Together`, `Handler.handle_together` — what passes at the same time come to.
-/

namespace RouteOverrides.Handler

open Program MemoryStore

variable {ι : Type} {handlers : ι → Handler} {handler other : Handler}
  {store start middle later : MemoryStore} {host : String}

/-! ## What a template decides -/

theorem holds_congr (same : handler.template = other.template) :
    handler.holds = other.holds := by
  have told : ∀ handler : Handler, handler.holds = fun store host =>
      (store.find? handler.template.lookup.ns
        (overrideName handler.template.uniqueName host)).isSome := fun _ => rfl
  rw [told, told, same]

theorem baseline?_congr (same : handler.template = other.template) :
    handler.baseline? = other.baseline? := by
  have told : ∀ handler : Handler, handler.baseline? = fun store host =>
      (store.inNamespace handler.template.lookup.ns).find?
        (handler.template.lookup.accepts host) := fun _ => rfl
  rw [told, told, same]

theorem available_congr (same : handler.template = other.template) :
    handler.available = other.available := by
  funext store host
  rw [available_eq, available_eq, holds_congr same, baseline?_congr same]

/-! ## Overrides that are created -/

/-- One of the handlers creates an override that is missing, for one of its hosts. -/
inductive Deploys (handlers : ι → Handler) : MemoryStore → MemoryStore → Prop where
  | created {store : MemoryStore} {party : ι} {host : String} {baseline : RoutingObject}
      (asked : host ∈ (handlers party).hosts)
      (missing : (handlers party).holds store host = false)
      (located : (handlers party).baseline? store host = some baseline) :
      Deploys handlers store (store.put ((handlers party).overrideFrom host baseline))

/-- The handlers create overrides, one after the other. -/
abbrev Deployed (handlers : ι → Handler) : MemoryStore → MemoryStore → Prop :=
  Relation.ReflTransGen (Deploys handlers)

theorem accord_deployed (handlers : ι → Handler) :
    Accord (fun _ : ι => Deployed handlers) (fun _ => Deployed handlers) :=
  ⟨fun _ _ => .refl, fun _ => .trans, fun _ _ _ => id⟩

namespace Deployed

variable (alike : ∀ party, (handlers party).template = handler.template)

include alike in
theorem baseline?_eq (deployed : Deployed handlers store later) :
    handler.baseline? later = handler.baseline? store := by
  induction deployed with
  | refl => rfl
  | tail _ next inductionHypothesis =>
    obtain ⟨-, missing, located⟩ := next
    rw [← inductionHypothesis, ← storeAfter_of_baseline missing located, ← baseline?_congr (alike _)]
    exact funext (baseline?_storeAfter _ _ _)

include alike in
theorem available_eq (deployed : Deployed handlers store later) :
    handler.available later = handler.available store := by
  induction deployed with
  | refl => rfl
  | tail _ next inductionHypothesis =>
    obtain ⟨-, missing, located⟩ := next
    rw [← inductionHypothesis, ← storeAfter_of_baseline missing located, ← available_congr (alike _)]
    exact funext (available_storeAfter _ _ _)

theorem keeps_objects (deployed : Deployed handlers store later) :
    store.objects <+: later.objects := by
  induction deployed with
  | refl => exact List.prefix_refl _
  | tail _ next inductionHypothesis =>
    obtain ⟨-, missing, -⟩ := next
    rw [objects_put_override missing]
    exact inductionHypothesis.trans (List.prefix_append _ _)

end Deployed

/-- Overrides that the handlers add to a store: of different names, each missing in the store, and built
from the first baseline there, with the owner of one of the handlers on it. -/
structure Made (handlers : ι → Handler) (store : MemoryStore) (made : List RoutingObject) : Prop where
  names_nodup : (made.map (·.name)).Nodup
  missing : ∀ object ∈ made, store.find? object.ns object.name = none
  built : ∀ object ∈ made, ∃ party, ∃ host ∈ (handlers party).hosts, ∃ baseline,
    (handlers party).baseline? store host = some baseline ∧
    object = { (handlers party).overrideFrom host baseline with revision := object.revision }

theorem Deployed.made {template : Template} (alike : ∀ party, (handlers party).template = template)
    (deployed : Deployed handlers store later) :
    ∃ made, later.objects = store.objects ++ made ∧ Made handlers store made := by
  induction deployed with
  | refl => exact ⟨[], (List.append_nil _).symm, List.nodup_nil, nofun, nofun⟩
  | @tail middle _ earlier next inductionHypothesis =>
    obtain ⟨made, objects, nodup, missingBefore, built⟩ := inductionHypothesis
    obtain ⟨asked, missing, located⟩ := next
    rename_i party host baseline
    have vacant : middle.find? (handlers party).ns ((handlers party).nameFor host) = none :=
      holds_eq_false_iff.1 missing
    rw [find?_eq, objects, List.find?_append, Option.or_eq_none_iff] at vacant
    obtain ⟨vacantStore, vacantMade⟩ := vacant
    refine ⟨made ++ [middle.stamp ((handlers party).overrideFrom host baseline)], ?_, ?_, ?_, ?_⟩
    · rw [objects_put_override missing, objects, List.append_assoc]
    · rw [List.map_append, List.nodup_append]
      refine ⟨nodup, List.nodup_singleton _, ?_⟩
      intro name named _ new
      rw [List.map_singleton, List.mem_singleton] at new
      rintro rfl
      obtain ⟨object, member, rfl⟩ := List.mem_map.1 named
      obtain ⟨maker, _, _, _, _, form⟩ := built object member
      have sameNs : object.ns = (handlers party).ns := by
        rw [form]
        exact congrArg (·.lookup.ns) ((alike maker).trans (alike party).symm)
      exact List.find?_eq_none.1 vacantMade object member
        (isAt_iff.2 (Prod.ext sameNs new))
    · intro object member
      rcases List.mem_append.1 member with old | new
      · exact missingBefore object old
      · cases List.mem_singleton.1 new
        exact vacantStore
    · intro object member
      rcases List.mem_append.1 member with old | new
      · exact built object old
      · cases List.mem_singleton.1 new
        have locatedBefore : (handlers party).baseline? store host = some baseline := by
          rw [← located, Deployed.baseline?_eq
            (fun other => (alike other).trans (alike party).symm) earlier]
        exact ⟨party, host, asked, baseline, locatedBefore, rfl⟩

/-! ## A pass among others -/

section Among

variable {α β : Type}

/-- What is to be shown of the program of a handler while the others are at work. -/
abbrev Among (handlers : ι → Handler) (post : α → MemoryStore → Prop) (program : Program α)
    (start : MemoryStore) : Prop :=
  Keeps (amid (Deployed handlers) (exact true))
    (upholds (Deployed handlers) (Deployed handlers) (exact true)) post program start

/-- An action succeeds with a good value, and meanwhile overrides were created at most. -/
def Succeeds (handlers : ι → Handler) (start : MemoryStore) (good : α → MemoryStore → Prop) :
    Except Failure α → MemoryStore → Prop
  | .ok value, final => Deployed handlers start final ∧ good value final
  | .error _, _ => False

theorem among_ask {post : α → MemoryStore → Prop} {request : Request}
    {next : request.Answer → Program α} (quiet : Quiet true request)
    (answered : ∀ answer ready, Deployed handlers start ready → exact true request ready answer ready →
      Among handlers post (next answer) ready) :
    Among handlers post (.ask request next) start := by
  refine ⟨fun ready answer after _ allowed => ?_, ?_⟩
  · rw [quiet _ _ _ allowed]
  · rintro answer after ⟨ready, deployed, allowed⟩
    cases quiet _ _ _ allowed
    exact answered answer after deployed allowed

theorem among_bind {good : α → MemoryStore → Prop} {action : Action α} {next : α → Action β}
    {post : Except Failure β → MemoryStore → Prop}
    (succeeds : Among handlers (Succeeds handlers start good) action.run start)
    (rest : ∀ value ready, Deployed handlers start ready → good value ready →
      Among handlers post (next value).run ready) :
    Among handlers post (action >>= next).run start := by
  refine keeps_run_bind.2 (succeeds.mono fun result ready succeeded => ?_)
  cases result with
  | error failure => exact succeeded.elim
  | ok value => exact rest value ready succeeded.1 succeeded.2

theorem among_ofAction_bind {good : α → MemoryStore → Prop} {action : Action α} {next : α → Pass β}
    {tracker : Tracker} {post : Except Failure β × Tracker → MemoryStore → Prop}
    (succeeds : Among handlers (Succeeds handlers start good) action.run start)
    (rest : ∀ value ready, Deployed handlers start ready → good value ready →
      Among handlers post ((next value).outcome tracker) ready) :
    Among handlers post ((Pass.ofAction action >>= next).outcome tracker) start := by
  refine Pass.keeps_ofAction_bind.2 (succeeds.mono fun result ready succeeded => ?_)
  cases result with
  | error failure => exact succeeded.elim
  | ok value => exact rest value ready succeeded.1 succeeded.2

theorem succeeds_log (entry : Entry) :
    Among handlers (Succeeds handlers start fun _ _ => True) (Action.log entry).run start := by
  refine among_ask (quiet_log entry) fun answer ready deployed allowed => ?_
  rw [allowed.1 rfl]
  exact ⟨deployed, trivial⟩

theorem succeeds_blaming {good : α → MemoryStore → Prop} {action : Action α} {host operation : String}
    (succeeds : Among handlers (Succeeds handlers start good) action.run start) :
    Among handlers (Succeeds handlers start good) (Action.blaming host operation action).run
      start := by
  refine keeps_blaming.2 (succeeds.mono fun result ready succeeded => ?_)
  cases result <;> exact succeeded

theorem succeeds_record (subset : String) (status : ResourceStatus) :
    Among handlers (Succeeds handlers start fun _ _ => True) (Action.record subset status).run
      start := by
  refine among_ask (quiet_record subset status) fun answer ready deployed allowed => ?_
  rw [allowed.1 rfl]
  exact ⟨deployed, trivial⟩

theorem succeeds_checkInterrupted :
    Among handlers (Succeeds handlers start fun _ _ => True) Action.checkInterrupted.run start := by
  refine among_ask quiet_interrupted fun stop ready deployed allowed => ?_
  rw [allowed.1 rfl]
  exact ⟨deployed, trivial⟩

theorem succeeds_list (ns : String) :
    Among handlers (Succeeds handlers start fun objects ready => objects = ready.inNamespace ns)
      (Action.call (.list ns)).run start := by
  refine among_ask (quiet_list ns) fun answer ready deployed allowed => ?_
  rw [allowed.1]
  exact ⟨deployed, rfl⟩

theorem succeeds_present (handler : Handler) (host : String) :
    Among handlers (Succeeds handlers start fun held ready => held = handler.holds ready host)
      (handler.present host).run start := by
  refine among_bind succeeds_checkInterrupted fun _ checked deployed _ => ?_
  refine among_ask (quiet_get _ _) fun reply ready deployedOn allowed => ?_
  rw [allowed.1, answer]
  have deployedAll := deployed.trans deployedOn
  cases found : ready.find? handler.ns (handler.nameFor host) with
  | some object =>
    have held : true = handler.holds ready host := by rw [holds, found, Option.isSome_some]
    exact ⟨deployedAll, held⟩
  | none =>
    have missing : false = handler.holds ready host := by rw [holds, found, Option.isSome_none]
    exact ⟨deployedAll, missing⟩

theorem succeeds_generate (handler : Handler)
    (alike : ∀ party, (handlers party).template = handler.template) (host : String) :
    Among handlers (Succeeds handlers start fun generated _ =>
      generated = (handler.baseline? start host).map (handler.template.object host))
      (handler.template.generate host).run start := by
  have located : Among handlers (Succeeds handlers start fun located _ =>
      located = handler.baseline? start host) (handler.lookup.locate host).run start := by
    refine among_bind succeeds_checkInterrupted fun _ checked deployed _ => ?_
    refine among_bind (succeeds_blaming (succeeds_list _)) fun _ ready deployedOn listed => ?_
    cases listed
    have deployedAll := deployed.trans deployedOn
    have stable := congrFun (Deployed.baseline?_eq alike deployedAll) host
    rw [← stable, baseline?]
    dsimp only [lookup]
    split
    · rename_i found
      exact ⟨deployedAll, found.symm⟩
    · rename_i missing
      refine among_bind (succeeds_log _) fun _ final deployedLast _ => ?_
      exact ⟨deployedAll.trans deployedLast, missing.symm⟩
  refine among_bind located fun located ready deployed same => ?_
  cases same
  exact ⟨deployed, rfl⟩

end Among

/-! ### Visits -/

/-- The failure of a pass that wants to create an override when somebody else has just done so. -/
def collision (handler : Handler) (host : String) : Failure :=
  .atStore host ("create routing object " ++ handler.nameFor host)
    (.alreadyExists (handler.ns ++ "/" ++ handler.nameFor host))

variable {party : ι} {baseline : RoutingObject} {tracker : Tracker}

theorem of_create {answer : Except Failure Unit} (asked : host ∈ (handlers party).hosts)
    (located : (handlers party).baseline? store host = some baseline)
    (allowed : exact true (.store (.create ((handlers party).overrideFrom host baseline))) store answer
      later) :
    Deployed handlers store later ∧ (answer = .ok () ∨
      answer = .error (.alreadyExists
        ((handlers party).ns ++ "/" ++ (handlers party).nameFor host))) := by
  obtain ⟨rfl, rfl⟩ := allowed
  cases found : store.find? (handlers party).ns ((handlers party).nameFor host) with
  | none =>
    have created : store.answer (.create ((handlers party).overrideFrom host baseline)) =
        (.ok (), store.put ((handlers party).overrideFrom host baseline)) := answer_create found
    rw [created]
    exact ⟨.single (.created asked (holds_eq_false_iff.2 found) located), .inl rfl⟩
  | some object =>
    have refused : store.answer (.create ((handlers party).overrideFrom host baseline)) =
        (.error (.alreadyExists ((handlers party).ns ++ "/" ++ (handlers party).nameFor host)),
          store) := by
      have foundThere : store.find? ((handlers party).overrideFrom host baseline).ns
          ((handlers party).overrideFrom host baseline).name = some object := found
      rw [answer, foundThere]
      rfl
    rw [refused]
    exact ⟨.refl, .inr rfl⟩

/-- How a visit among others ends. -/
def VisitedAmong (handlers : ι → Handler) (handler : Handler) (store : MemoryStore)
    (tracker : Tracker) (host : String) : Except Failure Unit × Tracker → MemoryStore → Prop
  | (.ok _, noted), final =>
    Deployed handlers store final ∧ noted = handler.trackerAfter store tracker host
  | (.error failure, _), _ => failure = handler.collision host

theorem among_createMissing (alike : ∀ other, (handlers other).template = (handlers party).template)
    (asked : host ∈ (handlers party).hosts) (missing : (handlers party).holds start host = false) :
    Among handlers (VisitedAmong handlers (handlers party) start tracker host)
      (((handlers party).createMissing host).outcome tracker) start := by
  refine among_ofAction_bind (succeeds_blaming (succeeds_record _ _)) fun _ recorded deployed _ => ?_
  refine among_ofAction_bind (succeeds_generate (handlers party) alike host)
    fun generated ready deployedOn same => ?_
  rw [Deployed.baseline?_eq alike deployed] at same
  have deployedAll := deployed.trans deployedOn
  cases located : (handlers party).baseline? start host with
  | none =>
    have unavailable : (handlers party).available start host = false := by
      rw [available_of_missing missing, located, Option.isSome_none]
    have noted : (handlers party).trackerAfter start tracker host = (tracker.markIgnored host).2 :=
      trackerAfter_of_unavailable unavailable
    cases same.trans (congrArg _ located)
    dsimp only [Option.map_none]
    refine Pass.keeps_tracker_bind.2 (Pass.keeps_note_bind.2 ?_)
    split
    · refine Pass.keeps_ofAction.2 ?_
      refine (succeeds_log _).mono fun result final succeeded => ?_
      cases result with
      | error failure => exact succeeded.elim
      | ok _ => exact ⟨deployedAll.trans succeeded.1, noted.symm⟩
    · exact ⟨deployedAll, noted.symm⟩
  | some baseline =>
    have available : (handlers party).available start host = true := by
      rw [available_of_missing missing, located, Option.isSome_some]
    have noted : (handlers party).trackerAfter start tracker host = tracker.markActive host :=
      trackerAfter_of_available available
    cases same.trans (congrArg _ located)
    dsimp only [Option.map_some]
    refine among_ofAction_bind (succeeds_log _) fun _ logged deployedLog _ => ?_
    refine among_ofAction_bind succeeds_checkInterrupted fun _ asking deployedAsk _ => ?_
    rw [addOwner_template]
    have deployedThere := deployedAll.trans (deployedLog.trans deployedAsk)
    have locatedNow : ∀ {now}, Deployed handlers asking now →
        (handlers party).baseline? now host = some baseline := fun deployedNow =>
      (congrFun (Deployed.baseline?_eq alike (deployedThere.trans deployedNow)) host).trans located
    refine Pass.keeps_ofAction_bind.2 (keeps_blaming.2 ⟨?_, ?_⟩)
    · intro now answer after deployedNow allowed
      exact (of_create asked (locatedNow deployedNow) allowed).1
    · rintro answer after ⟨now, deployedNow, allowed⟩
      obtain ⟨created, rfl | rfl⟩ := of_create asked (locatedNow deployedNow) allowed
      · exact ⟨deployedThere.trans (deployedNow.trans created), noted.symm⟩
      · rfl

theorem among_visit (alike : ∀ other, (handlers other).template = (handlers party).template)
    (asked : host ∈ (handlers party).hosts) :
    Among handlers (VisitedAmong handlers (handlers party) start tracker host)
      (((handlers party).visit host).outcome tracker) start := by
  refine among_ofAction_bind (succeeds_present _ host) fun held ready deployed same => ?_
  have stable : (handlers party).trackerAfter ready tracker host =
      (handlers party).trackerAfter start tracker host := by
    rw [trackerAfter, trackerAfter, Deployed.available_eq alike deployed]
  cases held with
  | true =>
    have noted : (handlers party).trackerAfter ready tracker host = tracker.markActive host :=
      trackerAfter_of_available (available_of_holds same.symm)
    exact ⟨deployed, noted.symm.trans stable⟩
  | false =>
    refine (among_createMissing alike asked same.symm).mono fun ended final visited => ?_
    obtain ⟨result, noted⟩ := ended
    cases result with
    | error failure => exact visited
    | ok _ => exact ⟨deployed.trans visited.1, visited.2.trans stable⟩

/-! ### Passes -/

theorem trackerAfterAll_congr (hosts : List String)
    (same : handler.available later = handler.available store) :
    handler.trackerAfterAll later tracker hosts = handler.trackerAfterAll store tracker hosts := by
  induction hosts generalizing later store tracker with
  | nil => rfl
  | cons host rest inductionHypothesis =>
    have stable : handler.available (handler.storeAfter later host) =
        handler.available (handler.storeAfter store host) := by
      funext other
      rw [available_storeAfter, available_storeAfter, same]
    rw [trackerAfterAll, trackerAfterAll, trackerAfter, trackerAfter, same, inductionHypothesis stable]

/-- How visits among others end. -/
def VisitedAllAmong (handlers : ι → Handler) (handler : Handler) (store : MemoryStore)
    (tracker : Tracker) (hosts : List String) :
    Except Failure Unit × Tracker → MemoryStore → Prop
  | (.ok _, noted), final =>
    Deployed handlers store final ∧ noted = handler.trackerAfterAll store tracker hosts
  | (.error failure, _), _ => ∃ host ∈ hosts, failure = handler.collision host

theorem among_visitAll (alike : ∀ other, (handlers other).template = (handlers party).template)
    {hosts : List String} (asked : hosts ⊆ (handlers party).hosts) :
    Among handlers (VisitedAllAmong handlers (handlers party) start tracker hosts)
      (((handlers party).visitAll hosts).outcome tracker) start := by
  induction hosts generalizing start tracker with
  | nil => exact ⟨.refl, rfl⟩
  | cons host rest inductionHypothesis =>
    obtain ⟨askedHost, askedRest⟩ := List.cons_subset.1 asked
    refine Pass.keeps_bind.2 ((among_visit alike askedHost).mono fun ended middle visited => ?_)
    obtain ⟨result, noted⟩ := ended
    cases result with
    | error failure => exact ⟨host, List.mem_cons_self, visited⟩
    | ok _ =>
      obtain ⟨deployed, rfl⟩ := visited
      refine (inductionHypothesis askedRest).mono fun ended final visitedRest => ?_
      obtain ⟨result, notedRest⟩ := ended
      cases result with
      | error failure =>
        obtain ⟨other, member, collided⟩ := visitedRest
        exact ⟨other, List.mem_cons_of_mem _ member, collided⟩
      | ok _ =>
        refine ⟨deployed.trans visitedRest.1, visitedRest.2.trans (trackerAfterAll_congr rest ?_)⟩
        funext other
        rw [Deployed.available_eq alike deployed, available_storeAfter]

/-- How a pass among others ends: as if it were undisturbed, or because an override that was missing is
there after all. -/
def EndsAmong (handler : Handler) (store : MemoryStore) (tracker : Tracker)
    (outcome : Except Failure PassResult) : Prop :=
  outcome = handler.undisturbed store tracker ∨
    ∃ host ∈ handler.hosts, outcome = .error (handler.collision host)

theorem coexists_handle (alike : ∀ other, (handlers other).template = (handlers party).template)
    (tracker : Tracker) :
    Coexists (Deployed handlers) (Deployed handlers) (exact true)
      (fun ended _ => (handlers party).EndsAmong start tracker ended.1)
      ((handlers party).handle.outcome tracker) start := by
  refine Pass.keeps_note_bind.2 (Pass.keeps_bind.2 ?_)
  refine (among_visitAll alike (List.Subset.refl _)).mono fun ended after visited => ?_
  obtain ⟨result, noted⟩ := ended
  cases result with
  | error failure =>
    obtain ⟨host, member, rfl⟩ := visited
    exact fun _ _ => .inr ⟨host, member, rfl⟩
  | ok _ =>
    obtain ⟨-, rfl⟩ := visited
    -- The hosts came out as in a pass by itself, so the rest is as there.
    have alone : ∀ outcome noted,
        (handlers party).Handled true start tracker (outcome, noted)
          ((handlers party).storeAfterAll start (handlers party).hosts) →
        (handlers party).EndsAmong start tracker outcome :=
      fun _ _ handled => .inl (undisturbed_of_handled handled).1
    refine Pass.keeps_tracker_bind.2 ?_
    split
    · rename_i nobody
      refine among_ofAction_bind (succeeds_log _) fun _ ready _ _ later _ => ?_
      exact alone _ tracker (.inr ⟨List.isEmpty_iff.1 nobody, rfl, rfl⟩)
    · rename_i somebody
      exact fun _ _ => alone _ tracker
        ⟨fun none => somebody (List.isEmpty_iff.2 none), rfl, rfl⟩

/-! ## Passes afterwards -/

theorem deployed_storeAfterAll {hosts : List String} (asked : hosts ⊆ (handlers party).hosts) :
    Deployed handlers store ((handlers party).storeAfterAll store hosts) := by
  induction hosts generalizing store with
  | nil => exact .refl
  | cons host rest inductionHypothesis =>
    obtain ⟨askedHost, askedRest⟩ := List.cons_subset.1 asked
    have first : Deployed handlers store ((handlers party).storeAfter store host) := by
      obtain ⟨same, -⟩ | ⟨baseline, written, missing, located⟩ :=
        storeAfter_cases (handlers party) store host
      · rw [same]
      · rw [written]
        exact .single (.created askedHost missing located)
    exact first.trans (inductionHypothesis askedRest)

/-- A pass of one of the handlers by itself, with any tracker, makes another store of a store. -/
def Again (handlers : ι → Handler) (before after : MemoryStore) : Prop :=
  ∃ party tracker journal statuses listens,
    ((Surroundings.quiet before journal statuses).runProgram listens
      ((handlers party).handle.outcome tracker)).2.store? = some after

theorem run_alone (handler : Handler) (store : MemoryStore) (tracker : Tracker) (journal : Journal)
    (statuses : StatusTable) (listens : Bool) :
    let ran := (Surroundings.quiet store journal statuses).runProgram listens
      (handler.handle.outcome tracker)
    ran.1.1 = handler.undisturbed store tracker ∧
      ran.2.store? = some (handler.storeAfterAll store handler.hosts) := by
  intro ran
  obtain ⟨final, stored, handled⟩ := Surroundings.post_runProgram_quiet
    (keeps_handle handler store tracker) journal statuses listens
  obtain ⟨outcome, written⟩ := undisturbed_of_handled handled
  exact ⟨outcome, written ▸ stored⟩

theorem deployed_of_again (again : Relation.ReflTransGen (Again handlers) store later) :
    Deployed handlers store later := by
  induction again with
  | refl => exact .refl
  | tail _ next inductionHypothesis =>
    obtain ⟨party, tracker, journal, statuses, listens, stored⟩ := next
    rw [(run_alone _ _ tracker journal statuses listens).2] at stored
    cases stored
    exact inductionHypothesis.trans (deployed_storeAfterAll (List.Subset.refl _))

/-! ## All passes -/

variable [DecidableEq ι]

/-- The passes of all handlers, before the first request of any of them is answered. -/
def begun (handlers : ι → Handler) (trackers : ι → Tracker) (store : MemoryStore) :
    Joint ι (Except Failure PassResult × Tracker) MemoryStore :=
  ⟨fun party => (handlers party).handle.outcome (trackers party), store⟩

/-- What passes of several handlers at the same time come to, in every order of their requests. -/
structure Together (handlers : ι → Handler) (trackers : ι → Tracker) (store : MemoryStore) :
    Prop where
  /-- Whatever is in the store at some moment stays as it is and where it is. -/
  kept : ∀ earlier later, Interleaved (fun _ => exact true) (begun handlers trackers store) earlier →
    Interleaved (fun _ => exact true) earlier later →
    earlier.state.objects <+: later.state.objects
  /-- What has been added are overrides that were missing, none of them twice. Each is built from the
  first baseline in the store at the start, and the owner of one handler is on it. -/
  made : ∀ later, Interleaved (fun _ => exact true) (begun handlers trackers store) later →
    ∃ made, later.state.objects = store.objects ++ made ∧ Made handlers store made
  /-- The requests come to an end. -/
  ends : ¬ ∃ moments : Nat → Joint ι (Except Failure PassResult × Tracker) MemoryStore,
    moments 0 = begun handlers trackers store ∧
    ∀ n, ∃ party, Turn (fun _ => exact true) party (moments n) (moments (n + 1))
  /-- When no request is left, each pass has ended as it would have without the others, or because an
  override that it wanted to create was there by then. -/
  outcomes : ∀ last, Interleaved (fun _ => exact true) (begun handlers trackers store) last →
    (¬ ∃ party next, Turn (fun _ => exact true) party last next) →
    ∀ party, ∃ outcome noted, last.programs party = .done (outcome, noted) ∧
      (handlers party).EndsAmong store (trackers party) outcome
  /-- Passes by themselves afterwards, one by one and of any of the handlers, find the hosts available
  that were so at the start. -/
  afterwards : ∀ last, Interleaved (fun _ => exact true) (begun handlers trackers store) last →
    ∀ later, Relation.ReflTransGen (Again handlers) last.state later →
    ∀ party tracker journal statuses listens,
      ((Surroundings.quiet later journal statuses).runProgram listens
        ((handlers party).handle.outcome tracker)).1.1 =
      (handlers party).undisturbed store tracker

theorem exists_answer (request : Request) (store : MemoryStore) :
    ∃ answer after, exact true request store answer after := by
  cases request with
  | store call => exact ⟨_, _, rfl, rfl⟩
  | log _ | record _ _ => exact ⟨.ok (), store, fun _ => rfl, rfl⟩
  | report _ | latest _ => exact ⟨.ok [], store, rfl⟩
  | interrupted => exact ⟨false, store, fun _ => rfl, rfl⟩

section Runs

variable {trackers : ι → Tracker}
  {earlier last : Joint ι (Except Failure PassResult × Tracker) MemoryStore}

/-- Every pass is on its way to one of the ends that it may come to. -/
def UnderWay (handlers : ι → Handler) (trackers : ι → Tracker) (store : MemoryStore)
    (joint : Joint ι (Except Failure PassResult × Tracker) MemoryStore) : Prop :=
  ∀ party, Coexists (Deployed handlers) (Deployed handlers) (exact true)
    (fun ended _ => (handlers party).EndsAmong store (trackers party) ended.1)
    (joint.programs party) joint.state

theorem UnderWay.of_interleaved (underWay : UnderWay handlers trackers store earlier)
    (run : Interleaved (fun _ => exact true) earlier last) :
    Deployed handlers earlier.state last.state ∧ UnderWay handlers trackers store last := by
  obtain ⟨moves, underWayThen⟩ := (accord_deployed handlers).coexists_of_interleaved underWay run
  have deployed : ∀ {state}, Relation.ReflTransGen
      (fun store later => ∃ _ : ι, Deployed handlers store later) earlier.state state →
      Deployed handlers earlier.state state := by
    intro state moves
    induction moves with
    | refl => exact .refl
    | tail _ next inductionHypothesis =>
      obtain ⟨_, deployed⟩ := next
      exact inductionHypothesis.trans deployed
  exact ⟨deployed moves, underWayThen⟩

theorem UnderWay.ended (underWay : UnderWay handlers trackers store last)
    (stuck : ¬ ∃ party next, Turn (fun _ => exact true) party last next) (party : ι) :
    ∃ outcome noted, last.programs party = .done (outcome, noted) ∧
      (handlers party).EndsAmong store (trackers party) outcome := by
  obtain finished | turn := done_or_turn (fun _ => exists_answer) last
  · obtain ⟨⟨outcome, noted⟩, ended⟩ := finished party
    refine ⟨outcome, noted, ended, ?_⟩
    have coexists := underWay party
    rw [ended] at coexists
    exact coexists last.state .refl
  · exact absurd turn stuck

end Runs

/-- Handlers of one template, with any owners and hosts, make a pass at the same time, in any store and
with any trackers. -/
theorem handle_together [Fintype ι] (handlers : ι → Handler) (trackers : ι → Tracker)
    (template : Template) (alike : ∀ party, (handlers party).template = template)
    (store : MemoryStore) : Together handlers trackers store := by
  have alikeFor : ∀ party other, (handlers other).template = (handlers party).template :=
    fun party other => (alike other).trans (alike party).symm
  have underWay : UnderWay handlers trackers store (begun handlers trackers store) :=
    fun party => coexists_handle (alikeFor party) (trackers party)
  refine ⟨fun earlier later run onward => ?_, fun later run => ?_, ?_, fun last run stuck => ?_,
    fun last run later again party tracker journal statuses listens => ?_⟩
  · exact ((underWay.of_interleaved run).2.of_interleaved onward).1.keeps_objects
  · exact Deployed.made alike (underWay.of_interleaved run).1
  · rintro ⟨moments, -, turns⟩
    exact not_endless moments turns
  · exact (underWay.of_interleaved run).2.ended stuck
  · have deployed : Deployed handlers store later :=
      (underWay.of_interleaved run).1.trans (deployed_of_again again)
    have same := Deployed.available_eq (alikeFor party) deployed
    exact (run_alone _ later tracker journal statuses listens).1.trans (undisturbed_congr same)

/-! ## Two shops

Both handlers find the override of the cart missing and its baseline in place. The first one creates
the override, so the second one collides with it. -/

def ofShops : Bool → Handler
  | false => { ofShop with hosts := ["cart"] }
  | true => { ofShop with owner := ⟨"team", "api"⟩, hosts := ["cart"] }

theorem interleaved_ofShops : Interleaved (fun _ => exact true)
    (begun ofShops (fun _ => .empty) shopStore)
    ⟨both (.done (.ok ⟨["cart"], []⟩, ⟨["cart"], []⟩))
      (.done (.error ((ofShops true).collision "cart"), .empty)),
      ofShop.storeAfter shopStore "cart"⟩ := by
  have start : begun ofShops (fun _ => .empty) shopStore =
      ⟨both ((ofShops false).handle.outcome .empty) ((ofShops true).handle.outcome .empty),
        shopStore⟩ := by
    rw [begun, Joint.mk.injEq]
    refine ⟨?_, rfl⟩
    funext party
    cases party <;> rfl
  rw [start]
  exact
    .first false ⟨fun _ => rfl, rfl⟩ <|
    .first (.error (.notFound "prod/blue-cart")) ⟨rfl, rfl⟩ <|
    .first (.ok ()) ⟨fun _ => rfl, rfl⟩ <|
    .first false ⟨fun _ => rfl, rfl⟩ <|
    .first (.ok (shopStore.inNamespace "prod")) ⟨rfl, rfl⟩ <|
    .second false ⟨fun _ => rfl, rfl⟩ <|
    .second (.error (.notFound "prod/blue-cart")) ⟨rfl, rfl⟩ <|
    .second (.ok ()) ⟨fun _ => rfl, rfl⟩ <|
    .second false ⟨fun _ => rfl, rfl⟩ <|
    .second (.ok (shopStore.inNamespace "prod")) ⟨rfl, rfl⟩ <|
    .first (.ok ()) ⟨fun _ => rfl, rfl⟩ <|
    .first false ⟨fun _ => rfl, rfl⟩ <|
    .first (.ok ()) ⟨rfl, rfl⟩ <|
    .second (.ok ()) ⟨fun _ => rfl, rfl⟩ <|
    .second false ⟨fun _ => rfl, rfl⟩ <|
    .second (.error (.alreadyExists "prod/blue-cart")) ⟨rfl, rfl⟩ <|
    .refl

theorem handle_together_colliding :
    (∀ party, (ofShops party).template = ofShop.template) ∧
    Interleaved (fun _ => exact true) (begun ofShops (fun _ => .empty) shopStore)
      ⟨both (.done (.ok ⟨["cart"], []⟩, ⟨["cart"], []⟩))
        (.done (.error ((ofShops true).collision "cart"), .empty)),
        ofShop.storeAfter shopStore "cart"⟩ ∧
    Together ofShops (fun _ => .empty) shopStore := by
  have alike : ∀ party, (ofShops party).template = ofShop.template := by
    rintro (_ | _) <;> rfl
  exact ⟨alike, interleaved_ofShops,
    handle_together ofShops (fun _ => .empty) ofShop.template alike shopStore⟩

end RouteOverrides.Handler
