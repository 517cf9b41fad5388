import RouteOverrides.Proofs.Handler.Visit
import RouteOverrides.Proofs.Program.Likeness
import RouteOverrides.Proofs.Release.Attempt

/-! # Handlers do not look at revisions

A handler reads objects and never looks at their revisions; a release hands them back with the object,
and changes nothing but the annotation. So all that handlers do is the same over two stores whose objects
differ in their revisions only.

* `Handler.steady_handle`, `Handler.steady_statusesOf`, `Release.steady_forHosts` — passes, reports and
  releases.
-/

namespace RouteOverrides

open RouteOverrides.Action

variable {twins : Twins} {object other : RoutingObject}

/-! ## Baselines -/

theorem Twins.accepts (read : twins.related object other) (lookup : Lookup) (host : String) :
    lookup.accepts host other = lookup.accepts host object := by
  rw [twins.same read]
  rfl

theorem Template.object_of_twins (read : twins.related object other) (template : Template)
    (host : String) : template.object host other = template.object host object := by
  rw [twins.same read]
  rfl

theorem Lookup.alike_locate (lookup : Lookup) (host : String) :
    Action.Alike (fun twins => Option.Rel twins.related) twins (lookup.locate host)
      (lookup.locate host) := by
  refine (steady_checkInterrupted twins).bind fun more _ _ _ _ => ?_
  refine ((alike_list lookup.ns).blaming host "list routing objects").bind
    fun most _ objects others listed => ?_
  have found := forall₂_find? listed fun _ _ read => (Twins.accepts read lookup host).symm
  generalize objects.find? (lookup.accepts host) = located at found ⊢
  generalize others.find? (lookup.accepts host) = locatedOther at found ⊢
  cases found with
  | some read => exact alike_pure (.some read)
  | none =>
    exact (steady_log _ most).bind fun _ _ _ _ _ => alike_pure .none

/-- An override is built without annotations. -/
theorem Template.alike_generate (template : Template) (host : String) :
    Action.Alike (fun _ generated other => generated = other ∧
        ∀ object, generated = some object → object.annotations = []) twins
      (template.generate host) (template.generate host) := by
  refine (template.lookup.alike_locate host).bind fun more _ located locatedOther found => ?_
  cases found with
  | none => exact alike_pure ⟨rfl, nofun⟩
  | some read =>
    refine alike_pure ⟨congrArg some (Template.object_of_twins read template host).symm, ?_⟩
    rintro _ ⟨⟩
    rfl

namespace Handler

variable (handler : Handler) (host : String)

theorem steady_present : (handler.present host).Steady := by
  intro twins
  refine (steady_checkInterrupted twins).bind fun more _ _ _ _ => ?_
  refine (alike_attempt_get handler.ns (handler.nameFor host)).bind fun _ _ reply replyOther same => ?_
  cases same with
  | ok _ => exact alike_pure rfl
  | @error failure failureOther same =>
    cases same with
    | refl failure =>
      cases failure with
      | notFound detail => exact alike_pure rfl
      | _ => exact alike_throw (.refl _)
    | conflict detail other => exact alike_throw (.atStore _ _ (.conflict detail other))
    | atStore _ _ causes => exact alike_throw (.atStore _ _ (.atStore _ _ causes))

/-- The owner's annotation is the only one of a new override. -/
theorem distinct_addOwner {object : RoutingObject} (bare : object.annotations = []) (key : String)
    (owner : Owner) : (Keyed.keys (object.addOwner key owner).2.annotations).Nodup := by
  rw [RoutingObject.addOwner, RoutingObject.change]
  split
  · rw [RoutingObject.withOwners, bare]
    exact List.nodup_singleton key
  · rw [bare]
    exact List.nodup_nil

theorem steady_createMissing : (handler.createMissing host).Steady := by
  refine (Pass.steady_ofAction fun twins => (steady_record _ _ twins).blaming _ _).bind fun _ => ?_
  refine (Pass.gives_ofAction fun _ => handler.template.alike_generate host).bind
    fun generated bare => ?_
  cases generated with
  | none =>
    refine Pass.steady_tracker.bind fun tracker => (Pass.steady_note _).bind fun _ => ?_
    split
    · exact Pass.steady_ofAction (steady_log _)
    · exact Pass.steady_pure ()
  | some object =>
    have distinct := distinct_addOwner (bare object rfl) handler.key handler.owner
    refine (Pass.steady_ofAction (steady_log _)).bind fun _ => ?_
    refine (Pass.steady_ofAction steady_checkInterrupted).bind fun _ => ?_
    exact (Pass.steady_ofAction fun twins => (steady_create distinct twins).blaming _ _).bind
      fun _ => Pass.steady_note _

theorem steady_visit : (handler.visit host).Steady := by
  refine (Pass.steady_ofAction (handler.steady_present host)).bind fun held => ?_
  cases held with
  | true => exact Pass.steady_note _
  | false => exact handler.steady_createMissing host

theorem steady_visitAll (hosts : List String) : (handler.visitAll hosts).Steady := by
  induction hosts with
  | nil => exact Pass.steady_pure ()
  | cons host rest inductionHypothesis =>
    exact (handler.steady_visit host).bind fun _ => inductionHypothesis

theorem steady_handle : handler.handle.Steady := by
  refine (Pass.steady_note _).bind fun _ => ?_
  refine (handler.steady_visitAll _).bind fun _ => Pass.steady_tracker.bind fun tracker => ?_
  dsimp only
  split
  · exact (Pass.steady_ofAction (steady_log _)).bind fun _ => Pass.steady_throw _
  · exact Pass.steady_pure _

theorem steady_statusesOf (ignored hosts : List String) :
    (handler.statusesOf ignored hosts).Steady := by
  induction hosts with
  | nil => exact Action.steady_pure []
  | cons host rest inductionHypothesis =>
    exact (handler.steady_present host).bind fun _ => inductionHypothesis.bind fun _ =>
      Action.steady_pure _

end Handler

/-! ## Releases -/

namespace Release

variable {release : Release} {host name : String} {left : Nat}

theorem owners_of_twins (read : twins.related object other) (key : String) :
    other.owners key = object.owners key := by
  rw [twins.same read]
  rfl

theorem withoutOwner_of_twins (read : twins.related object other) (release : Release) :
    release.withoutOwner other =
      { other with annotations := (release.withoutOwner object).annotations } := by
  rw [twins.same read]
  rfl

theorem alike_writeBack (read : twins.related object other)
    (listed : release.owner ∈ (object.owners release.key).toList)
    (again : (release.one host name left).Steady) :
    Action.Alike (fun _ => Eq) twins (release.writeBack host name left object)
      (release.writeBack host name left other) := by
  have sameKeys : Keyed.keys (release.withoutOwner object).annotations =
      Keyed.keys object.annotations :=
    Keyed.keys_put_of_mem (RoutingObject.mem_keys_of_mem_owners listed) _
  have sameOwners : (release.withoutOwner other).owners release.key =
      (release.withoutOwner object).owners release.key := by
    rw [withoutOwner_of_twins read]
    rfl
  refine (steady_checkInterrupted twins).bind fun more grown _ _ _ => ?_
  rw [sameOwners, withoutOwner_of_twins read]
  refine (alike_attempt_update (grown _ _ read) _ sameKeys).bind fun most _ reply replyOther same => ?_
  cases same with
  | ok _ => exact (steady_log _ most).bind fun _ _ _ _ _ => alike_pure rfl
  | @error failure failureOther same =>
    have conflict : ∀ detail detailOther, Action.Alike (fun _ => Eq) most
        (if left = 0 then
          throw (.atStore host ("update routing object " ++ name) (.conflict detail))
        else do
          Action.log (release.conflictEntry host name)
          release.one host name left : Action Bool)
        (if left = 0 then
          throw (.atStore host ("update routing object " ++ name) (.conflict detailOther))
        else do
          Action.log (release.conflictEntry host name)
          release.one host name left) := by
      intro detail detailOther
      split
      · exact alike_throw (.atStore _ _ (.conflict detail detailOther))
      · exact (steady_log _ most).bind fun _ _ _ _ _ => again _
    cases same with
    | refl failure =>
      cases failure with
      | conflict detail => exact conflict detail detail
      | _ => exact alike_throw (.refl _)
    | conflict detail detailOther => exact conflict detail detailOther
    | atStore _ _ causes => exact alike_throw (.atStore _ _ (.atStore _ _ causes))

theorem steady_one (release : Release) (host name : String) (left : Nat) :
    (release.one host name left).Steady := by
  induction left with
  | zero => exact Action.steady_pure false
  | succ left inductionHypothesis =>
    intro twins
    rw [one_succ]
    refine (steady_checkInterrupted twins).bind fun more _ _ _ _ => ?_
    refine (alike_attempt_get release.ns name).bind fun most _ reply replyOther same => ?_
    cases same with
    | @ok object other same =>
      dsimp only
      rw [owners_of_twins same release.key]
      split
      · rename_i listed
        exact alike_writeBack same listed inductionHypothesis
      · exact alike_pure rfl
    | @error failure failureOther same =>
      cases same with
      | refl failure =>
        cases failure with
        | notFound detail => exact alike_pure rfl
        | _ => exact alike_throw (.refl _)
      | conflict detail other => exact alike_throw (.atStore _ _ (.conflict detail other))
      | atStore _ _ causes => exact alike_throw (.atStore _ _ (.atStore _ _ causes))

theorem steady_forHosts (release : Release) (hosts : List String) :
    (release.forHosts hosts).Steady := by
  induction hosts with
  | nil => exact Action.steady_pure []
  | cons host rest inductionHypothesis =>
    exact (release.steady_one host _ maxAttempts).bind fun _ =>
      inductionHypothesis.bind fun _ => Action.steady_pure _

end Release

end RouteOverrides
