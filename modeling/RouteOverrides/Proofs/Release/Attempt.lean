import RouteOverrides.Override.Release
import RouteOverrides.Proofs.Owner.Recorded
import RouteOverrides.Proofs.Program.Conduct

/-! # One attempt at a release

An attempt reads an override and writes it back without the owner. Here it is cut at its two store
calls, for all rules at once: what remains to be shown is one case for each reply.

* `Release.keeps_one_succ` — up to the reply to reading; `Release.AfterRead` has its cases.
* `Release.keeps_writeBack` — up to the reply to writing; `Release.AfterWrite` has its cases.
* `Release.keeps_forHosts_cons` — the overrides of several hosts.
* `Release.Guarded` — promises about writes that need no more than the read before them;
  `Release.Guarded.keeps_forHosts` carries them through all attempts.
-/

namespace RouteOverrides.Release

open Program

/-- An object as it is written back: without the owner. -/
def withoutOwner (release : Release) (object : RoutingObject) : RoutingObject :=
  object.withOwners release.key ((object.owners release.key).erase release.owner)

/-- What is left of an attempt once an object was read that lists the owner. -/
def writeBack (release : Release) (host name : String) (left : Nat) (object : RoutingObject) :
    Action Bool := do
  Action.checkInterrupted
  match ← Action.attempt (.update (release.withoutOwner object)) with
  | .ok () =>
    Action.log (release.releasedEntry host name)
    pure ((release.withoutOwner object).owners release.key).toList.isEmpty
  | .error (.conflict detail) =>
    if left = 0 then
      throw (.atStore host ("update routing object " ++ name) (.conflict detail))
    else
      Action.log (release.conflictEntry host name)
      release.one host name left
  | .error failure => throw (.atStore host ("update routing object " ++ name) failure)

section Cases

variable {σ : Type} (rules : Rules σ) (promise : Request → σ → Prop)
  (post : Except Failure Bool → σ → Prop) (release : Release) (host name : String) (left : Nat)

/-- What remains to be shown after an attempt got the reply to reading. -/
def AfterRead : Except Failure RoutingObject → σ → Prop
  | .error (.notFound _), state => post (.ok false) state
  | .error failure, state =>
    post (.error (.atStore host ("get routing object " ++ name) failure)) state
  | .ok object, state =>
    if release.owner ∈ (object.owners release.key).toList then
      Keeps rules promise post (release.writeBack host name left object).run state
    else post (.ok false) state

/-- What remains to be shown after an attempt got the reply to writing. -/
def AfterWrite (object : RoutingObject) : Except Failure Unit → σ → Prop
  | .ok (), state => promise (.log (release.releasedEntry host name)) state ∧
      ∀ answer after, rules (.log (release.releasedEntry host name)) state answer after →
        post (answer.map fun _ =>
          ((release.withoutOwner object).owners release.key).toList.isEmpty) after
  | .error (.conflict detail), state =>
    if left = 0 then
      post (.error (.atStore host ("update routing object " ++ name) (.conflict detail))) state
    else promise (.log (release.conflictEntry host name)) state ∧
      ∀ answer after, rules (.log (release.conflictEntry host name)) state answer after →
        onward rules promise post (fun () => release.one host name left) answer after
  | .error failure, state =>
    post (.error (.atStore host ("update routing object " ++ name) failure)) state

end Cases

variable {σ : Type} {rules : Rules σ} {promise : Request → σ → Prop}
  {post : Except Failure Bool → σ → Prop} {release : Release} {host name : String} {left : Nat}
  {state : σ}

theorem toList_owners_withoutOwner (release : Release) (object : RoutingObject) :
    ((release.withoutOwner object).owners release.key).toList =
      (object.owners release.key).toList.erase release.owner :=
  RoutingObject.toList_owners_withOwners_erase object release.key release.owner

theorem one_succ (release : Release) (host name : String) (left : Nat) :
    release.one host name (left + 1) = (do
      Action.checkInterrupted
      match ← Action.attempt (.get release.ns name) with
      | .error (.notFound _) => pure false
      | .error failure => throw (.atStore host ("get routing object " ++ name) failure)
      | .ok object =>
        if release.owner ∈ (object.owners release.key).toList then
          release.writeBack host name left object
        else pure false) := by
  rw [one]
  congr 1
  funext _
  congr 1
  funext reply
  cases reply with
  | error failure => cases failure <;> rfl
  | ok object =>
    by_cases listed : release.owner ∈ (object.owners release.key).toList
    · dsimp only
      rw [RoutingObject.removeOwner_of_mem listed, if_pos listed, if_pos rfl, writeBack]
      congr 1
      funext _
      congr 1
      funext reply
      cases reply with
      | error failure => cases failure <;> rfl
      | ok _ => rfl
    · dsimp only
      rw [RoutingObject.removeOwner_of_not_mem listed, if_neg listed]
      rfl

theorem keeps_one_succ :
    Keeps rules promise post (release.one host name (left + 1)).run state ↔
      AtCall rules promise (.get release.ns name) (post (.error .interrupted))
        (release.AfterRead rules promise post host name left) state := by
  rw [one_succ, keeps_guarded]
  refine atCall_congr fun reply after => ?_
  cases reply with
  | error failure => cases failure <;> rfl
  | ok object =>
    dsimp only [AfterRead]
    split <;> rfl

theorem keeps_writeBack {object : RoutingObject} :
    Keeps rules promise post (release.writeBack host name left object).run state ↔
      AtCall rules promise (.update (release.withoutOwner object)) (post (.error .interrupted))
        (release.AfterWrite rules promise post host name left object) state := by
  rw [writeBack, keeps_guarded]
  refine atCall_congr fun reply after => ?_
  cases reply with
  | ok _ =>
    dsimp only [AfterWrite]
    rw [keeps_log]
    refine and_congr_right fun _ => forall_congr' fun answer => forall_congr' fun final =>
      imp_congr_right fun _ => ?_
    cases answer <;> rfl
  | error failure =>
    cases failure with
    | conflict detail =>
      dsimp only [AfterWrite]
      split
      · rfl
      · exact keeps_log
    | _ => rfl

theorem keeps_forHosts_cons {rest : List String} {post : Except Failure (List String) → σ → Prop} :
    Keeps rules promise post (release.forHosts (host :: rest)).run state ↔
      Keeps rules promise (onward rules promise post fun emptied => do
        let names ← release.forHosts rest
        pure (if emptied then overrideName release.uniqueName host :: names else names))
        (release.one host (overrideName release.uniqueName host) maxAttempts).run state := by
  rw [forHosts, keeps_run_bind]

/-! ## Promises about what was just read -/

/-- What is to be shown of the releases of some hosts that keep an invariant: they may read at any time, and
what they write is made from an object that was read right before and lists the owner. -/
structure Guarded (rules : Rules σ) (promise : Request → σ → Prop) (inv : σ → Prop)
    (release : Release) (hosts : List String) : Prop where
  kept : ∀ {request state answer after}, inv state → rules request state answer after → inv after
  checks : ∀ state, promise .interrupted state
  logs : ∀ entry state, promise (.log entry) state
  reads : ∀ host ∈ hosts, ∀ state, inv state →
    promise (.store (.get release.ns (overrideName release.uniqueName host))) state
  writes : ∀ host ∈ hosts, ∀ state object read ready, inv state →
    rules (.store (.get release.ns (overrideName release.uniqueName host))) state (.ok object) read →
    rules .interrupted read false ready → release.owner ∈ (object.owners release.key).toList →
    promise (.store (.update (release.withoutOwner object))) ready

namespace Guarded

variable {inv : σ → Prop} {hosts : List String}

theorem tail (guarded : Guarded rules promise inv release (host :: hosts)) :
    Guarded rules promise inv release hosts :=
  { guarded with
    reads := fun other member => guarded.reads other (List.mem_cons_of_mem _ member)
    writes := fun other member => guarded.writes other (List.mem_cons_of_mem _ member) }

theorem keeps_one (guarded : Guarded rules promise inv release hosts) (member : host ∈ hosts)
    (left : Nat) (holds : inv state) :
    Keeps rules promise (fun _ => inv)
      (release.one host (overrideName release.uniqueName host) left).run state := by
  -- On the attempts that are left. Each one reads anew, so all it needs of those before is the invariant.
  induction left generalizing state with
  | zero => exact holds
  | succ left inductionHypothesis =>
    refine keeps_one_succ.2 ⟨guarded.checks _, fun _ allowed => guarded.kept holds allowed,
      fun ready allowed => ?_⟩
    have holdsReady := guarded.kept holds allowed
    refine ⟨guarded.reads host member ready holdsReady, fun reply read answered => ?_⟩
    have holdsRead := guarded.kept holdsReady answered
    cases reply with
    | error failure => cases failure <;> exact holdsRead
    | ok object =>
      dsimp only [AfterRead]
      split
      · rename_i listed
        refine keeps_writeBack.2 ⟨guarded.checks _, fun _ allowed => guarded.kept holdsRead allowed,
          fun ready allowed => ?_⟩
        have holdsAgain := guarded.kept holdsRead allowed
        refine ⟨guarded.writes host member _ object read ready holdsReady answered allowed listed,
          fun reply after written => ?_⟩
        have holdsAfter := guarded.kept holdsAgain written
        cases reply with
        | ok _ => exact ⟨guarded.logs _ _, fun _ _ logged => guarded.kept holdsAfter logged⟩
        | error failure =>
          cases failure with
          | conflict detail =>
            dsimp only [AfterWrite]
            split
            · exact holdsAfter
            · refine ⟨guarded.logs _ _, fun answer final logged => ?_⟩
              have holdsFinal := guarded.kept holdsAfter logged
              cases answer with
              | ok _ => exact inductionHypothesis holdsFinal
              | error _ => exact holdsFinal
          | _ => exact holdsAfter
      · exact holdsRead

theorem keeps_forHosts (guarded : Guarded rules promise inv release hosts) (holds : inv state) :
    Keeps rules promise (fun _ => inv) (release.forHosts hosts).run state := by
  induction hosts generalizing state with
  | nil => exact holds
  | cons host rest inductionHypothesis =>
    refine keeps_forHosts_cons.2 ((guarded.keeps_one List.mem_cons_self _ holds).mono ?_)
    intro result after holdsAfter
    cases result with
    | error failure => exact holdsAfter
    | ok emptied =>
      refine keeps_run_bind.2 ((inductionHypothesis guarded.tail holdsAfter).mono ?_)
      intro names final holdsFinal
      cases names <;> exact holdsFinal

end Guarded

end RouteOverrides.Release
