import Mathlib.Data.List.Basic
import RouteOverrides.Proofs.Handler.Pass

/-! # From host to host

Passes and reports see to one host after the other, and all their requests are made for the host that they
are at. So what holds of them is shown request by request: each one leaves a handler at work for its host,
or ends the whole operation.

* `EitherWay` — what holds when an action goes through, and what when it fails.
* `Action.Abides`, `Pass.Abides` — actions that go on with what they start with, or fail.
* `Handler.abides_handle` — what every visit abides by, a pass abides by.
* `Handler.Walk` — what is to be shown of the requests for a host.
* `Handler.Walk.visitAll`, `Handler.Walk.statusesOf` — what follows for all hosts.
-/

namespace RouteOverrides

open Program

variable {α β σ : Type} {rules : Rules σ} {promise : Request → σ → Prop} {during rests : σ → Prop}
  {fails : Failure → σ → Prop}

/-- An action goes through with one thing, or it fails with another. -/
def EitherWay (during : σ → Prop) (fails : Failure → σ → Prop) : Except Failure α → σ → Prop
  | .ok _, state => during state
  | .error failure, state => fails failure state

theorem EitherWay.imp {duringThen : σ → Prop} {failsThen : Failure → σ → Prop}
    {result : Except Failure α} {state : σ} (ended : EitherWay during fails result state)
    (goes : during state → duringThen state)
    (fail : ∀ failure, fails failure state → failsThen failure state) :
    EitherWay duringThen failsThen result state := by
  cases result with
  | ok value => exact goes ended
  | error failure => exact fail failure ended

/-- Where an action starts, it goes through, or it fails. -/
def Action.Abides (rules : Rules σ) (promise : Request → σ → Prop) (during : σ → Prop)
    (fails : Failure → σ → Prop) (action : Action α) : Prop :=
  ∀ state, during state → Keeps rules promise (EitherWay during fails) action.run state

def Pass.Abides (rules : Rules σ) (promise : Request → σ → Prop) (during : σ → Prop)
    (fails : Failure → σ → Prop) (pass : Pass α) : Prop :=
  ∀ tracker state, during state →
    Keeps rules promise (fun ended => EitherWay during fails ended.1) (pass.outcome tracker) state

theorem Program.keeps_bind_of_eitherWay {action : Action α} {next : α → Action β} {state : σ}
    (first : Keeps rules promise (EitherWay during fails) action.run state)
    (onward : ∀ value later, during later →
      Keeps rules promise (EitherWay rests fails) (next value).run later) :
    Keeps rules promise (EitherWay rests fails) (action >>= next).run state := by
  refine keeps_run_bind.2 (first.mono fun result later ended => ?_)
  cases result with
  | ok value => exact onward value later ended
  | error failure => exact ended

theorem Action.Abides.bind {action : Action α} {next : α → Action β}
    (abides : action.Abides rules promise during fails)
    (onward : ∀ value, (next value).Abides rules promise during fails) :
    (action >>= next).Abides rules promise during fails :=
  fun _ start => keeps_bind_of_eitherWay (abides _ start) fun value _ => onward value _

theorem Action.abides_pure (value : α) :
    (pure value : Action α).Abides rules promise during fails := fun _ start => start

namespace Pass

theorem Abides.bind {pass : Pass α} {next : α → Pass β}
    (abides : pass.Abides rules promise during fails)
    (onward : ∀ value, (next value).Abides rules promise during fails) :
    (pass >>= next).Abides rules promise during fails := by
  intro tracker state start
  refine Pass.keeps_bind.2 ((abides tracker state start).mono ?_)
  rintro ⟨result, noted⟩ later ended
  cases result with
  | ok value => exact onward value noted later ended
  | error failure => exact ended

theorem abides_ofAction {action : Action α} (abides : action.Abides rules promise during fails) :
    (ofAction action).Abides rules promise during fails :=
  fun _ state start => Pass.keeps_ofAction.2 (abides state start)

theorem abides_note (change : Tracker → Tracker) :
    (note change).Abides rules promise during fails := fun _ _ start => start

theorem abides_tracker : Pass.tracker.Abides rules promise during fails := fun _ _ start => start

theorem abides_pure (value : α) :
    (pure value : Pass α).Abides rules promise during fails := fun _ _ start => start

end Pass

namespace Handler

theorem abides_visitAll {handler : Handler}
    (visits : ∀ host, (handler.visit host).Abides rules promise during fails) (hosts : List String) :
    (handler.visitAll hosts).Abides rules promise during fails := by
  induction hosts with
  | nil => exact Pass.abides_pure ()
  | cons host rest inductionHypothesis => exact (visits host).bind fun _ => inductionHypothesis

theorem abides_handle {handler : Handler}
    (visits : ∀ host, (handler.visit host).Abides rules promise during fails)
    (logs : ∀ entry, (Action.log entry).Abides rules promise during fails)
    (raises : ∀ failure state, during state → fails failure state) :
    handler.handle.Abides rules promise during fails := by
  refine (Pass.abides_note _).bind fun _ => (abides_visitAll visits _).bind fun _ => ?_
  refine Pass.abides_tracker.bind fun _ => ?_
  split
  · exact (Pass.abides_ofAction (logs _)).bind fun _ _ state start => raises _ state start
  · exact Pass.abides_pure _

/-- What is to be shown of the requests that a handler makes for a host. Between two hosts the handler
`rests`; it is at work for a host once it has looked for its override. -/
structure Walk (rules : Rules σ) (promise : Request → σ → Prop) (rests : σ → Prop)
    (during : String → σ → Prop) (fails : String → Failure → σ → Prop) (handler : Handler) :
    Prop where
  looks : ∀ host state, rests state →
    Keeps rules promise (EitherWay (during host) (fails host)) (handler.present host).run state
  leaves : ∀ host state, during host state → rests state
  checks : ∀ host, Action.checkInterrupted.Abides rules promise (during host) (fails host)
  logs : ∀ host entry, (Action.log entry).Abides rules promise (during host) (fails host)
  records : ∀ host, (Action.blaming host "record initializing status" <| Action.record
    handler.uniqueName ⟨handler.nameFor host, handler.ns, .initializing⟩).Abides rules promise
      (during host) (fails host)
  lists : ∀ host, (Action.blaming host "list routing objects" <|
    Action.call (.list handler.ns)).Abides rules promise (during host) (fails host)
  creates : ∀ host object, (Action.blaming host ("create routing object " ++ handler.nameFor host) <|
    Action.call (.create object)).Abides rules promise (during host) (fails host)

namespace Walk

variable {during : String → σ → Prop} {fails : String → Failure → σ → Prop} {handler : Handler}
  {host : String}

theorem generate (walk : handler.Walk rules promise rests during fails) (host : String) :
    (handler.template.generate host).Abides rules promise (during host) (fails host) := by
  have located : (handler.lookup.locate host).Abides rules promise (during host) (fails host) := by
    refine (walk.checks host).bind fun _ => (walk.lists host).bind fun objects => ?_
    split
    · exact Action.abides_pure _
    · exact (walk.logs host _).bind fun _ => Action.abides_pure _
  exact located.bind fun _ => Action.abides_pure _

theorem createMissing (walk : handler.Walk rules promise rests during fails) (host : String) :
    (handler.createMissing host).Abides rules promise (during host) (fails host) := by
  refine (Pass.abides_ofAction (walk.records host)).bind fun _ => ?_
  refine (Pass.abides_ofAction (walk.generate host)).bind fun generated => ?_
  cases generated with
  | none =>
    refine Pass.abides_tracker.bind fun noted => (Pass.abides_note _).bind fun _ => ?_
    split
    · exact Pass.abides_ofAction (walk.logs host _)
    · exact Pass.abides_pure _
  | some object =>
    refine (Pass.abides_ofAction (walk.logs host _)).bind fun _ => ?_
    refine (Pass.abides_ofAction (walk.checks host)).bind fun _ => ?_
    exact (Pass.abides_ofAction (walk.creates host _)).bind fun _ => Pass.abides_note _

theorem visit (walk : handler.Walk rules promise rests during fails) (host : String)
    (tracker : Tracker) {state : σ} (start : rests state) :
    Keeps rules promise (fun ended => EitherWay (during host) (fails host) ended.1)
      ((handler.visit host).outcome tracker) state := by
  refine Pass.keeps_ofAction_bind.2 ((walk.looks host state start).mono fun result later ended => ?_)
  cases result with
  | error failure => exact ended
  | ok present =>
    cases present with
    | true => exact ended
    | false => exact walk.createMissing host tracker later ended

theorem visitAll (walk : handler.Walk rules promise rests during fails) (hosts : List String)
    (tracker : Tracker) {state : σ} (start : rests state) :
    Keeps rules promise
      (fun ended => EitherWay rests (fun failure state => ∃ host ∈ hosts, fails host failure state)
        ended.1)
      ((handler.visitAll hosts).outcome tracker) state := by
  induction hosts generalizing tracker state with
  | nil => exact start
  | cons host rest inductionHypothesis =>
    refine Pass.keeps_bind.2 ((walk.visit host tracker start).mono ?_)
    rintro ⟨result, noted⟩ later ended
    cases result with
    | error failure => exact ⟨host, List.mem_cons_self, ended⟩
    | ok _ =>
      exact (inductionHypothesis noted (walk.leaves host later ended)).mono fun _ _ ended =>
        ended.imp id fun _ => List.exists_mem_cons_of_exists

theorem statusesOf (walk : handler.Walk rules promise rests during fails) (ignored hosts : List String)
    {state : σ} (start : rests state) :
    Keeps rules promise
      (EitherWay rests fun failure state => ∃ host ∈ hosts, fails host failure state)
      (handler.statusesOf ignored hosts).run state := by
  induction hosts generalizing state with
  | nil => exact start
  | cons host rest inductionHypothesis =>
    have here : Keeps rules promise
        (EitherWay rests fun failure state => ∃ other ∈ host :: rest, fails other failure state)
        (handler.present host).run state :=
      (walk.looks host state start).mono fun _ _ ended =>
        ended.imp (walk.leaves host _) fun _ failed => ⟨host, List.mem_cons_self, failed⟩
    refine keeps_bind_of_eitherWay here fun _ later restsLater => ?_
    refine keeps_bind_of_eitherWay ((inductionHypothesis restsLater).mono fun _ _ ended =>
      ended.imp id fun _ => List.exists_mem_cons_of_exists) fun _ _ restsAfter => restsAfter

end Walk

end Handler

end RouteOverrides
