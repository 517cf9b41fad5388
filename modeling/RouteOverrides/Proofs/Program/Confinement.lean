import RouteOverrides.Override.Handler
import RouteOverrides.Proofs.Program.Conduct

/-! # Programs that make requests of one kind

Some things are known of a program whatever it is answered: of which kind its requests are, and of which
kind its results. What requests of a kind leave alone, the program leaves alone.

* `Program.Confined` — requests and results of a given kind. `Program.Confined.bind` cuts a program into
  steps, as `Action.Confined.bind` and `Pass.Confined.bind` do.
* `Program.Keeps.holds_of_reaches` — an invariant of all promised requests holds throughout a run;
  `Program.Confined.holds_of_reaches` is the same for requests of a kind.
* `Request.Reads` — the requests that write nothing.
-/

namespace RouteOverrides

variable {α β σ τ : Type} {kind wider : Request → Prop}

/-- A request that writes neither to the store nor to the database. -/
def Request.Reads : Request → Prop
  | .store (.get _ _) | .store (.list _) | .report _ | .latest _ | .interrupted => True
  | .store (.create _) | .store (.update _) | .log _ | .record _ _ => False

theorem Request.reads_get (ns name : String) : Request.Reads (.store (.get ns name)) := trivial

theorem Request.reads_list (ns : String) : Request.Reads (.store (.list ns)) := trivial

namespace Program

variable {rules : Rules σ} {promise : Request → σ → Prop} {inv : σ → Prop} {good : α → Prop}
  {program left : Program α} {state final : σ}

/-- An invariant that no promised request breaks. -/
theorem Keeps.holds_of_reaches {post : α → σ → Prop} (keeps : Keeps rules promise post program state)
    (step : ∀ request state answer after, promise request state →
      rules request state answer after → inv state → inv after)
    (holds : inv state) (reached : Reaches rules program state left final) : inv final := by
  induction reached with
  | here => exact holds
  | answered answer allowed _ inductionHypothesis =>
    exact inductionHypothesis (keeps.2 answer _ allowed) (step _ _ answer _ keeps.1 allowed holds)

/-- A run under rules, as one in states of which less is known. -/
theorem Reaches.map {rulesToo : Rules τ} {view : σ → τ}
    (seen : ∀ request state answer after, rules request state answer after →
      rulesToo request (view state) answer (view after))
    (reached : Reaches rules program state left final) :
    Reaches rulesToo program (view state) left (view final) := by
  induction reached with
  | here => exact .here
  | answered answer allowed _ inductionHypothesis =>
    exact .answered answer (seen _ _ answer _ allowed) inductionHypothesis

/-- Whatever a program is answered, its requests are of one kind and its results are good. -/
def Confined (kind : Request → Prop) (good : α → Prop) : Program α → Prop
  | .done result => good result
  | .ask request next => kind request ∧ ∀ answer, Confined kind good (next answer)

theorem confined_any (program : Program α) : Confined (fun _ => True) (fun _ => True) program := by
  induction program with
  | done result => trivial
  | ask request next inductionHypothesis => exact ⟨trivial, inductionHypothesis⟩

namespace Confined

theorem mono {weaker : α → Prop} (confined : Confined kind good program)
    (widen : ∀ request, kind request → wider request)
    (weaken : ∀ result, good result → weaker result) : Confined wider weaker program := by
  induction program with
  | done result => exact weaken result confined
  | ask request next inductionHypothesis =>
    exact ⟨widen request confined.1, fun answer => inductionHypothesis answer (confined.2 answer)⟩

theorem bind {next : α → Program β} {goodAfter : β → Prop} (confined : Confined kind good program)
    (onward : ∀ result, good result → Confined kind goodAfter (next result)) :
    Confined kind goodAfter (program >>= next) := by
  induction program with
  | done result => exact onward result confined
  | ask request rest inductionHypothesis =>
    exact ⟨confined.1, fun answer => inductionHypothesis answer (confined.2 answer)⟩

theorem keeps (confined : Confined kind good program) (rules : Rules σ) (state : σ) :
    Keeps rules (fun request _ => kind request) (fun result _ => good result) program state := by
  induction program generalizing state with
  | done result => exact confined
  | ask request next inductionHypothesis =>
    exact ⟨confined.1, fun answer after _ => inductionHypothesis answer (confined.2 answer) after⟩

/-- An invariant that no request of the kind breaks holds at every end. -/
theorem keeps_holding (confined : Confined kind good program)
    (step : ∀ request state answer after, kind request →
      rules request state answer after → inv state → inv after)
    (holds : inv state) :
    Keeps rules (fun _ _ => True) (fun result after => good result ∧ inv after) program state := by
  induction program generalizing state with
  | done result => exact ⟨confined, holds⟩
  | ask request next inductionHypothesis =>
    exact ⟨trivial, fun answer after allowed => inductionHypothesis answer (confined.2 answer)
      (step request state answer after confined.1 allowed holds)⟩

theorem holds_of_reaches (confined : Confined kind good program)
    (step : ∀ request state answer after, kind request →
      rules request state answer after → inv state → inv after)
    (holds : inv state) (reached : Reaches rules program state left final) : inv final :=
  (confined.keeps rules state).holds_of_reaches step holds reached

theorem good_of_reaches {result : α} (confined : Confined kind good program)
    (reached : Reaches rules program state (.done result) final) : good result :=
  (confined.keeps rules state).post_of_reaches reached

theorem good_run (confined : Confined kind good program)
    (answer : (request : Request) → σ → request.Answer × σ) (state : σ) :
    good (run answer program state).1 :=
  have reached : Reaches (fun _ _ _ _ => True) program state
      (.done (run answer program state).1) (run answer program state).2 :=
    reaches_run (fun _ _ => trivial) program state
  confined.good_of_reaches reached

end Confined

end Program

/-! ## Actions -/

namespace Action

open Program

/-- Whatever an action is answered, its requests are of one kind. -/
def Confined (kind : Request → Prop) (action : Action α) : Prop :=
  Program.Confined kind (fun _ => True) action.run

theorem confined_pure (value : α) : (pure value : Action α).Confined kind := trivial

theorem confined_throw (failure : Failure) : (throw failure : Action α).Confined kind := trivial

theorem confined_attempt {call : StoreCall} (isKind : kind (.store call)) :
    (Action.attempt call).Confined kind := ⟨isKind, fun _ => trivial⟩

theorem confined_call {call : StoreCall} (isKind : kind (.store call)) :
    (Action.call call).Confined kind := ⟨isKind, fun _ => trivial⟩

theorem confined_log {entry : Entry} (isKind : kind (.log entry)) :
    (Action.log entry).Confined kind := ⟨isKind, fun _ => trivial⟩

theorem confined_record {subset : String} {status : ResourceStatus}
    (isKind : kind (.record subset status)) : (Action.record subset status).Confined kind :=
  ⟨isKind, fun _ => trivial⟩

theorem confined_checkInterrupted (isKind : kind .interrupted) :
    Action.checkInterrupted.Confined kind := ⟨isKind, fun _ => trivial⟩

namespace Confined

variable {action : Action α}

theorem mono (confined : action.Confined kind)
    (widen : ∀ request, kind request → wider request) : action.Confined wider :=
  Program.Confined.mono confined widen fun _ => id

theorem bind {next : α → Action β} (confined : action.Confined kind)
    (onward : ∀ value, (next value).Confined kind) : (action >>= next).Confined kind := by
  rw [Confined, ExceptT.run_bind]
  refine Program.Confined.bind confined fun result _ => ?_
  cases result with
  | ok value => exact onward value
  | error failure => exact trivial

theorem blaming (confined : action.Confined kind) (host operation : String) :
    (Action.blaming host operation action).Confined kind :=
  Program.Confined.bind confined fun result _ => by cases result <;> exact trivial

end Confined

end Action

/-! ## Passes -/

namespace Pass

open Program

/-- Whatever a pass is answered, its requests are of one kind. -/
def Confined (kind : Request → Prop) (pass : Pass α) : Prop :=
  ∀ tracker, Program.Confined kind (fun _ => True) (pass.outcome tracker)

theorem confined_pure (value : α) : (pure value : Pass α).Confined kind := fun _ => trivial

theorem confined_throw (failure : Failure) : (throw failure : Pass α).Confined kind :=
  fun _ => trivial

theorem confined_note (change : Tracker → Tracker) : (note change).Confined kind := fun _ => trivial

theorem confined_tracker : Pass.tracker.Confined kind := fun _ => trivial

theorem confined_ofAction {action : Action α} (confined : action.Confined kind) :
    (ofAction action).Confined kind := fun _ =>
  Program.Confined.bind confined fun _ _ => trivial

theorem Confined.bind {pass : Pass α} {next : α → Pass β} (confined : pass.Confined kind)
    (onward : ∀ value, (next value).Confined kind) : (pass >>= next).Confined kind := by
  intro tracker
  refine Program.Confined.bind (confined tracker) ?_
  rintro ⟨result, noted⟩ -
  cases result with
  | ok value => exact onward value noted
  | error failure => exact trivial

/-- What an action of a pass may come to decides what comes next. -/
theorem confined_ofAction_bind {action : Action α} {next : α → Pass β}
    (confined : Program.Confined kind
      (fun result => ∀ value, result = .ok value → (next value).Confined kind) action.run) :
    (ofAction action >>= next).Confined kind := by
  intro tracker
  have ended : Program.Confined kind
      (fun ended => ∀ value, ended.1 = .ok value → (next value).Confined kind)
      ((ofAction action).outcome tracker) :=
    Program.Confined.bind confined fun result onward => onward
  refine Program.Confined.bind ended ?_
  rintro ⟨result, noted⟩ onward
  cases result with
  | ok value => exact onward value rfl noted
  | error failure => exact trivial

end Pass

end RouteOverrides
