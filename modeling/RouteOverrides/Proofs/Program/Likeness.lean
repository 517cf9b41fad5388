import Mathlib.Data.List.Forall2
import Mathlib.Order.Basic
import RouteOverrides.Override.Handler

/-! # Programs that cannot tell two stores apart

Two programs are alike if they make the same requests as long as they get the same answers, up to the
revisions of the objects that they read. Which objects differ by their revisions only is said by a
relation of twins, and more twins come up as the two stores are written. An object that is written back
must be a twin of its counterpart, apart from the values of its annotations.

* `Failure.Resembles` — failures of one kind; the text of a conflict is left open.
* `StoreCall.Alike`, `StoreCall.RepliesAlike` — calls with the same effect, and their replies.
* `Program.Alike` — programs that are alike; `Program.Alike.bind` cuts them into steps.
* `Action.Alike`, `Action.Steady` — actions that are alike, and actions that are alike to themselves.
* `Pass.Steady` — the same for passes.
-/

namespace RouteOverrides

/-- Which objects of one store stand for which objects of another one. They differ by their revisions
at most. -/
structure Twins where
  related : RoutingObject → RoutingObject → Prop
  same : ∀ {object other}, related object other → other = { object with revision := other.revision }

instance : Preorder Twins := Preorder.lift Twins.related

/-- Failures of one kind, at the same host and operation if they are failures at the store. -/
inductive Failure.Resembles : Failure → Failure → Prop where
  | refl (failure : Failure) : Resembles failure failure
  | conflict (detail other : String) : Resembles (.conflict detail) (.conflict other)
  | atStore (host operation : String) {cause other : Failure} (causes : Resembles cause other) :
      Resembles (.atStore host operation cause) (.atStore host operation other)

variable {α β γ δ : Type}

/-- Two outcomes with corresponding values, or with failures of one kind. -/
inductive Corresponds (good : α → β → Prop) : Except Failure α → Except Failure β → Prop where
  | ok {value : α} {other : β} (same : good value other) : Corresponds good (.ok value) (.ok other)
  | error {failure other : Failure} (same : failure.Resembles other) :
      Corresponds good (.error failure) (.error other)

theorem Corresponds.mono {good better : α → β → Prop} (weaken : ∀ value other,
    good value other → better value other) {result : Except Failure α} {other : Except Failure β}
    (corresponds : Corresponds good result other) : Corresponds better result other := by
  cases corresponds with
  | ok same => exact .ok (weaken _ _ same)
  | error same => exact .error same

namespace StoreCall

/-- Two calls that are to have the same effect. -/
inductive Alike (twins : Twins) : StoreCall → StoreCall → Prop where
  | get (ns name : String) : Alike twins (.get ns name) (.get ns name)
  | list (ns : String) : Alike twins (.list ns) (.list ns)
  | create (object : RoutingObject) (distinct : (Keyed.keys object.annotations).Nodup) :
      Alike twins (.create object) (.create object)
  /-- An object is written back with other values of its annotations. -/
  | update {object other : RoutingObject} (read : twins.related object other)
      (annotations : List (String × String))
      (same : Keyed.keys annotations = Keyed.keys object.annotations) :
      Alike twins (.update { object with annotations := annotations })
        (.update { other with annotations := annotations })

/-- Replies that say the same, up to revisions. -/
def RepliesAlike (twins : Twins) : (call other : StoreCall) →
    Except Failure call.Reply → Except Failure other.Reply → Prop
  | .get _ _, .get _ _, reply, other => Corresponds twins.related reply other
  | .list _, .list _, reply, other => Corresponds (List.Forall₂ twins.related) reply other
  | .create _, .create _, reply, other => Corresponds (fun _ _ => True) reply other
  | .update _, .update _, reply, other => Corresponds (fun _ _ => True) reply other
  | _, _, _, _ => False

theorem Alike.mono {twins more : Twins} (grown : twins ≤ more) {call other : StoreCall}
    (alike : call.Alike twins other) : call.Alike more other := by
  cases alike with
  | get ns name => exact .get ns name
  | list ns => exact .list ns
  | create object distinct => exact .create object distinct
  | update read annotations same => exact .update (grown _ _ read) annotations same

end StoreCall

theorem forall₂_find? {related : α → β → Prop} {xs : List α} {ys : List β}
    (listed : List.Forall₂ related xs ys) {accepts : α → Bool} {acceptsOther : β → Bool}
    (same : ∀ x y, related x y → accepts x = acceptsOther y) :
    Option.Rel related (xs.find? accepts) (ys.find? acceptsOther) := by
  induction listed with
  | nil => exact .none
  | @cons x y xs ys related _ inductionHypothesis =>
    rw [List.find?_cons, List.find?_cons, same x y related]
    cases acceptsOther y with
    | true => exact .some related
    | false => exact inductionHypothesis

/-! ## Programs -/

namespace Program

/-- Two programs make requests with the same effect as long as the replies of their stores say the same
and all other answers are equal, and their results are as the postcondition says. -/
inductive Alike (post : Twins → α → β → Prop) : Twins → Program α → Program β → Prop where
  | done {twins : Twins} {result : α} {other : β} (good : post twins result other) :
      Alike post twins (.done result) (.done other)
  | called {twins : Twins} {call callOther : StoreCall}
      {next : Except Failure call.Reply → Program α}
      {nextOther : Except Failure callOther.Reply → Program β}
      (calls : call.Alike twins callOther)
      (onward : ∀ more, twins ≤ more → ∀ reply replyOther,
        StoreCall.RepliesAlike more call callOther reply replyOther →
        Alike post more (next reply) (nextOther replyOther)) :
      Alike post twins (.ask (.store call) next) (.ask (.store callOther) nextOther)
  | heard {twins : Twins} {request : Request} {next : request.Answer → Program α}
      {nextOther : request.Answer → Program β} (aside : ∀ call, request ≠ .store call)
      (onward : ∀ more, twins ≤ more → ∀ answer,
        Alike post more (next answer) (nextOther answer)) :
      Alike post twins (.ask request next) (.ask request nextOther)

variable {twins more : Twins} {post : Twins → α → β → Prop} {after : Twins → γ → δ → Prop}
  {program : Program α} {other : Program β}

theorem Alike.bind {next : α → Program γ} {nextOther : β → Program δ}
    (alike : Alike post twins program other)
    (onward : ∀ more, twins ≤ more → ∀ result resultOther, post more result resultOther →
      Alike after more (next result) (nextOther resultOther)) :
    Alike after twins (program >>= next) (other >>= nextOther) := by
  induction alike with
  | done good => exact onward _ (le_refl _) _ _ good
  | called calls _ inductionHypothesis =>
    exact .called calls fun more grown reply replyOther same =>
      inductionHypothesis more grown reply replyOther same fun most grownOn =>
        onward most (le_trans grown grownOn)
  | heard aside _ inductionHypothesis =>
    exact .heard aside fun more grown answer =>
      inductionHypothesis more grown answer fun most grownOn => onward most (le_trans grown grownOn)

/-- More twins do no harm, if they do none to the postcondition. -/
theorem Alike.grown (stable : ∀ twins more, twins ≤ more → ∀ result other,
      post twins result other → post more result other)
    (alike : Alike post twins program other) (grown : twins ≤ more) :
    Alike post more program other := by
  cases alike with
  | done good => exact .done (stable _ _ grown _ _ good)
  | called calls onward =>
    exact .called (calls.mono grown) fun most grownOn => onward most (le_trans grown grownOn)
  | heard aside onward => exact .heard aside fun most grownOn => onward most (le_trans grown grownOn)

end Program

/-! ## Actions -/

namespace Action

variable {good : Twins → α → β → Prop} {goodAfter : Twins → γ → δ → Prop} {twins : Twins}
  {action : Action α} {other : Action β}

/-- Two actions are alike, and their values correspond if they do not fail. -/
abbrev Alike (good : Twins → α → β → Prop) (twins : Twins) (action : Action α) (other : Action β) :
    Prop :=
  Program.Alike (fun twins => Corresponds (good twins)) twins action.run other.run

/-- An action that does the same over any two stores. -/
def Steady (action : Action α) : Prop := ∀ twins, Alike (fun _ => Eq) twins action action

theorem alike_pure {value : α} {valueOther : β} (same : good twins value valueOther) :
    Alike good twins (pure value) (pure valueOther) := .done (.ok same)

theorem alike_throw {failure failureOther : Failure} (resembles : failure.Resembles failureOther) :
    Alike good twins (throw failure : Action α) (throw failureOther : Action β) :=
  .done (.error resembles)

theorem Alike.bind {next : α → Action γ} {nextOther : β → Action δ}
    (alike : Alike good twins action other)
    (onward : ∀ more, twins ≤ more → ∀ value valueOther, good more value valueOther →
      Alike goodAfter more (next value) (nextOther valueOther)) :
    Alike goodAfter twins (action >>= next) (other >>= nextOther) := by
  rw [Alike, ExceptT.run_bind, ExceptT.run_bind]
  refine Program.Alike.bind alike fun more grown result resultOther same => ?_
  cases same with
  | ok same => exact onward more grown _ _ same
  | error same => exact .done (.error same)

theorem Alike.blaming (alike : Alike good twins action other) (host operation : String) :
    Alike good twins (Action.blaming host operation action)
      (Action.blaming host operation other) := by
  refine Program.Alike.bind alike fun more _ result resultOther same => ?_
  cases same with
  | ok same => exact .done (.ok same)
  | error same => exact .done (.error (.atStore host operation same))

theorem Steady.bind {action : Action α} {next : α → Action γ} (steady : action.Steady)
    (onward : ∀ value, (next value).Steady) : (action >>= next).Steady := fun twins =>
  Alike.bind (steady twins) fun more _ value _ same => same ▸ onward value more

theorem steady_pure (value : α) : (pure value : Action α).Steady := fun _ => alike_pure rfl

theorem corresponds_refl (answer : Except Failure α) : Corresponds Eq answer answer := by
  cases answer with
  | ok value => exact .ok rfl
  | error failure => exact .error (.refl failure)

theorem steady_log (entry : Entry) : (Action.log entry).Steady := fun _ =>
  .heard nofun fun _ _ answer => .done (corresponds_refl answer)

theorem steady_record (subset : String) (status : ResourceStatus) :
    (Action.record subset status).Steady := fun _ =>
  .heard nofun fun _ _ answer => .done (corresponds_refl answer)

theorem steady_checkInterrupted : Action.checkInterrupted.Steady := fun _ =>
  .heard nofun fun _ _ _ => .done (corresponds_refl _)

theorem alike_list (ns : String) :
    Alike (fun twins => List.Forall₂ twins.related) twins (Action.call (.list ns))
      (Action.call (.list ns)) :=
  .called (.list ns) fun _ _ _ _ same => .done same

theorem steady_create {object : RoutingObject}
    (distinct : (Keyed.keys object.annotations).Nodup) : (Action.call (.create object)).Steady :=
  fun _ => .called (.create object distinct) fun _ _ _ _ same =>
    .done (Corresponds.mono (fun _ _ _ => rfl) same)

theorem alike_attempt_get (ns name : String) :
    Alike (fun twins => Corresponds twins.related) twins (Action.attempt (.get ns name))
      (Action.attempt (.get ns name)) :=
  .called (.get ns name) fun _ _ _ _ same => .done (.ok same)

theorem alike_attempt_update {object objectOther : RoutingObject}
    (read : twins.related object objectOther) (annotations : List (String × String))
    (same : Keyed.keys annotations = Keyed.keys object.annotations) :
    Alike (fun _ => Corresponds fun _ _ => True) twins
      (Action.attempt (.update { object with annotations := annotations }))
      (Action.attempt (.update { objectOther with annotations := annotations })) :=
  .called (.update read annotations same) fun _ _ _ _ same => .done (.ok same)

end Action

/-! ## Passes -/

namespace Pass

variable {action : Action α} {pass : Pass α}

/-- A pass that does the same over any two stores, with the same tracker in the end; and if it returns a
value, that value is `good`. -/
def Gives (good : α → Prop) (pass : Pass α) : Prop := ∀ twins tracker,
  Program.Alike (fun _ ended other =>
      Corresponds (fun value valueOther => value = valueOther ∧ good value) ended.1 other.1 ∧
        ended.2 = other.2) twins
    (pass.outcome tracker) (pass.outcome tracker)

abbrev Steady (pass : Pass α) : Prop := pass.Gives fun _ => True

theorem Gives.bind {good : α → Prop} {next : α → Pass β} (gives : pass.Gives good)
    (onward : ∀ value, good value → (next value).Steady) : (pass >>= next).Steady := by
  intro twins tracker
  refine Program.Alike.bind (gives twins tracker) fun more _ ended other same => ?_
  obtain ⟨result, noted⟩ := ended
  obtain ⟨resultOther, notedOther⟩ := other
  obtain ⟨sameResult, sameNoted⟩ := same
  cases sameNoted
  cases sameResult with
  | ok sameValue =>
    obtain ⟨rfl, isGood⟩ := sameValue
    exact onward _ isGood more noted
  | error same => exact .done ⟨.error same, rfl⟩

theorem Steady.bind {next : α → Pass β} (steady : pass.Steady)
    (onward : ∀ value, (next value).Steady) : (pass >>= next).Steady :=
  Gives.bind steady fun value _ => onward value

theorem steady_pure (value : α) : (pure value : Pass α).Steady := fun _ _ =>
  .done ⟨.ok ⟨rfl, trivial⟩, rfl⟩

theorem steady_throw (failure : Failure) : (throw failure : Pass α).Steady := fun _ _ =>
  .done ⟨.error (.refl failure), rfl⟩

theorem gives_ofAction {good : α → Prop} (alike : ∀ twins, Action.Alike
      (fun _ value other => value = other ∧ good value) twins action action) :
    (ofAction action).Gives good := fun twins _ =>
  Program.Alike.bind (alike twins) fun _ _ _ _ same => .done ⟨same, rfl⟩

theorem steady_ofAction (steady : action.Steady) : (ofAction action).Steady := fun twins _ =>
  Program.Alike.bind (steady twins) fun _ _ _ _ same =>
    .done ⟨same.mono fun _ _ equal => ⟨equal, trivial⟩, rfl⟩

theorem steady_note (change : Tracker → Tracker) : (note change).Steady := fun _ _ =>
  .done ⟨.ok ⟨rfl, trivial⟩, rfl⟩

theorem steady_tracker : Pass.tracker.Steady := fun _ _ => .done ⟨.ok ⟨rfl, trivial⟩, rfl⟩

end Pass

end RouteOverrides
