import RouteOverrides.Override.Handler
import RouteOverrides.Proofs.Program.Conduct

/-! # The signal to stop

A program may be told to stop by a signal, at which it looks between its other requests. The signal may
be set at any time while a request is answered, and it is not taken back. Nothing is known of the
answers: a store call or a request to the database may get any reply, or fail in any way.

* `Program.signal` — these rules, and `Program.uncalled`: no signal, and no store call that is answered.
* `Program.Attentive` — every store call stands right behind a look at the signal. `Attentive.bind`
  cuts a program into steps, as `Action.Attentive.bind` and `Pass.Attentive.bind` do.
* `Program.Attentive.haltsFrom` — what is left of such a program when the signal is set makes no store
  call: it ends as it would have ended anyway, or as interrupted if it needs the store again.
-/

namespace RouteOverrides

variable {α β : Type}

/-- A request to the database. -/
def Request.Aside : Request → Prop
  | .store _ | .interrupted => False
  | .log _ | .record _ _ | .report _ | .latest _ => True

namespace Program

/-! ## Rules -/

/-- Any request may get any answer. The signal may be set while a request is answered, and is not taken
back; a program that looks at it sees it as it is. -/
def signal : Rules Bool
  | .interrupted, set, answer, later => answer = set ∧ later = set
  | _, set, _, later => set = true → later = true

/-- No signal is set. A store call is not answered, so that no run gets past it. -/
def uncalled : Rules Unit
  | .store _, _, _, _ => False
  | .interrupted, _, answer, _ => answer = false
  | _, _, _, _ => True

theorem signal_stays {request : Request} {answer : request.Answer} {later : Bool}
    (allowed : signal request true answer later) : later = true := by
  cases request with
  | interrupted => exact allowed.2
  | store _ | log _ | record _ _ | report _ | latest _ => exact allowed rfl

/-- Whatever is asked, there is an answer. -/
theorem signal_answers (request : Request) (set : Bool) :
    ∃ answer later, signal request set answer later := by
  cases request with
  | store call => exact ⟨.error .misread, set, id⟩
  | log entry => exact ⟨.ok (), set, id⟩
  | record subset status => exact ⟨.ok (), set, id⟩
  | report subset => exact ⟨.ok [], set, id⟩
  | latest limit => exact ⟨.ok [], set, id⟩
  | interrupted => exact ⟨set, set, rfl, rfl⟩

/-! ## Attentive programs -/

/-- Every store call of a program stands right behind a look at the signal. If the signal is set then
the program ends there with a result that is `halted`. -/
inductive Attentive (halted : α → Prop) : Program α → Prop where
  | done (result : α) : Attentive halted (.done result)
  | guarded {next : Bool → Program α} {call : StoreCall}
      {onward : Except Failure call.Reply → Program α} {result : α}
      (stopped : next true = .done result) (isHalted : halted result)
      (calls : next false = .ask (.store call) onward)
      (rest : ∀ reply, Attentive halted (onward reply)) :
      Attentive halted (.ask .interrupted next)
  | aside {request : Request} {next : request.Answer → Program α} (isAside : request.Aside)
      (rest : ∀ answer, Attentive halted (next answer)) : Attentive halted (.ask request next)

namespace Attentive

variable {halted : α → Prop} {haltedAfter : β → Prop} {program : Program α}

theorem bind {next : α → Program β} (attentive : Attentive halted program)
    (stays : ∀ result, halted result → ∃ last, next result = .done last ∧ haltedAfter last)
    (rest : ∀ result, Attentive haltedAfter (next result)) :
    Attentive haltedAfter (program >>= next) := by
  induction attentive with
  | done result => exact rest result
  | guarded stopped isHalted calls _ inductionHypothesis =>
    obtain ⟨last, ends, isHaltedAfter⟩ := stays _ isHalted
    refine .guarded ?_ isHaltedAfter ?_ inductionHypothesis
    · rw [stopped]
      exact ends
    · rw [calls]
      rfl
  | aside isAside _ inductionHypothesis => exact .aside isAside inductionHypothesis

/-! ## Runs -/

/-- A point in the run of an attentive program: anywhere but between a look at the signal and the store
call behind it, or right there with the signal unset. -/
def Midway (halted : α → Prop) (program : Program α) (set : Bool) : Prop :=
  Attentive halted program ∨
    set = false ∧ ∃ (call : StoreCall) (onward : Except Failure call.Reply → Program α),
      program = .ask (.store call) onward ∧ ∀ reply, Attentive halted (onward reply)

theorem Midway.attentive (midway : Midway halted program true) : Attentive halted program :=
  midway.resolve_right fun inside => Bool.false_ne_true inside.1.symm

theorem Midway.answered {request : Request} {next : request.Answer → Program α} {set later : Bool}
    {answer : request.Answer} (midway : Midway halted (.ask request next) set)
    (allowed : signal request set answer later) : Midway halted (next answer) later := by
  rcases midway with attentive | ⟨-, call, onward, same, rest⟩
  · cases attentive with
    | guarded stopped isHalted calls rest =>
      obtain ⟨rfl, rfl⟩ := allowed
      cases later with
      | true => exact .inl (stopped ▸ .done _)
      | false => exact .inr ⟨rfl, _, _, calls, rest⟩
    | aside _ rest => exact .inl (rest answer)
  · cases same
    exact .inl (rest answer)

theorem Midway.of_reaches {left : Program α} {set later : Bool} (midway : Midway halted program set)
    (reached : Reaches signal program set left later) : Midway halted left later := by
  induction reached with
  | here => exact midway
  | answered answer allowed _ inductionHypothesis =>
    exact inductionHypothesis (midway.answered allowed)

/-- What is left of an attentive program when the signal is set is attentive. -/
theorem of_reaches {left : Program α} {set : Bool} (attentive : Attentive halted program)
    (reached : Reaches signal program set left true) : Attentive halted left :=
  (Midway.of_reaches (.inl attentive) reached).attentive

end Attentive

theorem signal_stays_of_reaches {program left : Program α} {set later : Bool}
    (reached : Reaches signal program set left later) (isSet : set = true) : later = true := by
  induction reached with
  | here => exact isSet
  | answered answer allowed _ inductionHypothesis =>
    cases isSet
    exact inductionHypothesis (signal_stays allowed)

/-- What is left of a program when the signal is set. -/
structure HaltsFrom (halted : α → Prop) (left : Program α) : Prop where
  /-- It makes no store call. -/
  calls_nothing : ∀ (call : StoreCall) (next : Except Failure call.Reply → Program α) (set : Bool),
    ¬ Reaches signal left true (.ask (.store call) next) set
  /-- It comes to an end. -/
  ends : ∃ result, Reaches signal left true (.done result) true
  /-- It ends as it might have ended without the signal and without the store, or it is halted where it
  would have called the store. -/
  ends_as : ∀ result set, Reaches signal left true (.done result) set →
    Reaches uncalled left () (.done result) () ∨
    halted result ∧ ∃ (call : StoreCall) (next : Except Failure call.Reply → Program α),
      Reaches uncalled left () (.ask (.store call) next) ()

theorem uncalled_aside {request : Request} (isAside : request.Aside) (answer : request.Answer) :
    uncalled request () answer () := by
  cases request with
  | store _ | interrupted => exact isAside.elim
  | log _ | record _ _ | report _ | latest _ => trivial

theorem Attentive.ends_as {halted : α → Prop} {left : Program α} {result : α} {set : Bool}
    (attentive : Attentive halted left) (reached : Reaches signal left true (.done result) set) :
    Reaches uncalled left () (.done result) () ∨
    halted result ∧ ∃ (call : StoreCall) (next : Except Failure call.Reply → Program α),
      Reaches uncalled left () (.ask (.store call) next) () := by
  -- Along the program: only requests to the database are answered before it ends or is halted.
  induction attentive with
  | done ended =>
    cases reached
    exact .inl .here
  | @guarded next call onward _ stopped isHalted calls _ _ =>
    cases reached with
    | answered answer allowed rest =>
      obtain ⟨rfl, rfl⟩ := allowed
      rw [stopped] at rest
      cases rest
      have due : Reaches uncalled (next false) () (.ask (.store call) onward) () := calls ▸ .here
      exact .inr ⟨isHalted, call, onward, .answered false rfl due⟩
  | aside isAside _ inductionHypothesis =>
    cases reached with
    | answered answer allowed rest =>
      cases signal_stays allowed
      have along := uncalled_aside isAside answer
      rcases inductionHypothesis answer rest with same | ⟨isHalted, call, next, due⟩
      · exact .inl (.answered answer along same)
      · exact .inr ⟨isHalted, call, next, .answered answer along due⟩

theorem Attentive.haltsFrom {halted : α → Prop} {program left : Program α} {set : Bool}
    (attentive : Attentive halted program) (reached : Reaches signal program set left true) :
    HaltsFrom halted left := by
  have attentiveLeft := attentive.of_reaches reached
  refine ⟨fun call next set calls => ?_, ?_, fun result set ended => attentiveLeft.ends_as ended⟩
  · -- An attentive program never starts with a store call.
    cases signal_stays_of_reaches calls rfl
    cases attentiveLeft.of_reaches calls with
    | aside isAside _ => exact isAside
  · obtain ⟨result, set, ended⟩ := exists_reaches_done signal_answers left true
    cases signal_stays_of_reaches ended rfl
    exact ⟨result, ended⟩

end Program

/-! ## Actions -/

namespace Action

open Program

/-- An action that looks at the signal before each store call, and fails as interrupted if it is set. -/
def Attentive (action : Action α) : Prop := Program.Attentive (· = .error .interrupted) action.run

theorem attentive_pure (value : α) : (pure value : Action α).Attentive := .done _

theorem attentive_throw (failure : Failure) : (throw failure : Action α).Attentive := .done _

theorem attentive_log (entry : Entry) : (Action.log entry).Attentive :=
  .aside trivial fun _ => .done _

theorem Attentive.bind {action : Action α} {next : α → Action β} (attentive : action.Attentive)
    (onward : ∀ value, (next value).Attentive) : (action >>= next).Attentive := by
  rw [Attentive, ExceptT.run_bind]
  refine Program.Attentive.bind attentive ?_ fun result => ?_
  · rintro _ rfl
    exact ⟨_, rfl, rfl⟩
  · cases result with
    | ok value => exact onward value
    | error failure => exact .done _

/-- A write to the status table looks at no signal, so its failures can be put down to a host. -/
theorem attentive_blaming_record (host operation subset : String) (status : ResourceStatus) :
    (Action.blaming host operation (Action.record subset status)).Attentive :=
  .aside trivial fun answer => by cases answer <;> exact .done _

theorem attentive_attempt {call : StoreCall} {next : Except Failure call.Reply → Action α}
    (onward : ∀ reply, (next reply).Attentive) :
    (do Action.checkInterrupted; let reply ← Action.attempt call; next reply : Action α).Attentive :=
  .guarded rfl rfl rfl onward

/-- A store call whose failures are put down to a host. -/
theorem attentive_blaming_call {call : StoreCall} {host operation : String}
    {next : call.Reply → Action α} (onward : ∀ reply, (next reply).Attentive) :
    (do Action.checkInterrupted
        let reply ← Action.blaming host operation (Action.call call)
        next reply : Action α).Attentive :=
  .guarded rfl rfl rfl fun reply => by
    cases reply with
    | ok reply => exact onward reply
    | error failure => exact .done _

end Action

/-! ## Passes -/

namespace Pass

open Program

/-- A pass that looks at the signal before each store call, and fails as interrupted if it is set. -/
def Attentive (pass : Pass α) : Prop :=
  ∀ tracker, Program.Attentive (·.1 = .error .interrupted) (pass.outcome tracker)

theorem attentive_pure (value : α) : (pure value : Pass α).Attentive := fun _ => .done _

theorem attentive_throw (failure : Failure) : (throw failure : Pass α).Attentive := fun _ => .done _

theorem attentive_note (change : Tracker → Tracker) : (note change).Attentive := fun _ => .done _

theorem attentive_tracker : Pass.tracker.Attentive := fun _ => .done _

theorem attentive_ofAction {action : Action α} (attentive : action.Attentive) :
    (ofAction action).Attentive := fun tracker =>
  Program.Attentive.bind attentive (fun result isHalted => ⟨(result, tracker), rfl, isHalted⟩)
    fun _ => .done _

theorem Attentive.bind {pass : Pass α} {next : α → Pass β} (attentive : pass.Attentive)
    (onward : ∀ value, (next value).Attentive) : (pass >>= next).Attentive := by
  intro tracker
  refine Program.Attentive.bind (attentive tracker) ?_ ?_
  · rintro ⟨_, noted⟩ rfl
    exact ⟨_, rfl, rfl⟩
  · rintro ⟨result, noted⟩
    cases result with
    | ok value => exact onward value noted
    | error failure => exact .done _

/-- A look at the signal and a store call behind it, as two steps of a pass. -/
theorem attentive_blaming_call {call : StoreCall} {host operation : String}
    {next : call.Reply → Pass α} (onward : ∀ reply, (next reply).Attentive) :
    (do ofAction Action.checkInterrupted
        let reply ← ofAction (Action.blaming host operation (Action.call call))
        next reply : Pass α).Attentive := fun tracker =>
  .guarded rfl rfl rfl fun reply => by
    cases reply with
    | ok reply => exact onward reply tracker
    | error failure => exact .done _

end Pass

end RouteOverrides
