import RouteOverrides.Program

/-! # The conduct of a program

What a program does depends on its answers, and the answers depend on who else is at work. `Rules` say
which answers a request may get in a state and which states may follow, so that a statement about a
program under rules is one about every order of events that the rules allow.

* `Program.Reaches` — what is left of a program after some requests were answered.
* `Program.Keeps` — every request keeps a promise, and every result meets a postcondition. This is
  proved along the text of a program; `keeps_bind` and `keeps_run_bind` cut it into steps.
* `Program.Keeps.promise_of_reaches`, `Program.Keeps.post_of_reaches` — what it says about runs.
* `Program.Keeps.post_run` — what it says about a run with given answers.
* `Program.Keeps.both` — what is kept under two rules at once.
* `Program.reaches_run` — a run with answers that obey the rules is one that is reached;
  `Program.exists_reaches_done` — there is an end as long as there are answers;
  `Program.Keeps.of_idle` — what holds at the ends holds before them, if the state may stay.
-/

namespace RouteOverrides

/-- Which answers a request may get in a state, and in which state that leaves things. -/
abbrev Rules (σ : Type) := (request : Request) → σ → request.Answer → σ → Prop

namespace Program

variable {α β σ τ : Type} {rules : Rules σ} {promise : Request → σ → Prop}

/-- After some requests are answered by the rules, a program is left to run in a later state. -/
inductive Reaches (rules : Rules σ) : Program α → σ → Program α → σ → Prop where
  | here {program : Program α} {state : σ} : Reaches rules program state program state
  | answered {request : Request} {next : request.Answer → Program α} {state after : σ}
      {left : Program α} {final : σ} (answer : request.Answer)
      (allowed : rules request state answer after)
      (rest : Reaches rules (next answer) after left final) :
      Reaches rules (.ask request next) state left final

/-- Whatever answers the rules allow, each request keeps the promise in the state in which it is made,
and each result meets the postcondition. -/
def Keeps (rules : Rules σ) (promise : Request → σ → Prop) (post : α → σ → Prop) :
    Program α → σ → Prop
  | .done result, state => post result state
  | .ask request next, state => promise request state ∧
      ∀ answer after, rules request state answer after →
        Keeps rules promise post (next answer) after

@[simp] theorem keeps_done {post : α → σ → Prop} {result : α} {state : σ} :
    Keeps rules promise post (.done result) state ↔ post result state := Iff.rfl

@[simp] theorem keeps_ask {post : α → σ → Prop} {request : Request}
    {next : request.Answer → Program α} {state : σ} :
    Keeps rules promise post (.ask request next) state ↔ promise request state ∧
      ∀ answer after, rules request state answer after →
        Keeps rules promise post (next answer) after := Iff.rfl

theorem keeps_bind {post : β → σ → Prop} {program : Program α} {next : α → Program β} {state : σ} :
    Keeps rules promise post (program >>= next) state ↔
      Keeps rules promise (fun result after => Keeps rules promise post (next result) after)
        program state := by
  induction program generalizing state with
  | done result => rfl
  | ask request rest inductionHypothesis =>
    simp only [bind_ask, keeps_ask, inductionHypothesis]

theorem Keeps.mono {post weaker : α → σ → Prop} {program : Program α} {state : σ}
    (keeps : Keeps rules promise post program state)
    (weaken : ∀ result after, post result after → weaker result after) :
    Keeps rules promise weaker program state := by
  induction program generalizing state with
  | done result => exact weaken result state keeps
  | ask request rest inductionHypothesis =>
    exact ⟨keeps.1, fun answer after allowed =>
      inductionHypothesis answer (keeps.2 answer after allowed)⟩

/-! ## Runs -/

theorem Keeps.of_reaches {post : α → σ → Prop} {program left : Program α} {state final : σ}
    (keeps : Keeps rules promise post program state)
    (reached : Reaches rules program state left final) : Keeps rules promise post left final := by
  induction reached with
  | here => exact keeps
  | answered answer allowed _ inductionHypothesis =>
    exact inductionHypothesis (keeps.2 answer _ allowed)

theorem Keeps.promise_of_reaches {post : α → σ → Prop} {program : Program α} {state final : σ}
    {request : Request} {next : request.Answer → Program α}
    (keeps : Keeps rules promise post program state)
    (reached : Reaches rules program state (.ask request next) final) : promise request final :=
  (keeps.of_reaches reached).1

theorem Keeps.post_of_reaches {post : α → σ → Prop} {program : Program α} {state final : σ}
    {result : α} (keeps : Keeps rules promise post program state)
    (reached : Reaches rules program state (.done result) final) : post result final :=
  keeps.of_reaches reached

/-- A run with given answers, in states that stand for those of the rules. -/
theorem Keeps.post_run {post : α → σ → Prop} {stands : τ → σ → Prop}
    {answer : (request : Request) → τ → request.Answer × τ}
    (obeys : ∀ request actual state, stands actual state →
      ∃ after, rules request state (answer request actual).1 after ∧
        stands (answer request actual).2 after)
    {program : Program α} {actual : τ} {state : σ} (start : stands actual state)
    (keeps : Keeps rules promise post program state) :
    ∃ final, post (run answer program actual).1 final ∧
      stands (run answer program actual).2 final := by
  induction program generalizing actual state with
  | done result => exact ⟨state, keeps, start⟩
  | ask request next inductionHypothesis =>
    -- One answer, and the state of the rules that stands beside the actual one after it.
    obtain ⟨after, allowed, continues⟩ := obeys request actual state start
    exact inductionHypothesis _ continues (keeps.2 _ _ allowed)

/-- Answers that obey the rules lead to a result that is reached. -/
theorem reaches_run {answer : (request : Request) → σ → request.Answer × σ}
    (obeys : ∀ request state,
      rules request state (answer request state).1 (answer request state).2)
    (program : Program α) (state : σ) :
    Reaches rules program state (.done (run answer program state).1)
      (run answer program state).2 := by
  induction program generalizing state with
  | done result => exact .here
  | ask request next inductionHypothesis =>
    exact .answered _ (obeys request state) (inductionHypothesis _ _)

/-- A program comes to an end as long as its requests are answered. -/
theorem exists_reaches_done
    (answers : ∀ request state, ∃ answer after, rules request state answer after)
    (program : Program α) (state : σ) :
    ∃ result final, Reaches rules program state (.done result) final := by
  induction program generalizing state with
  | done result => exact ⟨result, state, .here⟩
  | ask request next inductionHypothesis =>
    obtain ⟨answer, after, allowed⟩ := answers request state
    obtain ⟨result, final, reached⟩ := inductionHypothesis answer after
    exact ⟨result, final, .answered answer allowed reached⟩

/-- What holds at every end holds wherever the requests may be answered so that the state stays. -/
theorem Keeps.of_idle {inv : σ → Prop} {program : Program α} {state : σ}
    (keeps : Keeps rules promise (fun _ => inv) program state)
    (idles : ∀ request state, ∃ answer, rules request state answer state) : inv state := by
  induction program with
  | done result => exact keeps
  | ask request next inductionHypothesis =>
    obtain ⟨answer, allowed⟩ := idles request state
    exact inductionHypothesis answer (keeps.2 answer state allowed)

/-! ## Two states at once -/

/-- Rules for two states at once: an answer obeys the rules of both. -/
def bothRules (first : Rules σ) (second : Rules τ) : Rules (σ × τ) :=
  fun request state answer after =>
    first request state.1 answer after.1 ∧ second request state.2 answer after.2

theorem Keeps.both {first : Rules σ} {second : Rules τ} {post : α → σ → Prop}
    {postToo : α → τ → Prop} {program : Program α} {state : σ} {beside : τ}
    (keeps : Keeps first (fun _ _ => True) post program state)
    (keepsToo : Keeps second (fun _ _ => True) postToo program beside) :
    Keeps (bothRules first second) (fun _ _ => True)
      (fun result after => post result after.1 ∧ postToo result after.2) program
      (state, beside) := by
  induction program generalizing state beside with
  | done result => exact ⟨keeps, keepsToo⟩
  | ask request next inductionHypothesis =>
    exact ⟨trivial, fun answer after allowed => inductionHypothesis answer
      (keeps.2 answer after.1 allowed.1) (keepsToo.2 answer after.2 allowed.2)⟩

/-! ## Actions -/

/-- A result of an action, as the start of what comes next; a failure comes out as it is. -/
abbrev onward (rules : Rules σ) (promise : Request → σ → Prop)
    (post : Except Failure β → σ → Prop) (next : α → Action β) :
    Except Failure α → σ → Prop
  | .ok value, after => Keeps rules promise post (next value).run after
  | .error failure, after => post (.error failure) after

theorem keeps_run_bind {post : Except Failure β → σ → Prop} {action : Action α}
    {next : α → Action β} {state : σ} :
    Keeps rules promise post (action >>= next).run state ↔
      Keeps rules promise (onward rules promise post next) action.run state := by
  rw [ExceptT.run_bind, keeps_bind]
  constructor
  · intro keeps
    refine keeps.mono fun result after => ?_
    cases result <;> exact id
  · intro keeps
    refine keeps.mono fun result after => ?_
    cases result <;> exact id

theorem keeps_checkInterrupted {post : Except Failure α → σ → Prop} {next : Unit → Action α}
    {state : σ} :
    Keeps rules promise post (Action.checkInterrupted >>= next).run state ↔
      promise .interrupted state ∧ ∀ stop after, rules .interrupted state stop after →
        if stop then post (.error .interrupted) after
        else Keeps rules promise post (next ()).run after := by
  rw [keeps_run_bind, Action.checkInterrupted, ExceptT.run_mk, keeps_ask]
  refine and_congr_right fun _ => forall_congr' fun stop => forall_congr' fun after =>
    imp_congr_right fun _ => ?_
  cases stop <;> rfl

theorem keeps_attempt {post : Except Failure α → σ → Prop} {call : StoreCall}
    {next : Except Failure call.Reply → Action α} {state : σ} :
    Keeps rules promise post (Action.attempt call >>= next).run state ↔
      promise (.store call) state ∧ ∀ reply after, rules (.store call) state reply after →
        Keeps rules promise post (next reply).run after := by
  rw [keeps_run_bind]
  rfl

/-- What is to be shown of a call that is made unless the signal to stop is set. -/
structure AtCall (rules : Rules σ) (promise : Request → σ → Prop) (call : StoreCall)
    (stopped : σ → Prop) (answered : Except Failure call.Reply → σ → Prop) (state : σ) : Prop where
  asked : promise .interrupted state
  stop : ∀ after, rules .interrupted state true after → stopped after
  called : ∀ ready, rules .interrupted state false ready → promise (.store call) ready ∧
    ∀ reply after, rules (.store call) ready reply after → answered reply after

theorem atCall_congr {call : StoreCall} {stopped : σ → Prop}
    {answered answered' : Except Failure call.Reply → σ → Prop} {state : σ}
    (same : ∀ reply after, answered reply after ↔ answered' reply after) :
    AtCall rules promise call stopped answered state ↔
      AtCall rules promise call stopped answered' state := by
  have equal : answered = answered' :=
    funext fun reply => funext fun after => propext (same reply after)
  rw [equal]

theorem keeps_guarded {post : Except Failure α → σ → Prop} {call : StoreCall}
    {next : Except Failure call.Reply → Action α} {state : σ} :
    Keeps rules promise post
        (do Action.checkInterrupted; let reply ← Action.attempt call; next reply : Action α).run
        state ↔
      AtCall rules promise call (post (.error .interrupted))
        (fun reply after => Keeps rules promise post (next reply).run after) state := by
  rw [keeps_checkInterrupted]
  constructor
  · rintro ⟨asked, onward⟩
    exact ⟨asked, fun after allowed => onward true after allowed,
      fun ready allowed => keeps_attempt.1 (onward false ready allowed)⟩
  · rintro ⟨asked, stop, called⟩
    refine ⟨asked, fun answer after allowed => ?_⟩
    cases answer with
    | true => exact stop after allowed
    | false => exact keeps_attempt.2 (called after allowed)

theorem keeps_log {post : Except Failure α → σ → Prop} {entry : Entry} {next : Unit → Action α}
    {state : σ} :
    Keeps rules promise post (Action.log entry >>= next).run state ↔
      promise (.log entry) state ∧ ∀ answer after, rules (.log entry) state answer after →
        onward rules promise post next answer after := by
  rw [keeps_run_bind]
  rfl

theorem keeps_blaming {post : Except Failure α → σ → Prop} {host operation : String}
    {action : Action α} {state : σ} :
    Keeps rules promise post (Action.blaming host operation action).run state ↔
      Keeps rules promise
        (fun result after => post (result.mapError (.atStore host operation)) after)
        action.run state := by
  rw [Action.blaming, ExceptT.run_mk, keeps_bind]
  constructor
  · intro keeps
    refine keeps.mono fun result after => ?_
    cases result <;> exact id
  · intro keeps
    refine keeps.mono fun result after => ?_
    cases result <;> exact id

theorem keeps_settle_bind {post : Except Failure β → σ → Prop} {action : Action α}
    {next : Except Failure α → Action β} {state : σ} :
    Keeps rules promise post (Action.settle action >>= next).run state ↔
      Keeps rules promise (fun result after => Keeps rules promise post (next result).run after)
        action.run state := by
  rw [keeps_run_bind, Action.settle, ExceptT.run_mk, keeps_bind]
  rfl

theorem keeps_ofProgram_bind {post : Except Failure β → σ → Prop} {program : Program α}
    {next : α → Action β} {state : σ} :
    Keeps rules promise post (Action.ofProgram program >>= next).run state ↔
      Keeps rules promise (fun result after => Keeps rules promise post (next result).run after)
        program state := by
  rw [keeps_run_bind, Action.ofProgram, ExceptT.run_mk, keeps_bind]
  rfl

end Program

end RouteOverrides
