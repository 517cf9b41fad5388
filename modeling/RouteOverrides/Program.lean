import RouteOverrides.Database.Basic
import RouteOverrides.Store.Call

/-! # Programs

A program asks its surroundings for one thing after the other, and what it does next depends on the
answers. It is a tree of requests: a leaf is a result, and a node is a request with one subtree for
every possible answer. So what a program does can be stated for all stores and databases at once.

* `Request`, `Request.Answer`: what a program may ask, and what it is answered.
* `Program.run`: the result of a program when a given state answers its requests.
* `Action`: programs that may fail. `Action.call`, `Action.log` and `Action.record` fail when the
  answer is a failure; `Action.attempt` hands the failure on as a value. -/

namespace RouteOverrides

/-- Something that a program asks of its surroundings. -/
inductive Request where
  /-- A call to the object store. -/
  | store (call : StoreCall)
  /-- Write to the journal. -/
  | log (entry : Entry)
  /-- Write a status. -/
  | record (subset : String) (status : ResourceStatus)
  /-- Read the statuses of a subset. -/
  | report (subset : String)
  /-- Read the newest rows of the journal. -/
  | latest (limit : Int)
  /-- Was the program told to stop? -/
  | interrupted

abbrev Request.Answer : Request → Type
  | store call => Except Failure call.Reply
  | log _ => Except Failure Unit
  | record _ _ => Except Failure Unit
  | report _ => Except Failure (List ResourceStatus)
  | latest _ => Except Failure (List (Nat × Entry))
  | interrupted => Bool

/-- A tree of requests with results at its leaves. -/
inductive Program (α : Type) where
  | done (result : α)
  | ask (request : Request) (next : request.Answer → Program α)

namespace Program

variable {α β σ : Type}

/-- Goes on with a second program at every leaf of the first. -/
def bind (program : Program α) (next : α → Program β) : Program β :=
  match program with
  | done result => next result
  | ask request rest => ask request fun answer => (rest answer).bind next

instance : Monad Program where
  pure := done
  bind := bind

def request (request : Request) : Program request.Answer := ask request done

/-- Runs a program against a state that answers its requests. -/
def run (answer : (request : Request) → σ → request.Answer × σ) : Program α → σ → α × σ
  | done result, state => (result, state)
  | ask request next, state =>
    run answer (next (answer request state).1) (answer request state).2

@[simp] theorem pure_eq (result : α) : (pure result : Program α) = done result := rfl

@[simp] theorem bind_done (result : α) (next : α → Program β) :
    (done result >>= next) = next result := rfl

@[simp] theorem bind_ask (request : Request) (rest : request.Answer → Program α)
    (next : α → Program β) :
    (ask request rest >>= next) = ask request fun answer => rest answer >>= next := rfl

@[simp] theorem run_done (answer : (request : Request) → σ → request.Answer × σ) (result : α)
    (state : σ) : run answer (done result) state = (result, state) := rfl

@[simp] theorem run_ask (answer : (request : Request) → σ → request.Answer × σ)
    (request : Request) (next : request.Answer → Program α) (state : σ) :
    run answer (ask request next) state =
      run answer (next (answer request state).1) (answer request state).2 := rfl

theorem bind_pure (program : Program α) : (program >>= done) = program := by
  induction program with
  | done result => rfl
  | ask request next ih => simp [ih]

theorem bind_assoc {γ : Type} (program : Program α) (f : α → Program β) (g : β → Program γ) :
    ((program >>= f) >>= g) = program >>= fun result => f result >>= g := by
  induction program with
  | done result => rfl
  | ask request next ih => simp [ih]

/-- Running two programs one after the other. -/
theorem run_bind (answer : (request : Request) → σ → request.Answer × σ) (program : Program α)
    (next : α → Program β) (state : σ) :
    run answer (program >>= next) state =
      run answer (next (run answer program state).1) (run answer program state).2 := by
  induction program generalizing state with
  | done result => rfl
  | ask request rest ih => simp [ih]

instance : LawfulMonad Program :=
  LawfulMonad.mk' _ bind_pure (fun _ _ => rfl) bind_assoc

end Program

/-- A program that may fail. -/
abbrev Action (α : Type) := ExceptT Failure Program α

namespace Action

variable {α : Type}

/-- A store call, with its failure as a value. -/
def attempt (call : StoreCall) : Action (Except Failure call.Reply) :=
  ExceptT.mk (.ask (.store call) fun answer => .done (.ok answer))

def call (call : StoreCall) : Action call.Reply := ExceptT.mk (Program.request (.store call))

def log (entry : Entry) : Action Unit := ExceptT.mk (Program.request (.log entry))

def record (subset : String) (status : ResourceStatus) : Action Unit :=
  ExceptT.mk (Program.request (.record subset status))

def report (subset : String) : Action (List ResourceStatus) :=
  ExceptT.mk (Program.request (.report subset))

/-- Reads the newest rows of the journal. -/
def latest (limit : Int) : Action (List (Nat × Entry)) :=
  ExceptT.mk (Program.request (.latest limit))

/-- Fails if the program was told to stop. -/
def checkInterrupted : Action Unit :=
  ExceptT.mk (.ask .interrupted fun stop =>
    .done (if stop then .error .interrupted else .ok ()))

/-- An action that never fails: the failure of the given one becomes a value. -/
def settle (action : Action α) : Action (Except Failure α) :=
  ExceptT.mk do pure (.ok (← action.run))

/-- A program, as an action that never fails. -/
def ofProgram (program : Program α) : Action α := ExceptT.mk do pure (.ok (← program))

/-- The same action, with any failure put down to an operation on a service host. -/
def blaming (host operation : String) (action : Action α) : Action α :=
  ExceptT.mk do
    match ← action.run with
    | .ok result => pure (.ok result)
    | .error failure => pure (.error (.atStore host operation failure))

end Action

end RouteOverrides
