import RouteOverrides.Override.Handler
import RouteOverrides.Proofs.Handler.Pass

/-! # Store calls and their replies

Any call to a store may be answered or fail, and what comes next depends on it. Here all calls are kept
with their replies, the newest first. An operation on several service hosts sees to one after the other,
and begins each of them by reading its override; so the override that was read last tells which host it
is at.

* `Exchange`, `witnessed` — a call with its reply, and rules under which they are kept.
* `Exchange.fatal?` — the failure that ends an operation.
* `Scope` — what an operation is about.
* `Stops` — an operation ends with the first failure of that kind and reports it with its host.
* `Minds`, `Concludes` — the same as postconditions, of an action for one host and for all.
-/

namespace RouteOverrides

open Program

/-- A store call with its reply. -/
structure Exchange where
  call : StoreCall
  reply : Except Failure call.Reply

/-- The store calls are kept with their replies, the newest first. A call may get any reply, also one
that has nothing to do with those before it. The database works, and no program is told to stop. -/
def witnessed : Rules (List Exchange)
  | .store call, trace, reply, later => later = ⟨call, reply⟩ :: trace
  | .log _, trace, answer, later => answer = .ok () ∧ later = trace
  | .record _ _, trace, answer, later => answer = .ok () ∧ later = trace
  | .report _, trace, answer, later => (∃ statuses, answer = .ok statuses) ∧ later = trace
  | .latest _, trace, answer, later => (∃ rows, answer = .ok rows) ∧ later = trace
  | .interrupted, trace, stop, later => stop = false ∧ later = trace

namespace Exchange

/-- How many updates in a row ended in a conflict, each after a reading of its own. They are all of one
host: a release leaves a host only after a reply of another kind. -/
def conflicts : List Exchange → Nat
  | ⟨.update _, .error (.conflict _)⟩ :: ⟨.get _ _, .ok _⟩ :: rest => conflicts rest + 1
  | _ => 0

/-- The failure of the newest call, if it ends the operation. That an object is not found does not,
and neither does a conflict before the last attempt. -/
def fatal? : List Exchange → Option Failure
  | [] => none
  | ⟨.get _ _, .error (.notFound _)⟩ :: _ => none
  | ⟨.update object, .error (.conflict detail)⟩ :: rest =>
    if conflicts (⟨.update object, .error (.conflict detail)⟩ :: rest) = Release.maxAttempts then
      some (.conflict detail)
    else none
  | ⟨_, .error failure⟩ :: _ => some failure
  | ⟨_, .ok _⟩ :: _ => none

/-- The place of the object that was read last. -/
def lastRead : List Exchange → Option (String × String)
  | [] => none
  | ⟨.get ns name, _⟩ :: _ => some (ns, name)
  | _ :: rest => lastRead rest

end Exchange

open Exchange

/-- What an operation is about: service hosts, and what their overrides are named after. -/
structure Scope where
  ns : String
  uniqueName : String
  hosts : List String

namespace Scope

/-- The place of the override of a host. -/
def place (scope : Scope) (host : String) : String × String :=
  (scope.ns, overrideName scope.uniqueName host)

/-- The newest call was made for a host, and its failure ends the operation. -/
structure FailsAt (scope : Scope) (host : String) (cause : Failure) (trace : List Exchange) :
    Prop where
  fatal : fatal? trace = some cause
  read : lastRead trace = some (scope.place host)

end Scope

variable {α β : Type} {scope : Scope} {host : String} {trace : List Exchange} {cause : Failure}

/-! ## Operations that stop -/

/-- What is left of an operation after some calls. `reports` says that a result reports a failure, and
`returns` that it is the result of an operation that went through. -/
structure Stops (scope : Scope) (reports : Failure → α → Prop) (returns : α → Prop)
    (left : Program α) (trace : List Exchange) : Prop where
  /-- Whatever the replies will be, the operation has an end. -/
  ends : ∃ result final, Reaches witnessed left trace (.done result) final
  /-- A failure that ends the operation is that of its last call. It is reported with the host. -/
  stops : ∀ cause, fatal? trace = some cause →
    ∃ host ∈ scope.hosts, lastRead trace = some (scope.place host) ∧
      ∃ operation result, left = .done result ∧ reports (.atStore host operation cause) result
  /-- Otherwise nothing is reported. -/
  otherwise : fatal? trace = none → ∀ result, left = .done result → returns result

/-- How an operation ends: it reports a failure, or it goes through. -/
def Exits (scope : Scope) (reports : Failure → α → Prop) (returns : α → Prop) (result : α)
    (trace : List Exchange) : Prop :=
  (∃ host ∈ scope.hosts, ∃ operation cause, scope.FailsAt host cause trace ∧
    reports (.atStore host operation cause) result) ∨
  fatal? trace = none ∧ returns result

theorem Exits.imp {reports : Failure → α → Prop} {returns : α → Prop} {result : α}
    {reportsThen : Failure → β → Prop} {returnsThen : β → Prop} {other : β}
    (exits : Exits scope reports returns result trace)
    (reported : ∀ failure, reports failure result → reportsThen failure other)
    (returned : returns result → returnsThen other) :
    Exits scope reportsThen returnsThen other trace := by
  rcases exits with ⟨host, member, operation, cause, fails, reports⟩ | ⟨unbroken, fine⟩
  · exact .inl ⟨host, member, operation, cause, fails, reported _ reports⟩
  · exact .inr ⟨unbroken, returned fine⟩

/-- A request is made only as long as nothing has ended the operation. -/
def whileUnbroken (_ : Request) (trace : List Exchange) : Prop := fatal? trace = none

/-- Whatever is asked, there is an answer. -/
theorem witnessed_answers (request : Request) (trace : List Exchange) :
    ∃ answer later, witnessed request trace answer later := by
  cases request with
  | store call => exact ⟨.error .misread, _, rfl⟩
  | log _ | record _ _ => exact ⟨.ok (), trace, rfl, rfl⟩
  | report _ | latest _ => exact ⟨.ok [], trace, ⟨[], rfl⟩, rfl⟩
  | interrupted => exact ⟨false, trace, rfl, rfl⟩

theorem stops_of_reaches {reports : Failure → α → Prop} {returns : α → Prop}
    {program left : Program α}
    (keeps : Keeps witnessed whileUnbroken (Exits scope reports returns) program [])
    (reached : Reaches witnessed program [] left trace) :
    Stops scope reports returns left trace := by
  refine ⟨exists_reaches_done witnessed_answers left trace, fun cause fatal => ?_, ?_⟩
  · cases left with
    | ask request next =>
      -- A request is still to be made, so nothing has ended the operation yet.
      have unbroken : fatal? trace = none := keeps.promise_of_reaches reached
      rw [unbroken] at fatal
      cases fatal
    | done result =>
      rcases keeps.post_of_reaches reached with ⟨host, member, operation, same, fails, reported⟩ | fine
      · obtain rfl : cause = same := Option.some.inj (fatal.symm.trans fails.fatal)
        exact ⟨host, member, fails.read, operation, result, rfl, reported⟩
      · rw [fine.1] at fatal
        cases fatal
  · rintro none result rfl
    rcases keeps.post_of_reaches reached with ⟨_, _, _, _, fails, _⟩ | fine
    · cases none.symm.trans fails.fatal
    · exact fine.2

/-! ## One host -/

/-- The override of a host was read. Since then nothing has ended the operation, and no conflict came
last. -/
structure AtHost (scope : Scope) (host : String) (trace : List Exchange) : Prop where
  unbroken : fatal? trace = none
  settled : conflicts trace = 0
  read : lastRead trace = some (scope.place host)

/-- How an action for a host ends: it goes through, or with the failure of its last call. -/
def Minds (scope : Scope) (host : String) : Except Failure α → List Exchange → Prop
  | .ok _, trace => AtHost scope host trace
  | .error failure, trace =>
    ∃ operation cause, failure = .atStore host operation cause ∧ scope.FailsAt host cause trace

/-- How an action for all hosts ends. -/
abbrev Concludes (scope : Scope) : Except Failure α → List Exchange → Prop :=
  Exits scope (fun failure result => result = .error failure) fun result => ∃ value, result = .ok value

theorem Minds.concludes {result : Except Failure α} (member : host ∈ scope.hosts)
    (minds : Minds scope host result trace) : Concludes scope result trace := by
  cases result with
  | ok value => exact .inr ⟨minds.unbroken, value, rfl⟩
  | error failure =>
    obtain ⟨operation, cause, rfl, fails⟩ := minds
    exact .inl ⟨host, member, operation, cause, fails, rfl⟩

namespace Program

theorem minds_log (start : AtHost scope host trace) (entry : Entry) :
    Keeps witnessed whileUnbroken (Minds scope host) (Action.log entry).run trace := by
  refine ⟨start.unbroken, ?_⟩
  rintro _ _ ⟨rfl, rfl⟩
  exact start

theorem minds_checkInterrupted (start : AtHost scope host trace) :
    Keeps witnessed whileUnbroken (Minds scope host) Action.checkInterrupted.run trace := by
  refine ⟨start.unbroken, ?_⟩
  rintro _ _ ⟨rfl, rfl⟩
  exact start

/-- Any failure of a call that lists or creates ends the operation. -/
theorem minds_call {call : StoreCall} (start : AtHost scope host trace)
    (plain : (∃ ns, call = .list ns) ∨ ∃ object, call = .create object) (operation : String) :
    Keeps witnessed whileUnbroken (Minds scope host)
      (Action.blaming host operation (Action.call call)).run trace := by
  refine keeps_blaming.2 ⟨start.unbroken, ?_⟩
  rintro reply _ rfl
  rcases plain with ⟨ns, rfl⟩ | ⟨object, rfl⟩ <;> cases reply with
  | ok _ => exact ⟨rfl, rfl, start.read⟩
  | error failure => exact ⟨operation, failure, rfl, rfl, start.read⟩

theorem keeps_bind_of_concludes {action : Action α} {next : α → Action β}
    (concludes : Keeps witnessed whileUnbroken (Concludes scope) action.run trace)
    (rest : ∀ value later, fatal? later = none →
      Keeps witnessed whileUnbroken (Concludes scope) (next value).run later) :
    Keeps witnessed whileUnbroken (Concludes scope) (action >>= next).run trace := by
  refine keeps_run_bind.2 (concludes.mono fun result later exits => ?_)
  rcases exits with ⟨host, member, operation, cause, fails, rfl⟩ | ⟨unbroken, value, rfl⟩
  · exact .inl ⟨host, member, operation, cause, fails, rfl⟩
  · exact rest value later unbroken

end Program

end RouteOverrides
