import RouteOverrides.Store.Cluster
import RouteOverrides.Store.Disturbance
import RouteOverrides.Store.Memory

/-! # Surroundings of a program

The surroundings answer what a program asks: a store, a database, and a signal to stop. The store is
either in memory, possibly with disturbances, or in a cluster.

A disturbance may run a release of its own, whose store calls are disturbed in turn. The depth of
this nesting is the first argument of `Surroundings.answerAt`, and it is limited to
`Surroundings.maxNesting`: a release that disturbs itself without end fails there.

* `Surroundings.callDisturbed`: a store call with the disturbances around it.
* `Surroundings.runProgram`: runs a program, which may or may not listen to the signal. -/

namespace RouteOverrides

/-- Where objects are kept. -/
inductive Backend where
  | memory (store : MemoryStore) (disturbances : List Disturbance)
  | cluster (settings : Settings) (api : ScriptedCluster)

/-- What answers a program. -/
structure Surroundings where
  backend : Backend
  database : Database
  /-- Whether programs are told to stop. -/
  stop : Bool

namespace Surroundings

/-- Surroundings with these objects in memory and a database with empty tables. -/
def ofObjects (objects : List RoutingObject) (disturbances : List Disturbance) : Surroundings :=
  ⟨.memory (.ofList objects) disturbances, .fresh, false⟩

/-- Surroundings with a cluster and a database with empty tables. -/
def ofCluster (settings : Settings) (replies : List (Except ClusterError Json)) : Surroundings :=
  ⟨.cluster settings ⟨replies, []⟩, .fresh, false⟩

/-- The store in memory, if there is one. -/
def store? (surroundings : Surroundings) : Option MemoryStore :=
  match surroundings.backend with
  | .memory store _ => some store
  | .cluster _ _ => none

def disturbances (surroundings : Surroundings) : List Disturbance :=
  match surroundings.backend with
  | .memory _ disturbances => disturbances
  | .cluster _ _ => []

def clusterCalls (surroundings : Surroundings) : List ClusterCall :=
  match surroundings.backend with
  | .memory _ _ => []
  | .cluster _ api => api.calls

/-- The same surroundings with other disturbances. -/
def withDisturbances (surroundings : Surroundings) (disturbances : List Disturbance) :
    Surroundings :=
  match surroundings.backend with
  | .memory store _ => { surroundings with backend := .memory store disturbances }
  | .cluster _ _ => surroundings

/-! ## The store without disturbances -/

/-- The outcome of a store call, left alone by disturbances. -/
def callStore (surroundings : Surroundings) (call : StoreCall) :
    Except Failure call.Reply × Surroundings :=
  match surroundings.backend with
  | .memory store disturbances =>
    let answered := store.answer call
    (answered.1, { surroundings with backend := .memory answered.2 disturbances })
  | .cluster settings api =>
    let answered := api.answer settings call
    (answered.1, { surroundings with backend := .cluster settings answered.2 })

/-! ## Disturbances -/

abbrev Releaser := Release → Surroundings → Except Failure Unit × Surroundings

/-- Writes an object behind the program's back, if the disturbance does so. -/
def putBehind (disturbance : Disturbance) (surroundings : Surroundings) :
    Except Failure Unit × Surroundings :=
  match disturbance.put with
  | some object => surroundings.callStore (.update object)
  | none => (.ok (), surroundings)

/-- Releases an owner, if the disturbance does so. -/
def releaseBehind (releaser : Releaser) (disturbance : Disturbance)
    (surroundings : Surroundings) : Except Failure Unit × Surroundings :=
  match disturbance.release with
  | some release => releaser release surroundings
  | none => (.ok (), surroundings)

/-- All that a disturbance does, up to the first failure. -/
def disturb (releaser : Releaser) (disturbance : Disturbance) (surroundings : Surroundings) :
    Except Failure Unit × Surroundings :=
  let signalled := { surroundings with stop := surroundings.stop || disturbance.interrupts }
  match putBehind disturbance signalled with
  | (.error failure, after) => (.error failure, after)
  | (.ok (), after) =>
    match releaseBehind releaser disturbance after with
    | (.error failure, after) => (.error failure, after)
    | (.ok (), after) =>
      match disturbance.failure with
      | some failure => (.error failure, after)
      | none => (.ok (), after)

/-- The disturbance at an index, if it is meant for a call and happens this time. -/
def disturbAt (releaser : Releaser) (call : StoreCall) (after : Bool) (index : Nat)
    (surroundings : Surroundings) : Except Failure Unit × Surroundings :=
  match surroundings.disturbances[index]? with
  | none => (.ok (), surroundings)
  | some disturbance =>
    if disturbance.concerns call after then
      -- The counters move first: a release inside the disturbance sees them moved on.
      let counted := disturbance.count
      let moved :=
        surroundings.withDisturbances (surroundings.disturbances.set index counted.2)
      if counted.1 then disturb releaser counted.2 moved else (.ok (), moved)
    else (.ok (), surroundings)

/-- The disturbances at some indices, one after the other, up to the first failure. -/
def disturbAll (releaser : Releaser) (call : StoreCall) (after : Bool) :
    List Nat → Surroundings → Except Failure Unit × Surroundings
  | [], surroundings => (.ok (), surroundings)
  | index :: indices, surroundings =>
    match disturbAt releaser call after index surroundings with
    | (.ok (), next) => disturbAll releaser call after indices next
    | (.error failure, next) => (.error failure, next)

/-- The outcome of a store call with the disturbances around it. -/
def callDisturbed (releaser : Releaser) (surroundings : Surroundings) (call : StoreCall) :
    Except Failure call.Reply × Surroundings :=
  let indices := List.range surroundings.disturbances.length
  match disturbAll releaser call false indices surroundings with
  | (.error failure, next) => (.error failure, next)
  | (.ok (), next) =>
    -- A disturbance after the call spoils the reply but not what the call has done.
    match next.callStore call with
    | (.error failure, next) => (.error failure, next)
    | (.ok reply, next) =>
      match disturbAll releaser call true indices next with
      | (.error failure, next) => (.error failure, next)
      | (.ok (), next) => (.ok reply, next)

/-- Without disturbances a call is left alone. -/
theorem callDisturbed_of_undisturbed {surroundings : Surroundings}
    (h : surroundings.disturbances = []) (releaser : Releaser) (call : StoreCall) :
    surroundings.callDisturbed releaser call = surroundings.callStore call := by
  simp only [callDisturbed, h, List.length_nil, List.range_zero, disturbAll]
  rcases hcall : surroundings.callStore call with ⟨outcome, next⟩
  cases outcome <;> rfl

/-! ## Answers -/

/-- The answer to a request, with a way to run the releases of disturbances. Without `listens` the
signal to stop is not heard. -/
def answerWith (releaser : Releaser) (listens : Bool) :
    (request : Request) → Surroundings → request.Answer × Surroundings
  | .store call, surroundings => surroundings.callDisturbed releaser call
  | .log entry, surroundings =>
    let logged := surroundings.database.log entry
    (logged.1, { surroundings with database := logged.2 })
  | .record subset status, surroundings =>
    let recorded := surroundings.database.record subset status
    (recorded.1, { surroundings with database := recorded.2 })
  | .report subset, surroundings => (surroundings.database.report subset, surroundings)
  | .latest limit, surroundings => (surroundings.database.latest limit, surroundings)
  | .interrupted, surroundings => (listens && surroundings.stop, surroundings)

/-- The failure of a release that would nest too deep. -/
def nestedTooDeep : Failure := .foreign .runtime "maximum recursion depth exceeded"

/-- The answer to a request, when releases of disturbances may nest `depth` deep. -/
def answerAt : Nat → Bool → (request : Request) → Surroundings → request.Answer × Surroundings
  | 0 => answerWith fun _ surroundings => (.error nestedTooDeep, surroundings)
  | depth + 1 => answerWith fun release surroundings =>
    let released := Program.run (answerAt depth false) release.perform.run surroundings
    (released.1.map fun _ => (), released.2)

/-- How deep releases of disturbances may nest. -/
def maxNesting : Nat := 1000

def runProgram {α : Type} (surroundings : Surroundings) (listens : Bool) (program : Program α) :
    α × Surroundings :=
  Program.run (answerAt maxNesting listens) program surroundings

end Surroundings

end RouteOverrides
