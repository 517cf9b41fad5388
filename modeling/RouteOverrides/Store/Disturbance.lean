import RouteOverrides.Override.Release
import RouteOverrides.Store.Call

/-! # Disturbances of a store

A disturbance happens around the store calls that it is meant for: before the call, or after it if
it succeeded. It may tell the program to stop, write an object behind its back, release an owner,
and fail. The first calls may be let through (`skip`), and the number of times may be limited.

* `Disturbance.concerns`: whether a disturbance is meant for a call.
* `Disturbance.count`: whether it happens this time, and what is left of its counters. -/

namespace RouteOverrides

/-- Something that happens around store calls. -/
structure Disturbance where
  on : StoreCall.Verb
  subject : Option String := none
  skip : Nat := 0
  times : Option Nat := none
  /-- Whether it happens after the call, and not before it. -/
  after : Bool := false
  interrupts : Bool := false
  put : Option RoutingObject := none
  release : Option Release := none
  failure : Option Failure := none
  deriving DecidableEq, Repr

namespace Disturbance

/-- Whether a disturbance is meant for a call, before or after it. -/
def concerns (disturbance : Disturbance) (call : StoreCall) (after : Bool) : Bool :=
  disturbance.after == after && disturbance.on == call.verb
    && match disturbance.subject with
      | some subject => subject == call.subject
      | none => true

/-- Whether a disturbance happens this time, and the disturbance with its counters moved on. -/
def count (disturbance : Disturbance) : Bool × Disturbance :=
  if disturbance.skip > 0 then (false, { disturbance with skip := disturbance.skip - 1 })
  else
    match disturbance.times with
    | none => (true, disturbance)
    | some 0 => (false, disturbance)
    | some (left + 1) => (true, { disturbance with times := some left })

end Disturbance

end RouteOverrides
