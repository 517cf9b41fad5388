import RouteOverrides.Override.Handler
import RouteOverrides.Surroundings

/-! # Sessions

A session runs steps one after the other, by hand as it were: it makes handlers, lets them work, and
looks at the store and the database in between. All steps share one store, one database and one
signal to stop; a step may be told not to listen to the signal.

* `Session.run`: the outcome of a step, and the session after it.
* `Session.observe`: what else the step left to see, besides its outcome: the new rows of the
  journal, and the cluster calls.

Handlers can share a tracker, so trackers are kept apart from handlers, and a handler knows the
number of its own. -/

namespace RouteOverrides

/-- One step of a session. -/
inductive Step where
  /-- Makes a handler; it may share the tracker of another one. -/
  | make (id : String) (options : HandlerOptions) (trackerOf : Option String)
  | handle (id : String)
  | release (id : String)
  /-- Asks for statuses, with other ignored hosts than the tracker's if given, and may publish them
  as well. -/
  | statuses (id : String) (ignored : Option (List String)) (publish : Bool)
  | publish (id : String) (statuses : List ResourceStatus)
  | describe (id : String)
  | releaseOwner (release : Release)
  | locate (lookup : Lookup) (host : String)
  | generate (template : Template) (host : String)
  /-- Gives the signal to stop, or takes it back. -/
  | signal (stop : Bool)
  /-- A store call of its own. -/
  | call (call : StoreCall)
  | prepareTables
  | dropTable (table : TableName)
  | log (entry : Entry)
  | record (subset : String) (status : ResourceStatus)
  | report (subset : String)
  | latest (limit : Int)
  /-- A step that cannot be run as it was asked for. -/
  | refused (failure : Failure)

/-- What a handler says about itself. -/
structure HandlerDescription where
  subset : String
  hosts : List String
  ignored : List String
  versionLabel : String
  defaultVersion : String
  key : String
  deriving DecidableEq, Repr

/-- What a step that succeeds gives. -/
inductive Outcome where
  | nothing
  | passed (result : PassResult)
  | names (names : List String)
  | statuses (statuses : List ResourceStatus)
  | description (description : HandlerDescription)
  | object (object : RoutingObject)
  | objects (objects : List RoutingObject)
  /-- A baseline, or an override built from one. -/
  | found (object : RoutingObject)
  /-- There is no baseline for a host. -/
  | ignorable (host : String) (lookup : Lookup)
  | rows (rows : List (Nat × Entry))

/-- A handler in a session, with the number of its tracker. -/
structure Seat where
  id : String
  handler : Handler
  tracker : Nat

/-- The state of a session. -/
structure Session where
  settings : Settings
  surroundings : Surroundings
  seats : List Seat
  trackers : List Tracker
  /-- The newest row of the journal that has been seen. -/
  seen : Nat

namespace Session

def start (settings : Settings) (surroundings : Surroundings) : Session :=
  ⟨settings, surroundings, [], [], 0⟩

def seat? (session : Session) (id : String) : Except Failure Seat :=
  match session.seats.find? fun seat => seat.id == id with
  | some seat => .ok seat
  | none => .error (.foreign .key id)

def trackerAt (session : Session) (index : Nat) : Tracker := session.trackers[index]?.getD .empty

def act {α : Type} (session : Session) (listens : Bool) (action : Action α)
    (outcome : α → Outcome) : Except Failure Outcome × Session :=
  let ran := session.surroundings.runProgram listens action.run
  (ran.1.map outcome, { session with surroundings := ran.2 })

/-- Seats a handler, in place of an earlier one of the same name. Without a tracker to share it gets
a new one. -/
def seatHandler (session : Session) (id : String) (handler : Handler) (shared : Option Nat) :
    Session :=
  let others := session.seats.filter fun seat => seat.id != id
  match shared with
  | some tracker => { session with seats := ⟨id, handler, tracker⟩ :: others }
  | none =>
    { session with
      seats := ⟨id, handler, session.trackers.length⟩ :: others
      trackers := session.trackers ++ [.empty] }

/-- The number of the tracker to share with another handler, if one is named. -/
def sharedTracker (session : Session) (other : Option String) : Except Failure (Option Nat) :=
  match other with
  | none => .ok none
  | some other => (session.seat? other).map fun seat => some seat.tracker

/-- Makes a handler and seats it. The tracker to share is looked up first. -/
def make (session : Session) (id : String) (options : HandlerOptions) (trackerOf : Option String) :
    Except Failure Session := do
  let shared ← session.sharedTracker trackerOf
  let handler ← Handler.create? session.settings options
  pure (session.seatHandler id handler shared)

/-- One pass of a handler, with its tracker. -/
def handle (session : Session) (listens : Bool) (seat : Seat) : Except Failure Outcome × Session :=
  let ran := session.surroundings.runProgram listens
    (Pass.outcome seat.handler.handle (session.trackerAt seat.tracker))
  (ran.1.1.map .passed,
    { session with
      surroundings := ran.2
      trackers := session.trackers.set seat.tracker ran.1.2 })

/-- The statuses of a handler, published as well if asked for. -/
def statusesAction (handler : Handler) (ignored : List String) (publish : Bool) :
    Action (List ResourceStatus) := do
  let statuses ← handler.statuses ignored
  if publish then handler.publish statuses
  pure statuses

def describe (handler : Handler) (tracker : Tracker) : HandlerDescription where
  subset := handler.uniqueName
  hosts := tracker.active
  ignored := tracker.ignored
  versionLabel := handler.versionLabel
  defaultVersion := handler.defaultVersion
  key := handler.key

def callStep (session : Session) (listens : Bool) :
    StoreCall → Except Failure Outcome × Session
  | .get ns name => session.act listens (Action.call (.get ns name)) .object
  | .list ns => session.act listens (Action.call (.list ns)) .objects
  | .create object => session.act listens (Action.call (.create object)) fun _ => .nothing
  | .update object => session.act listens (Action.call (.update object)) fun _ => .nothing

def foundOr (host : String) (lookup : Lookup) : Option RoutingObject → Outcome
  | some object => .found object
  | none => .ignorable host lookup

/-- Goes on with the handler of a name, if there is one. -/
def withSeat (session : Session) (id : String)
    (next : Seat → Except Failure Outcome × Session) : Except Failure Outcome × Session :=
  match session.seat? id with
  | .ok seat => next seat
  | .error failure => (.error failure, session)

/-- The outcome of a step, and the session after it. -/
def run (session : Session) (listens : Bool) : Step → Except Failure Outcome × Session
  | .make id options trackerOf =>
    match session.make id options trackerOf with
    | .ok after => (.ok .nothing, after)
    | .error failure => (.error failure, session)
  | .handle id => session.withSeat id (session.handle listens)
  | .release id => session.withSeat id fun seat => session.act listens seat.handler.release .names
  | .statuses id ignored publish => session.withSeat id fun seat =>
    let ignored := ignored.getD (session.trackerAt seat.tracker).ignored
    session.act listens (statusesAction seat.handler ignored publish) .statuses
  | .publish id statuses => session.withSeat id fun seat =>
    session.act listens (seat.handler.publish statuses) fun _ => .nothing
  | .describe id => session.withSeat id fun seat =>
    (.ok (.description (describe seat.handler (session.trackerAt seat.tracker))), session)
  | .releaseOwner release => session.act listens release.perform .names
  | .locate lookup host => session.act listens (lookup.locate host) (foundOr host lookup)
  | .generate template host =>
    session.act listens (template.generate host) (foundOr host template.lookup)
  | .signal stop =>
    (.ok .nothing, { session with surroundings := { session.surroundings with stop := stop } })
  | .call call => session.callStep listens call
  | .prepareTables =>
    let database := session.surroundings.database.prepare
    (.ok .nothing,
      { session with surroundings := { session.surroundings with database := database } })
  | .dropTable table =>
    match session.surroundings.database.drop table with
    | .ok database =>
      (.ok .nothing,
        { session with surroundings := { session.surroundings with database := database } })
    | .error failure => (.error failure, session)
  | .log entry => session.act listens (Action.log entry) fun _ => .nothing
  | .record subset status => session.act listens (Action.record subset status) fun _ => .nothing
  | .report subset => session.act listens (Action.report subset) .statuses
  | .latest limit => session.act listens (Action.latest limit) .rows
  | .refused failure => (.error failure, session)

/-- What a step left to see. -/
structure Observation where
  /-- The new rows of the journal, oldest first; none when there is no journal to read. -/
  rows : Option (List (Nat × Entry))
  /-- The API calls that the cluster got during the step. -/
  calls : List ClusterCall
  /-- The objects in memory after the step. -/
  objects : Option (List RoutingObject)

/-- What there is to see after a step, and the session with the newest row noted as seen. The first
argument is the session before the step. -/
def observe (before after : Session) : Observation × Session :=
  let calls := after.surroundings.clusterCalls.drop before.surroundings.clusterCalls.length
  let objects := after.surroundings.store?.map (·.objects)
  match after.surroundings.database.journal with
  | none => (⟨none, calls, objects⟩, after)
  | some journal =>
    let seen := match journal.rows.getLast? with
      | some row => row.1
      | none => after.seen
    (⟨some (journal.since after.seen), calls, objects⟩, { after with seen := seen })

/-- The outcomes of steps with what they left to see. Each step says whether it listens to the
signal to stop. -/
def runAll (session : Session) :
    List (Bool × Step) → List (Except Failure Outcome × Observation)
  | [] => []
  | (listens, step) :: rest =>
    let ran := session.run listens step
    let seen := observe session ran.2
    (ran.1, seen.1) :: seen.2.runAll rest

end Session

end RouteOverrides
