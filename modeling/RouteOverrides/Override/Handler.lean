import RouteOverrides.Override.Baseline
import RouteOverrides.Override.Release
import RouteOverrides.Override.Tracker
import RouteOverrides.Settings

/-! # Handlers

A handler keeps the overrides of one owner: one object for each service host, named after the host
and routing to the owner's version.

* `Handler.create?`: a handler, if its unique name and its version are accepted.
* `Handler.handle`: one pass over the hosts. A host whose override exists is active. For any other
  host the override is created; if the host has no baseline it is ignored instead. A pass that
  leaves no host active fails.
* `Handler.statuses`: one status for each host.
* `Handler.publish`: writes statuses to the status table.

A pass that fails keeps what it has done and noted so far, so that another pass can go on. -/

namespace RouteOverrides

/-- An action that also keeps a tracker, whether it fails or not. -/
abbrev Pass (α : Type) := ExceptT Failure (StateT Tracker Program) α

namespace Pass

variable {α : Type}

/-- An action that leaves the tracker alone. -/
def ofAction (action : Action α) : Pass α :=
  ExceptT.mk fun tracker => do pure (← action.run, tracker)

def note (change : Tracker → Tracker) : Pass Unit :=
  ExceptT.mk fun tracker => pure (.ok (), change tracker)

/-- The tracker as it is. -/
def tracker : Pass Tracker := ExceptT.mk fun tracker => pure (.ok tracker, tracker)

/-- The outcome of a pass with the tracker after it. -/
def outcome (pass : Pass α) (tracker : Tracker) : Program (Except Failure α × Tracker) :=
  pass.run tracker

end Pass

/-- What a handler is asked to do. Settings stand in for the options that are not given. -/
structure HandlerOptions where
  owner : Owner
  uniqueName : String
  uniqueVersion : String
  ns : String
  hosts : List String
  versionLabel : Option String := none
  defaultVersion : Option String := none
  key : Option String := none
  deriving DecidableEq, Repr

/-- The keeper of one owner's overrides. -/
structure Handler where
  owner : Owner
  uniqueName : String
  uniqueVersion : String
  ns : String
  hosts : List String
  versionLabel : String
  defaultVersion : String
  /-- The annotation key that lists the owners. -/
  key : String
  deriving DecidableEq, Repr, Inhabited

namespace Handler

/-- A handler, if its names are accepted; the unique name is looked at first. -/
def create? (settings : Settings) (options : HandlerOptions) : Except Failure Handler :=
  if !NameRule.uniqueName.accepts options.uniqueName then .error .invalidUniqueName
  else if !NameRule.version.accepts options.uniqueVersion then .error .invalidVersion
  else
    .ok
      { owner := options.owner
        uniqueName := options.uniqueName
        uniqueVersion := options.uniqueVersion
        ns := options.ns
        hosts := options.hosts
        versionLabel := Settings.orDefault options.versionLabel settings.versionLabel
        defaultVersion := Settings.orDefault options.defaultVersion settings.defaultVersion
        key := settings.annotationKey options.key }

def lookup (handler : Handler) : Lookup :=
  ⟨handler.ns, handler.versionLabel, handler.defaultVersion⟩

def template (handler : Handler) : Template :=
  ⟨handler.lookup, handler.uniqueName, handler.uniqueVersion⟩

def nameFor (handler : Handler) (host : String) : String := overrideName handler.uniqueName host

/-- What the journal says when a host is ignored for the first time. -/
def ignoredEntry (handler : Handler) (host : String) : Entry where
  level := "INFO"
  message := "Added hostname to list of ignored missing"
  subset := some handler.uniqueName
  host := some host

/-- What the journal says before an override is created. -/
def deployEntry (handler : Handler) (host : String) : Entry where
  level := "INFO"
  message := "Deploying override routing object " ++ handler.nameFor host
  subset := some handler.uniqueName
  host := some host

/-- What the journal says when a pass leaves no host active. -/
def failedEntry (handler : Handler) (failure : Failure) : Entry where
  level := "ERROR"
  message := failure.message
  subset := some handler.uniqueName

def present (handler : Handler) (host : String) : Action Bool := do
  Action.checkInterrupted
  match ← Action.attempt (.get handler.ns (handler.nameFor host)) with
  | .ok _ => pure true
  | .error (.notFound _) => pure false
  | .error failure =>
    throw (.atStore host ("get routing object " ++ handler.nameFor host) failure)

/-- Creates the override of a host, or ignores the host if it has no baseline. -/
def createMissing (handler : Handler) (host : String) : Pass Unit := do
  -- The status goes first, so that the host shows up in reports whatever happens next.
  Pass.ofAction <| Action.blaming host "record initializing status" <|
    Action.record handler.uniqueName ⟨handler.nameFor host, handler.ns, .initializing⟩
  match ← Pass.ofAction (handler.template.generate host) with
  | none =>
    let marked := (← Pass.tracker).markIgnored host
    Pass.note fun _ => marked.2
    if marked.1 then Pass.ofAction (Action.log (handler.ignoredEntry host))
  | some object =>
    Pass.ofAction (Action.log (handler.deployEntry host))
    Pass.ofAction Action.checkInterrupted
    -- The object arrives in the store with its owner already on it.
    Pass.ofAction <|
      Action.blaming host ("create routing object " ++ handler.nameFor host) <|
        Action.call (.create (object.addOwner handler.key handler.owner).2)
    Pass.note (·.markActive host)

def visit (handler : Handler) (host : String) : Pass Unit := do
  if ← Pass.ofAction (handler.present host) then Pass.note (·.markActive host)
  else handler.createMissing host

/-- Sees to some hosts, one after the other. -/
def visitAll (handler : Handler) : List String → Pass Unit
  | [] => pure ()
  | host :: rest => do
    handler.visit host
    handler.visitAll rest

def handle (handler : Handler) : Pass PassResult := do
  Pass.note Tracker.beginPass
  handler.visitAll handler.hosts
  let tracker ← Pass.tracker
  if tracker.active.isEmpty then
    let failure := Failure.noActiveHost handler.uniqueName tracker.ignored
    Pass.ofAction (Action.log (handler.failedEntry failure))
    throw failure
  else pure tracker.result

/-- The status of each of some hosts; a host without an override is reported as ignored if it is one
of `ignored`. -/
def statusesOf (handler : Handler) (ignored : List String) :
    List String → Action (List ResourceStatus)
  | [] => pure []
  | host :: rest => do
    let present ← handler.present host
    let statuses ← handler.statusesOf ignored rest
    pure (⟨handler.nameFor host, handler.ns, Lifecycle.of present (ignored.contains host)⟩
      :: statuses)

def statuses (handler : Handler) (ignored : List String) : Action (List ResourceStatus) :=
  handler.statusesOf ignored handler.hosts

def publish (handler : Handler) : List ResourceStatus → Action Unit
  | [] => pure ()
  | status :: rest => do
    Action.record handler.uniqueName status
    handler.publish rest

def toRelease (handler : Handler) : Release where
  owner := handler.owner
  uniqueName := handler.uniqueName
  ns := handler.ns
  hosts := handler.hosts
  key := handler.key

def release (handler : Handler) : Action (List String) := handler.toRelease.perform

end Handler

end RouteOverrides
