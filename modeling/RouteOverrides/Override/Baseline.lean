import RouteOverrides.Name
import RouteOverrides.Program
import RouteOverrides.Routing.Host

/-! # Baselines and the overrides built from them

The baseline of a service host is the first object of the namespace that names the host's service
and has a subset for the default version. Without one there is nothing to override, and the host is
ignored.

* `Lookup.accepts`: whether an object is a baseline for a host.
* `Lookup.locate`: the baseline of a host. When there is none, the journal says so.
* `Template.object`: the override built from a baseline. -/

namespace RouteOverrides

/-- Where baselines are looked for, and which version they serve. -/
structure Lookup where
  ns : String
  versionLabel : String
  defaultVersion : String
  deriving DecidableEq, Repr

namespace Lookup

def accepts (lookup : Lookup) (host : String) (object : RoutingObject) : Bool :=
  Host.sameService host lookup.ns object.host object.ns
    && (object.subsetWith? lookup.versionLabel lookup.defaultVersion).isSome

/-- What the journal says when a host has no baseline. -/
def absenceEntry (lookup : Lookup) (host : String) : Entry where
  level := "INFO"
  message := "No routing object with " ++ lookup.versionLabel ++ "=" ++ lookup.defaultVersion
    ++ " in namespace " ++ lookup.ns
  host := some host

/-- The baseline of a service host; none if the host is to be ignored. -/
def locate (lookup : Lookup) (host : String) : Action (Option RoutingObject) := do
  Action.checkInterrupted
  let objects ← Action.blaming host "list routing objects" (Action.call (.list lookup.ns))
  match objects.find? (lookup.accepts host) with
  | some object => pure (some object)
  | none =>
    Action.log (lookup.absenceEntry host)
    pure none

end Lookup

/-- How overrides are built: the name that they start with, and the version that they route to. -/
structure Template where
  lookup : Lookup
  uniqueName : String
  uniqueVersion : String
  deriving DecidableEq, Repr

namespace Template

def labels (template : Template) : List (String × String) :=
  [(template.lookup.versionLabel, template.uniqueVersion)]

/-- The override of a service host, built from its baseline. It takes over the declared host. -/
def object (template : Template) (host : String) (baseline : RoutingObject) : RoutingObject where
  name := overrideName template.uniqueName host
  ns := template.lookup.ns
  labels := template.labels
  annotations := []
  host := baseline.host
  subsets := [⟨template.uniqueVersion, template.labels⟩]
  revision := none

/-- Looks for the baseline of a service host and builds the override. -/
def generate (template : Template) (host : String) : Action (Option RoutingObject) := do
  pure ((← template.lookup.locate host).map (template.object host))

end Template

end RouteOverrides
