import RouteOverrides.Name
import RouteOverrides.Program
import RouteOverrides.Snapshot

/-! # Releasing overrides

An owner that needs its overrides no longer is taken off them. Objects are never deleted here: the
names of those left without any owner are the answer, for someone else to collect.

Each write is conditional on the revision that was read. After a conflict the object is read again,
and the fifth conflict in a row is a failure.

* `Release.one`: one override, with the number of attempts that are left.
* `Release.perform`: the overrides of all service hosts. -/

namespace RouteOverrides

/-- An owner to take off the overrides of service hosts. -/
structure Release where
  owner : Owner
  uniqueName : String
  ns : String
  hosts : List String
  /-- The annotation key that lists the owners. -/
  key : String
  deriving DecidableEq, Repr

namespace Release

/-- How often an override is read and written before giving up. -/
def maxAttempts : Nat := 5

def conflictEntry (release : Release) (host name : String) : Entry where
  level := "WARN"
  message := "Conflict releasing " ++ release.owner.token ++ " from " ++ name ++ ", retrying"
  host := some host

def releasedEntry (release : Release) (host name : String) : Entry where
  level := "INFO"
  message := "Released " ++ release.owner.token ++ " from " ++ name
  host := some host

/-- Takes the owner off one override; answers whether that left it without any owner. -/
def one (release : Release) (host name : String) : Nat → Action Bool
  | 0 => pure false
  | left + 1 => do
    Action.checkInterrupted
    match ← Action.attempt (.get release.ns name) with
    | .error (.notFound _) => pure false
    | .error failure => throw (.atStore host ("get routing object " ++ name) failure)
    | .ok object =>
      let removal := object.removeOwner release.key release.owner
      if removal.1 then
        Action.checkInterrupted
        match ← Action.attempt (.update removal.2) with
        | .ok () =>
          Action.log (release.releasedEntry host name)
          pure (removal.2.owners release.key).toList.isEmpty
        | .error (.conflict detail) =>
          -- Somebody else wrote the object in between, so what was read is out of date.
          if left = 0 then
            throw (.atStore host ("update routing object " ++ name) (.conflict detail))
          else
            Action.log (release.conflictEntry host name)
            one release host name left
        | .error failure => throw (.atStore host ("update routing object " ++ name) failure)
      else pure false

/-- The overrides of some hosts; answers the names of those left without any owner. -/
def forHosts (release : Release) : List String → Action (List String)
  | [] => pure []
  | host :: rest => do
    let name := overrideName release.uniqueName host
    let emptied ← release.one host name maxAttempts
    let names ← release.forHosts rest
    pure (if emptied then name :: names else names)

def perform (release : Release) : Action (List String) := release.forHosts release.hosts

end Release

end RouteOverrides
