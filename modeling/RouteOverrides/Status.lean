import RouteOverrides.Json.Basic
import RouteOverrides.Schema

/-! # Statuses of overrides

A report has one status for each service host: whether its override is there, and if not, why.

* `Lifecycle.of`: the status that follows from "the override exists" and "the host is ignored".
* `Lifecycle.word` and `Lifecycle.words`: the written forms. -/

namespace RouteOverrides

/-- Where the override of a host stands. -/
inductive Lifecycle where
  | missing
  | initializing
  | running
  | ignoredMissing
  deriving DecidableEq, Repr, Inhabited

namespace Lifecycle

def word : Lifecycle → String
  | missing => "missing"
  | initializing => "initializing"
  | running => "running"
  | ignoredMissing => "ignored-missing"

def words : List (String × Lifecycle) :=
  [missing, initializing, running, ignoredMissing].map fun status => (status.word, status)

/-- The status of a host, from whether its override exists and whether the host is ignored. -/
def of (present ignored : Bool) : Lifecycle :=
  if present then running else if ignored then ignoredMissing else missing

@[simp] theorem of_true (ignored : Bool) : of true ignored = running := rfl
@[simp] theorem of_false_true : of false true = ignoredMissing := rfl
@[simp] theorem of_false_false : of false false = missing := rfl

end Lifecycle

/-- The status of one override object. -/
structure ResourceStatus where
  name : String
  ns : String
  status : Lifecycle
  deriving DecidableEq, Repr, Inhabited

namespace ResourceStatus

def check : Json → Schema.Checked ResourceStatus :=
  Schema.record fun members =>
    (Schema.apply (.ok ResourceStatus.mk) (Schema.required members "name" Schema.text)
      |> fun soFar => Schema.apply soFar (Schema.required members "namespace" Schema.text)
      |> fun soFar =>
        Schema.apply soFar (Schema.required members "status" (Schema.oneOf Lifecycle.words)))

/-- A status as a record. -/
def toJson (status : ResourceStatus) : Json :=
  .obj
    [("name", .str status.name), ("namespace", .str status.ns), ("status", .str status.status.word)]

end ResourceStatus

end RouteOverrides
