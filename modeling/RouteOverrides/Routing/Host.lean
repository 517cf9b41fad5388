/-! # Hosts of services

Inside its own namespace a service may be called by its bare name or by one of three longer forms.

* `Host.short`: the bare name behind a longer form.
* `Host.sameService`: whether two hosts name one service. Equal hosts always do; different ones only
  if the declaring object lives in the namespace of the caller and the short forms agree. -/

namespace RouteOverrides.Host

/-- What may follow the bare name of a service in a namespace, the longest first. -/
def endings (ns : String) : List String :=
  ["." ++ ns ++ ".svc.cluster.local", "." ++ ns ++ ".svc", "." ++ ns]

/-- Whether a text ends in another one and has something before it. -/
def properlyEnds (ending s : List Char) : Bool :=
  ending.isSuffixOf s && ending.length < s.length

/-- The bare name of a host in a namespace; any other host stays as it is. -/
def short (host ns : String) : String :=
  match (endings ns).find? fun ending => properlyEnds ending.toList host.toList with
  | some ending => String.ofList (host.toList.take (host.toList.length - ending.toList.length))
  | none => host

/-- Whether `declaredHost`, on an object in `declaredNs`, names the service that a caller in `ns`
calls `host`. -/
def sameService (host ns declaredHost declaredNs : String) : Bool :=
  host == declaredHost || (declaredNs == ns && short host ns == short declaredHost ns)

/-- A host names its own service, in whichever namespace it is declared. -/
@[simp] theorem sameService_self (host ns declaredNs : String) :
    sameService host ns host declaredNs = true := by
  simp [sameService]

/-- Across namespaces only equal hosts name one service. -/
theorem sameService_of_ne {ns declaredNs : String} (h : declaredNs ≠ ns)
    (host declaredHost : String) :
    sameService host ns declaredHost declaredNs = (host == declaredHost) := by
  simp [sameService, h]

/-- Within a namespace, hosts with one short form name one service. -/
theorem sameService_iff {host ns declaredHost : String} :
    sameService host ns declaredHost ns = true ↔ short host ns = short declaredHost ns := by
  rw [sameService, Bool.or_eq_true, beq_iff_eq, beq_self_eq_true, Bool.true_and, beq_iff_eq]
  exact or_iff_right_of_imp (congrArg (short · ns))

end RouteOverrides.Host
