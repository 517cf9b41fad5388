import RouteOverrides.Owner.Basic
import RouteOverrides.Override.Handler

/-! # What the API is asked to do

The bodies of the two requests that change something: to see to an owner's overrides, and to release
them. Both need at least one service host.

* `OverrideForm.check`, `ReleaseForm.check`: the records.
* `OverrideForm.options`, `ReleaseForm.release`: what the reconciler is asked in turn. -/

namespace RouteOverrides

/-- A request to see to the overrides of an owner. -/
structure OverrideForm where
  ownerNs : String
  ownerName : String
  uniqueName : String
  uniqueVersion : String
  ns : String
  hosts : List String
  versionLabel : Option String
  defaultVersion : Option String
  deriving DecidableEq, Repr

/-- A request to release the overrides of an owner. -/
structure ReleaseForm where
  ownerNs : String
  ownerName : String
  uniqueName : String
  ns : String
  hosts : List String
  deriving DecidableEq, Repr

namespace OverrideForm

def owner (form : OverrideForm) : Owner := ⟨form.ownerNs, form.ownerName⟩

def check : Json → Schema.Checked OverrideForm :=
  Schema.record fun members =>
    (Schema.apply (.ok OverrideForm.mk) (Schema.required members "owner_namespace" Schema.text)
      |> fun soFar => Schema.apply soFar (Schema.required members "owner_name" Schema.text)
      |> fun soFar => Schema.apply soFar (Schema.required members "unique_name" Schema.text)
      |> fun soFar => Schema.apply soFar (Schema.required members "unique_version" Schema.text)
      |> fun soFar => Schema.apply soFar (Schema.required members "namespace" Schema.text)
      |> fun soFar =>
        Schema.apply soFar
          (Schema.required members "service_hosts" (Schema.nonEmptyListOf Schema.text))
      |> fun soFar => Schema.apply soFar (Schema.nullable members "version_label" Schema.text)
      |> fun soFar => Schema.apply soFar (Schema.nullable members "default_version" Schema.text))

/-- A request as a record. -/
def toJson (form : OverrideForm) : Json :=
  .obj
    [("owner_namespace", .str form.ownerNs), ("owner_name", .str form.ownerName),
      ("unique_name", .str form.uniqueName), ("unique_version", .str form.uniqueVersion),
      ("namespace", .str form.ns), ("service_hosts", .ofTextList form.hosts),
      ("version_label", .ofText? form.versionLabel),
      ("default_version", .ofText? form.defaultVersion)]

def options (form : OverrideForm) : HandlerOptions where
  owner := form.owner
  uniqueName := form.uniqueName
  uniqueVersion := form.uniqueVersion
  ns := form.ns
  hosts := form.hosts
  versionLabel := form.versionLabel
  defaultVersion := form.defaultVersion

end OverrideForm

namespace ReleaseForm

def owner (form : ReleaseForm) : Owner := ⟨form.ownerNs, form.ownerName⟩

def check : Json → Schema.Checked ReleaseForm :=
  Schema.record fun members =>
    (Schema.apply (.ok ReleaseForm.mk) (Schema.required members "owner_namespace" Schema.text)
      |> fun soFar => Schema.apply soFar (Schema.required members "owner_name" Schema.text)
      |> fun soFar => Schema.apply soFar (Schema.required members "unique_name" Schema.text)
      |> fun soFar => Schema.apply soFar (Schema.required members "namespace" Schema.text)
      |> fun soFar =>
        Schema.apply soFar
          (Schema.required members "service_hosts" (Schema.nonEmptyListOf Schema.text)))

/-- A request as a record. -/
def toJson (form : ReleaseForm) : Json :=
  .obj
    [("owner_namespace", .str form.ownerNs), ("owner_name", .str form.ownerName),
      ("unique_name", .str form.uniqueName), ("namespace", .str form.ns),
      ("service_hosts", .ofTextList form.hosts)]

/-- The release that is asked for, with the annotation key of the settings. -/
def release (form : ReleaseForm) (settings : Settings) : Release where
  owner := form.owner
  uniqueName := form.uniqueName
  ns := form.ns
  hosts := form.hosts
  key := settings.annotationKey none

end ReleaseForm

end RouteOverrides
