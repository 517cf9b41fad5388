import RouteOverrides.Json.Lenient
import RouteOverrides.Routing.Object
import RouteOverrides.Settings

/-! # Manifests

A cluster keeps a routing object as a manifest: name, namespace, labels and annotations under
`metadata`, host and subsets under `spec`.

* `RoutingObject.toManifest`: the manifest to send. It carries no revision, since the cluster gives
  those.
* `RoutingObject.ofManifest`: reads a manifest. Missing and null parts are empty; a part of the
  wrong kind is a fault. -/

namespace RouteOverrides

namespace Subset

def ofManifest (value : Json) : Except Failure Subset :=
  match value with
  | .obj members =>
    let labels := (Keyed.find? "labels" members).getD .null
    let checked :=
      Schema.apply
        (Schema.apply (.ok Subset.mk) <|
          Schema.within (.member "name")
            (Schema.text ((Keyed.find? "name" members).getD (.str ""))))
        (Schema.within (.member "labels")
          (if labels.isEmpty then .ok [] else Schema.texts labels))
    checked.mapError .invalidRecord
  | _ => .error .misread

end Subset

namespace RoutingObject

def toManifest (settings : Settings) (object : RoutingObject) : Json :=
  .obj
    [("apiVersion", .str (settings.group ++ "/" ++ settings.version)),
      ("kind", .str settings.kind),
      ("metadata", .obj
        [("name", .str object.name), ("namespace", .str object.ns),
          ("labels", .ofTexts object.labels), ("annotations", .ofTexts object.annotations)]),
      ("spec", .obj
        [("host", .str object.host), ("subsets", .arr (object.subsets.map Subset.toJson))])]

/-- A map from texts to texts that may be missing or empty. -/
def lenientTexts (members : List (String × Json)) (name : String) :
    Schema.Checked (List (String × String)) :=
  let value := (Keyed.find? name members).getD .null
  Schema.within (.member name) (if value.isEmpty then .ok [] else Schema.texts value)

/-- A text that is empty when it is missing; `label` is the name that a fault gives. -/
def lenientText (members : List (String × Json)) (name label : String) : Schema.Checked String :=
  Schema.within (.member label) (Schema.text ((Keyed.find? name members).getD (.str "")))

/-- The revision that the cluster gave, if any. -/
def manifestRevision (metadata : List (String × Json)) : Schema.Checked (Option String) :=
  match Keyed.find? "resourceVersion" metadata with
  | none | some .null => .ok none
  | some (.str revision) => .ok (some revision)
  | some _ => .error [⟨[.member "resource_version"], .notText⟩]

def ofParts (metadata spec : List (String × Json)) (subsets : List Subset) :
    Schema.Checked RoutingObject :=
  Schema.apply (.ok RoutingObject.mk) (lenientText metadata "name" "name")
    |> fun soFar => Schema.apply soFar (lenientText metadata "namespace" "namespace")
    |> fun soFar => Schema.apply soFar (lenientTexts metadata "labels")
    |> fun soFar => Schema.apply soFar (lenientTexts metadata "annotations")
    |> fun soFar => Schema.apply soFar (lenientText spec "host" "host")
    |> fun soFar => Schema.apply soFar (.ok subsets)
    |> fun soFar => Schema.apply soFar (manifestRevision metadata)

def ofManifest (manifest : Json) : Except Failure RoutingObject :=
  match manifest with
  | .obj members => do
    let metadata ← Lenient.members (Keyed.find? "metadata" members)
    let spec ← Lenient.members (Keyed.find? "spec" members)
    let items ← Lenient.items (Keyed.find? "subsets" spec)
    -- A subset that cannot be read is reported by itself, before the object is looked at.
    let subsets ← items.mapM Subset.ofManifest
    (ofParts metadata spec subsets).mapError .invalidRecord
  | _ => .error .misread

end RoutingObject

end RouteOverrides
