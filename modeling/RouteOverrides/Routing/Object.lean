import RouteOverrides.Json.Basic
import RouteOverrides.Schema

/-! # Routing objects

A routing object declares a host and splits its traffic into subsets by labels. The object of a
service that everybody uses is a baseline; an override routes to one version only.

* `RoutingObject.subsetWith?`: the first subset whose label has a value.
* `Subset.check`, `RoutingObject.check`: the records of both.
* `RoutingObject.revision`: the version that the store gave the object; none means unknown. -/

namespace RouteOverrides

/-- A part of a service's traffic, selected by labels. -/
structure Subset where
  name : String
  labels : List (String × String)
  deriving DecidableEq, Repr, Inhabited

/-- A routing object as stores keep it. -/
structure RoutingObject where
  name : String
  ns : String
  labels : List (String × String)
  annotations : List (String × String)
  host : String
  subsets : List Subset
  revision : Option String
  deriving DecidableEq, Repr, Inhabited

namespace Subset

/-- The record of a subset; labels may be missing. -/
def check : Json → Schema.Checked Subset :=
  Schema.record fun members =>
    Schema.apply
      (Schema.apply (.ok Subset.mk) (Schema.required members "name" Schema.text))
      (Schema.optional members "labels" [] Schema.texts)

/-- A subset as a record. -/
def toJson (subset : Subset) : Json :=
  .obj [("name", .str subset.name), ("labels", .ofTexts subset.labels)]

end Subset

namespace RoutingObject

/-- The first subset whose label has the value. -/
def subsetWith? (object : RoutingObject) (label value : String) : Option Subset :=
  object.subsets.find? fun subset => Keyed.find? label subset.labels == some value

/-- The record of a routing object; labels, annotations, subsets and revision may be missing. -/
def check : Json → Schema.Checked RoutingObject :=
  Schema.record fun members =>
    (Schema.apply (.ok RoutingObject.mk) (Schema.required members "name" Schema.text)
      |> fun soFar => Schema.apply soFar (Schema.required members "namespace" Schema.text)
      |> fun soFar => Schema.apply soFar (Schema.optional members "labels" [] Schema.texts)
      |> fun soFar => Schema.apply soFar (Schema.optional members "annotations" [] Schema.texts)
      |> fun soFar => Schema.apply soFar (Schema.required members "host" Schema.text)
      |> fun soFar =>
        Schema.apply soFar (Schema.optional members "subsets" [] (Schema.listOf Subset.check))
      |> fun soFar =>
        Schema.apply soFar (Schema.nullable members "resource_version" Schema.text))

/-- A routing object as a record, every member written. -/
def toJson (object : RoutingObject) : Json :=
  .obj
    [("name", .str object.name), ("namespace", .str object.ns),
      ("labels", .ofTexts object.labels), ("annotations", .ofTexts object.annotations),
      ("host", .str object.host), ("subsets", .arr (object.subsets.map Subset.toJson)),
      ("resource_version", .ofText? object.revision)]

def key (object : RoutingObject) : String × String := (object.ns, object.name)

def path (object : RoutingObject) : String := object.ns ++ "/" ++ object.name

end RoutingObject

end RouteOverrides
