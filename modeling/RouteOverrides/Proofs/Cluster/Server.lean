import Mathlib.Data.Fintype.EquivFin
import RouteOverrides.Proofs.Cluster.Manifest
import RouteOverrides.Store.Cluster

/-! # The API server of a cluster

An API server keeps manifests at places, and gives a new version at every write. What its replies may
be is said by a relation, since the versions and the reasons of errors are up to the server.

* `ApiServer.Answers` — the replies to a call, and the server after it.
* `ApiServer.exists_answer` — every call is answered.
* `ApiServer.Holds` — a server whose manifests are read as given objects.
-/

namespace RouteOverrides

/-- A namespace and a name. -/
abbrev NamespacedName := String × String

structure ApiServer where
  /-- The manifests and their places, in the order of their creation. -/
  manifests : List (NamespacedName × Json)
  /-- The versions that were given at each place so far. -/
  issued : List (NamespacedName × String)

namespace ApiServer

def find? (server : ApiServer) (place : NamespacedName) : Option Json :=
  (server.manifests.find? fun entry => entry.1 == place).map (·.2)

def inNamespace (server : ApiServer) (ns : String) : List Json :=
  (server.manifests.filter fun entry => entry.1.1 == ns).map (·.2)

/-- Puts a manifest at a place, or at the end if there is none. -/
def put (place : NamespacedName) (manifest : Json) :
    List (NamespacedName × Json) → List (NamespacedName × Json)
  | [] => [(place, manifest)]
  | other :: rest =>
    if other.1 = place then (place, manifest) :: rest else other :: put place manifest rest

/-- Stores a manifest under a version. -/
def write (server : ApiServer) (place : NamespacedName) (version : String) (manifest : Json) :
    ApiServer where
  manifests := put place (Manifest.versioned version manifest) server.manifests
  issued := (place, version) :: server.issued

/-- What a server may reply to a call, and the server after it. -/
inductive Answers (server : ApiServer) :
    ClusterCall → Except ClusterError Json → ApiServer → Prop where
  | found {ns name : String} {manifest : Json} (held : server.find? (ns, name) = some manifest) :
      Answers server (.get ns name) (.ok manifest) server
  | absent {ns name : String} (vacant : server.find? (ns, name) = none) (reason : Option String) :
      Answers server (.get ns name) (.error ⟨some 404, reason⟩) server
  | listed {ns : String} {listing : List (String × Json)}
      (items : Keyed.find? "items" listing = some (.arr (server.inNamespace ns))) :
      Answers server (.list ns) (.ok (.obj listing)) server
  | taken {ns : String} {manifest current : Json}
      (held : server.find? (ns, Manifest.name manifest) = some current) (reason : Option String) :
      Answers server (.create ns manifest) (.error ⟨some 409, reason⟩) server
  | created {ns : String} {manifest : Json} {version : String}
      (vacant : server.find? (ns, Manifest.name manifest) = none)
      (new : ((ns, Manifest.name manifest), version) ∉ server.issued) (body : Json) :
      Answers server (.create ns manifest) (.ok body)
        (server.write (ns, Manifest.name manifest) version manifest)
  | lost {ns name : String} {change : Json} (vacant : server.find? (ns, name) = none)
      (reason : Option String) :
      Answers server (.patch ns name change) (.error ⟨some 404, reason⟩) server
  /-- The object has moved on since the version that the change carries. -/
  | stale {ns name carried : String} {change current : Json}
      (held : server.find? (ns, name) = some current)
      (carries : Manifest.version? change = some carried)
      (moved : Manifest.version? current ≠ some carried) (reason : Option String) :
      Answers server (.patch ns name change) (.error ⟨some 409, reason⟩) server
  | patched {ns name version : String} {change current : Json}
      (held : server.find? (ns, name) = some current)
      (upToDate : ∀ carried, Manifest.version? change = some carried →
        Manifest.version? current = some carried)
      (new : ((ns, name), version) ∉ server.issued) (body : Json) :
      Answers server (.patch ns name change) (.ok body)
        (server.write (ns, name) version (Manifest.annotated change current))

/-- There is always a version that was not given yet. -/
theorem exists_new_version (server : ApiServer) (place : NamespacedName) :
    ∃ version, (place, version) ∉ server.issued := by
  obtain ⟨version, new⟩ := Infinite.exists_notMem_finset (server.issued.map (·.2)).toFinset
  exact ⟨version, fun member => new (List.mem_toFinset.2 (List.mem_map.2 ⟨_, member, rfl⟩))⟩

theorem exists_answer (server : ApiServer) (call : ClusterCall) :
    ∃ reply later, server.Answers call reply later := by
  cases call with
  | get ns name =>
    cases held : server.find? (ns, name) with
    | none => exact ⟨_, _, .absent held none⟩
    | some manifest => exact ⟨_, _, .found held⟩
  | list ns => exact ⟨.ok (.obj [("items", .arr (server.inNamespace ns))]), _, .listed rfl⟩
  | create ns manifest =>
    cases held : server.find? (ns, Manifest.name manifest) with
    | none =>
      obtain ⟨version, new⟩ := server.exists_new_version (ns, Manifest.name manifest)
      exact ⟨_, _, .created held new .null⟩
    | some current => exact ⟨_, _, .taken held none⟩
  | patch ns name change =>
    cases held : server.find? (ns, name) with
    | none => exact ⟨_, _, .lost held none⟩
    | some current =>
      by_cases upToDate : ∀ carried, Manifest.version? change = some carried →
          Manifest.version? current = some carried
      · obtain ⟨version, new⟩ := server.exists_new_version (ns, name)
        exact ⟨_, _, .patched held upToDate new .null⟩
      · obtain ⟨carried, stale⟩ := not_forall.1 upToDate
        obtain ⟨carries, moved⟩ := Classical.not_imp.1 stale
        exact ⟨_, _, .stale held carries moved none⟩

/-- A manifest at its place is read as an object with a version. -/
structure Reads (entry : NamespacedName × Json) (object : RoutingObject) : Prop where
  accepted : RoutingObject.ofManifest entry.2 = .ok object
  placed : entry.1 = object.key
  versioned : object.revision ≠ none
  /-- No annotation is there twice. -/
  distinct : (Keyed.keys object.annotations).Nodup

/-- A server keeps manifests that are read as these objects, at most one at a place. -/
structure Holds (server : ApiServer) (objects : List RoutingObject) : Prop where
  reads : List.Forall₂ Reads server.manifests objects
  places : (server.manifests.map (·.1)).Nodup
  issued : ∀ object ∈ objects, ∀ version, object.revision = some version →
    (object.key, version) ∈ server.issued

end ApiServer

/-! ## What the store sends -/

namespace Manifest

theorem name_toManifest (settings : Settings) (object : RoutingObject) :
    name (object.toManifest settings) = object.name :=
  (name_of_read (RoutingObject.ofManifest_toManifest settings object)).trans rfl

def ofUpdate (object : RoutingObject) : Json :=
  .obj [("metadata", .obj (ClusterCall.updateMetadata object))]

theorem version?_ofUpdate (object : RoutingObject) : version? (ofUpdate object) = object.revision := by
  rw [version?]
  change (Keyed.find? "resourceVersion" (ClusterCall.updateMetadata object)).bind Json.text? = _
  rw [ClusterCall.updateMetadata]
  cases object.revision <;> rfl

theorem annotations_ofUpdate (object : RoutingObject) :
    annotations (ofUpdate object) = textMembers object.annotations := rfl

end Manifest

end RouteOverrides
