import RouteOverrides.Manifest
import RouteOverrides.Store.Call

/-! # The store in a cluster

A cluster keeps objects as manifests behind an API with four calls. Every store call becomes one API
call, and the API's reply is read as the store's reply.

* `ClusterCall.ofStoreCall`: the API call for a store call. An update sends the annotations only:
  nothing else of an object changes once it is there. It carries the revision that was read, if one
  is known, and the cluster then refuses to change an object that has moved on.
* `StoreCall.readReply`: the store's reply, from the API's. The statuses 404 and 409 have meanings
  of their own, except when listing. -/

namespace RouteOverrides

/-- One call to the API of a cluster. -/
inductive ClusterCall where
  | get (ns name : String)
  | list (ns : String)
  | create (ns : String) (manifest : Json)
  | patch (ns name : String) (change : Json)

/-- An error with the status and the reason that the cluster gives, as far as it gives them. -/
structure ClusterError where
  status : Option Int
  reason : Option String
  deriving DecidableEq, Repr

namespace ClusterCall

def updateMetadata (object : RoutingObject) : List (String × Json) :=
  ("annotations", .ofTexts object.annotations) ::
    match object.revision with
    | some revision => [("resourceVersion", .str revision)]
    | none => []

def ofStoreCall (settings : Settings) : StoreCall → ClusterCall
  | .get ns name => .get ns name
  | .list ns => .list ns
  | .create object => .create object.ns (object.toManifest settings)
  | .update object =>
    .patch object.ns object.name (.obj [("metadata", .obj (updateMetadata object))])

def verb : ClusterCall → String
  | get _ _ => "get"
  | list _ => "list"
  | create _ _ => "create"
  | patch _ _ _ => "patch"

/-- The arguments of a call, in their order: group and version of the kind of object, the namespace,
the plural of the kind, and what the call itself is about. -/
def arguments (settings : Settings) (call : ClusterCall) : List Json :=
  let address (ns : String) : List Json :=
    [.str settings.group, .str settings.version, .str ns, .str settings.plural]
  match call with
  | get ns name => address ns ++ [.str name]
  | list ns => address ns
  | create ns manifest => address ns ++ [manifest]
  | patch ns name change => address ns ++ [.str name, change]

end ClusterCall

namespace ClusterError

/-- The failure that an error stands for by itself. -/
def plain (error : ClusterError) : Failure :=
  match error.status with
  | some status => .clusterStatus status error.reason
  | none => .clusterUnstated error.reason

/-- The failure that an error stands for when a place was asked for. -/
def failure (error : ClusterError) (path : String) (onConflict : String → Failure) : Failure :=
  match error.status with
  | some 404 => .notFound path
  | some 409 => onConflict path
  | _ => error.plain

end ClusterError

namespace StoreCall

/-- The objects of a listing; a listing without items has no objects. -/
def readListing (listing : Json) : Except Failure (List RoutingObject) :=
  match listing with
  | .obj members =>
    match Keyed.find? "items" members with
    | some value => do (← Lenient.listed value).mapM RoutingObject.ofManifest
    | none => .ok []
  | _ => .error .misread

/-- The store's reply to a call, from the reply of the API. -/
def readReply : (call : StoreCall) → Except ClusterError Json → Except Failure call.Reply
  | .get _ _, .ok manifest => RoutingObject.ofManifest manifest
  | .get ns name, .error error => .error (error.failure (ns ++ "/" ++ name) .alreadyExists)
  | .list _, .ok listing => readListing listing
  | .list _, .error error => .error error.plain
  | .create _, .ok _ => .ok ()
  | .create object, .error error => .error (error.failure object.path .alreadyExists)
  | .update _, .ok _ => .ok ()
  | .update object, .error error => .error (error.failure object.path .conflict)

end StoreCall

/-- The API of a cluster whose replies are known in advance, and the calls that it has got. When the
replies are used up, every further reply is an empty object. -/
structure ScriptedCluster where
  replies : List (Except ClusterError Json)
  calls : List ClusterCall

namespace ScriptedCluster

/-- The next reply and the cluster after it. -/
def reply (cluster : ScriptedCluster) (call : ClusterCall) :
    Except ClusterError Json × ScriptedCluster :=
  match cluster.replies with
  | [] => (.ok (.obj []), { cluster with calls := cluster.calls ++ [call] })
  | reply :: rest => (reply, ⟨rest, cluster.calls ++ [call]⟩)

/-- The outcome of a store call and the cluster after it. -/
def answer (cluster : ScriptedCluster) (settings : Settings) (call : StoreCall) :
    Except Failure call.Reply × ScriptedCluster :=
  let replied := cluster.reply (ClusterCall.ofStoreCall settings call)
  (call.readReply replied.1, replied.2)

end ScriptedCluster

end RouteOverrides
