import RouteOverrides.Failure
import RouteOverrides.Json.Height
import RouteOverrides.Json.Lenient
import RouteOverrides.Owner.Set
import RouteOverrides.Routing.Object

/-! # Owners recorded on objects

Every override carries its owners in one annotation. Two forms of an object are supported: a routing
object, and a raw object whose annotations stand under `metadata`.

* `RoutingObject.owners`, `addOwner`, `removeOwner`: the owners of a routing object. This never
  fails.
* `Snapshot.owners?`, `addOwner`, `removeOwner`: the same for either form. A raw object may be
  misread, or refuse to be written into, so the answer comes with the object as the step leaves it,
  whether it fails or not. `addOwner?` and `removeOwner?` drop the object of a step that fails.

Adding and removing answer whether there was anything to do; if not, the object stays as it was,
malformed tokens included. A change writes the whole annotation anew. -/

namespace RouteOverrides

namespace RoutingObject

def owners (object : RoutingObject) (key : String) : OwnerSet :=
  OwnerSet.parse ((Keyed.find? key object.annotations).getD "")

/-- The object with these owners recorded under a key. -/
def withOwners (object : RoutingObject) (key : String) (owners : OwnerSet) : RoutingObject :=
  { object with annotations := Keyed.put key owners.encode object.annotations }

/-- Carries out a change of the recorded owners, if it is one. -/
def change (object : RoutingObject) (key : String) (step : OwnerSet → Bool × OwnerSet) :
    Bool × RoutingObject :=
  let after := step (object.owners key)
  if after.1 then (true, object.withOwners key after.2) else (false, object)

/-- Records an owner; answers whether it was new. -/
def addOwner (object : RoutingObject) (key : String) (owner : Owner) : Bool × RoutingObject :=
  object.change key (·.add owner)

/-- Takes an owner off; answers whether it was there. -/
def removeOwner (object : RoutingObject) (key : String) (owner : Owner) : Bool × RoutingObject :=
  object.change key (·.discard owner)

end RoutingObject

/-- An object in one of the two forms in which watch events carry it. -/
inductive Snapshot where
  | model (object : RoutingObject)
  | raw (members : List (String × Json))

namespace Snapshot

/-! ## Raw objects -/

def rawValue (object : List (String × Json)) (key : String) : Except Failure String := do
  let metadata ← Lenient.members (Keyed.find? "metadata" object)
  let annotations ← Lenient.members (Keyed.find? "annotations" metadata)
  Lenient.text (Keyed.find? key annotations)

/-- A raw object with metadata: empty ones where it has none. -/
def withMetadata (object : List (String × Json)) : List (String × Json) :=
  match Keyed.find? "metadata" object with
  | none => Keyed.put "metadata" (.obj []) object
  | some _ => object

/-- Makes room for annotations: missing or null ones become empty. Metadata that hold no members are
misread. The object after the step comes second. -/
def makeRoom (object : List (String × Json)) : Except Failure Unit × List (String × Json) :=
  match Keyed.find? "metadata" object with
  | some (.obj metadata) =>
    match Keyed.find? "annotations" metadata with
    | none | some .null =>
      (.ok (), Keyed.put "metadata" (.obj (Keyed.put "annotations" (.obj []) metadata)) object)
    | some _ => (.ok (), object)
  | _ => (.error .misread, object)

/-- Writes one annotation. Nothing but an object can be written into. -/
def writeAnnotation (object : List (String × Json)) (key value : String) :
    Except Failure Unit × List (String × Json) :=
  match Keyed.find? "metadata" object with
  | some (.obj metadata) =>
    match Keyed.find? "annotations" metadata with
    | some (.obj annotations) =>
      (.ok (), Keyed.put "metadata"
        (.obj (Keyed.put "annotations" (.obj (Keyed.put key (.str value) annotations)) metadata))
        object)
    | _ => (.error .misplaced, object)
  | _ => (.error .misread, object)

/-- Annotates a raw object step by step, up to the first failure. -/
def rawAnnotate (object : List (String × Json)) (key value : String) :
    Except Failure Unit × List (String × Json) :=
  match makeRoom (withMetadata object) with
  | (.ok (), prepared) => writeAnnotation prepared key value
  | (.error failure, prepared) => (.error failure, prepared)

/-! ## Either form -/

def owners? (snapshot : Snapshot) (key : String) : Except Failure OwnerSet :=
  match snapshot with
  | .model object => .ok (object.owners key)
  | .raw object => (rawValue object key).map OwnerSet.parse

/-- Records these owners under a key; the object after that comes second. -/
def writeOwners (snapshot : Snapshot) (key : String) (owners : OwnerSet) :
    Except Failure Unit × Snapshot :=
  match snapshot with
  | .model object => (.ok (), .model (object.withOwners key owners))
  | .raw object =>
    let written := rawAnnotate object key owners.encode
    (written.1, .raw written.2)

def hasOwner? (snapshot : Snapshot) (key : String) (owner : Owner) : Except Failure Bool :=
  (snapshot.owners? key).map (·.contains owner)

/-- Carries out a change of the recorded owners, if it is one. -/
def change (snapshot : Snapshot) (key : String) (step : OwnerSet → Bool × OwnerSet) :
    Except Failure Bool × Snapshot :=
  match snapshot.owners? key with
  | .error failure => (.error failure, snapshot)
  | .ok owners =>
    let after := step owners
    if after.1 then
      let written := snapshot.writeOwners key after.2
      (written.1.map fun _ => true, written.2)
    else (.ok false, snapshot)

/-- Records an owner; answers whether it was new. -/
def addOwner (snapshot : Snapshot) (key : String) (owner : Owner) :
    Except Failure Bool × Snapshot :=
  snapshot.change key (·.add owner)

/-- Takes an owner off; answers whether it was there. -/
def removeOwner (snapshot : Snapshot) (key : String) (owner : Owner) :
    Except Failure Bool × Snapshot :=
  snapshot.change key (·.discard owner)

/-- The answer of a step with the object after it, if the step did not fail. -/
def succeeded : Except Failure Bool × Snapshot → Except Failure (Bool × Snapshot)
  | (.ok answer, after) => .ok (answer, after)
  | (.error failure, _) => .error failure

/-- Records an owner; answers whether it was new, with the object after that. -/
def addOwner? (snapshot : Snapshot) (key : String) (owner : Owner) :
    Except Failure (Bool × Snapshot) :=
  succeeded (snapshot.addOwner key owner)

/-- Takes an owner off; answers whether it was there, with the object after that. -/
def removeOwner? (snapshot : Snapshot) (key : String) (owner : Owner) :
    Except Failure (Bool × Snapshot) :=
  succeeded (snapshot.removeOwner key owner)

@[simp] theorem owners?_model (object : RoutingObject) (key : String) :
    owners? (.model object) key = .ok (object.owners key) := rfl

@[simp] theorem writeOwners_model (object : RoutingObject) (key : String) (owners : OwnerSet) :
    writeOwners (.model object) key owners = (.ok (), .model (object.withOwners key owners)) := rfl

/-- On a routing object, a change through a snapshot is the change itself. -/
theorem change_model (object : RoutingObject) (key : String)
    (step : OwnerSet → Bool × OwnerSet) :
    change (.model object) key step =
      (.ok (object.change key step).1, .model (object.change key step).2) := by
  simp only [change, RoutingObject.change, owners?_model]
  split <;> rfl

/-! ## Snapshots as records -/

/-- The greatest height of a value in a raw object that is written out. -/
def maxHeight : Nat := 255

/-- The record of an object. A raw object is written as it is, unless it is too deep. -/
def toJson : Snapshot → Except Failure Json
  | .model object => .ok object.toJson
  | .raw members =>
    if Json.heightOfMembers members ≤ maxHeight then .ok (.obj members) else .error .tooDeep

end Snapshot

end RouteOverrides
