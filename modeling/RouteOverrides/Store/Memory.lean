import RouteOverrides.Failure
import RouteOverrides.Store.Call

/-! # The store in memory

Objects are kept in the order in which their places were first written. Every write gives the
written object the next revision, a decimal number that counts the writes of the whole store. An
update that carries another revision than the stored one is a conflict; one without a revision is
not checked.

* `MemoryStore.find?`: the object at a place.
* `MemoryStore.put`: a write without any check.
* `MemoryStore.answer`: the four calls. A call that fails leaves the store as it was. -/

namespace RouteOverrides

/-- Objects in memory, and how often they were written. -/
structure MemoryStore where
  objects : List RoutingObject
  writes : Nat
  deriving DecidableEq, Repr, Inhabited

namespace MemoryStore

/-- The store without objects. -/
def empty : MemoryStore := ⟨[], 0⟩

def find? (store : MemoryStore) (ns name : String) : Option RoutingObject :=
  store.objects.find? fun object => object.ns == ns && object.name == name

def inNamespace (store : MemoryStore) (ns : String) : List RoutingObject :=
  store.objects.filter fun object => object.ns == ns

/-- Puts an object in the place of the one with its key, or at the end. -/
def place (object : RoutingObject) : List RoutingObject → List RoutingObject
  | [] => [object]
  | other :: rest =>
    if other.key = object.key then object :: rest else other :: place object rest

def put (store : MemoryStore) (object : RoutingObject) : MemoryStore where
  objects := place { object with revision := some (toString (store.writes + 1)) } store.objects
  writes := store.writes + 1

/-- A store in which the objects have been written one after the other. -/
def ofList (objects : List RoutingObject) : MemoryStore := objects.foldl put empty

/-- The outcome of an update and the store after it. -/
def update (store : MemoryStore) (object : RoutingObject) : Except Failure Unit × MemoryStore :=
  match store.find? object.ns object.name with
  | none => (.error (.notFound object.path), store)
  | some current =>
    match object.revision with
    | none => (.ok (), store.put object)
    | some revision =>
      if some revision = current.revision then (.ok (), store.put object)
      else
        (.error (.conflict (object.path ++ ": have " ++ revision ++ ", store has "
          ++ current.revision.getD "None")), store)

/-- The outcome of a call and the store after it. -/
def answer (store : MemoryStore) : (call : StoreCall) → Except Failure call.Reply × MemoryStore
  | .get ns name =>
    match store.find? ns name with
    | some object => (.ok object, store)
    | none => (.error (.notFound (ns ++ "/" ++ name)), store)
  | .list ns => (.ok (store.inNamespace ns), store)
  | .create object =>
    match store.find? object.ns object.name with
    | some _ => (.error (.alreadyExists object.path), store)
    | none => (.ok (), store.put object)
  | .update object => store.update object

@[simp] theorem answer_list (store : MemoryStore) (ns : String) :
    store.answer (.list ns) = (.ok (store.inNamespace ns), store) := rfl

/-- Reading a place leaves the store as it was. -/
@[simp] theorem answer_get_snd (store : MemoryStore) (ns name : String) :
    (store.answer (.get ns name)).2 = store := by
  simp only [answer]
  split <;> rfl

end MemoryStore

end RouteOverrides
