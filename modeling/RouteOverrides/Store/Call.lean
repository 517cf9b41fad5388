import RouteOverrides.Routing.Object

/-! # Calls to an object store

What the reconciler needs of a store are four calls. Each has a type of reply of its own
(`StoreCall.Reply`), and any of them may fail instead of replying. -/

namespace RouteOverrides

/-- One call to an object store. -/
inductive StoreCall where
  /-- The object at a place. -/
  | get (ns name : String)
  /-- All objects of a namespace. -/
  | list (ns : String)
  /-- Puts an object at a place where there is none. -/
  | create (object : RoutingObject)
  /-- Writes back an object that was read. -/
  | update (object : RoutingObject)
  deriving DecidableEq, Repr

namespace StoreCall

abbrev Reply : StoreCall → Type
  | get _ _ => RoutingObject
  | list _ => List RoutingObject
  | create _ => Unit
  | update _ => Unit

/-- The four kinds of calls. -/
inductive Verb where
  | get
  | list
  | create
  | update
  deriving DecidableEq, Repr

def verb : StoreCall → Verb
  | get _ _ => .get
  | list _ => .list
  | create _ => .create
  | update _ => .update

/-- What a call is about: the name of an object, or the namespace to list. -/
def subject : StoreCall → String
  | get _ name => name
  | list ns => ns
  | create object => object.name
  | update object => object.name

end StoreCall

end RouteOverrides
