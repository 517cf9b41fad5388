import RouteOverrides.Snapshot

/-! # Watch events

A watch event says that an object was created, updated or deleted, or that something else happened
to it. It asks for one reconciliation of every owner that the object records.

* `EventKind.parse`: the kind of event that a word names.
* `fanOut`: the owners to reconcile, those of the object first. An update also asks those owners
  that only the previous form of the object records.
* `enqueue`: a queue of owners after an event. An event whose object cannot be read adds nothing.
* `WatchEvent.check`, `WatchEvent.toJson`: an event as a record, read and written. -/

namespace RouteOverrides

/-- What happened to an object. -/
inductive EventKind where
  | create
  | update
  | delete
  | generic
  deriving DecidableEq, Repr, Inhabited

namespace EventKind

def word : EventKind → String
  | create => "create"
  | update => "update"
  | delete => "delete"
  | generic => "generic"

def words : List (String × EventKind) :=
  [create, update, delete, generic].map fun kind => (kind.word, kind)

def parse (word : String) : Except Failure EventKind :=
  match Keyed.find? word words with
  | some kind => .ok kind
  | none => .error (.unknownEventKind word)

@[simp] theorem parse_word (kind : EventKind) : parse kind.word = .ok kind := by
  cases kind <;> simp [parse, words, word, Keyed.find?]

end EventKind

/-- Something that happened to an object. The previous form counts for an update only. -/
structure WatchEvent where
  kind : EventKind
  object : Snapshot
  previous : Option Snapshot

namespace WatchEvent

/-- The forms of the object to ask for owners, in order. -/
def snapshots (event : WatchEvent) : List Snapshot :=
  match event.kind, event.previous with
  | .update, some previous => [event.object, previous]
  | _, _ => [event.object]

/-- The owners to reconcile after an event. -/
def fanOut (event : WatchEvent) (key : String) : Except Failure (List Owner) := do
  let sets ← event.snapshots.mapM (·.owners? key)
  pure (OwnerSet.ofList (sets.flatMap (·.toList))).toList

/-- A queue after an event; none of the event's owners when its object cannot be read. -/
def enqueue (event : WatchEvent) (key : String) (queue : List Owner) :
    Except Failure Unit × List Owner :=
  match event.fanOut key with
  | .ok owners => (.ok (), queue ++ owners)
  | .error failure => (.error failure, queue)

/-! ## Events as records -/

/-- An object of an event: a routing object if it has that shape, else a raw object. A value that is
no object at all has neither form. -/
def checkSnapshot (value : Json) : Schema.Checked Snapshot :=
  match value with
  | .obj members =>
    -- A routing object drops the members that it does not know; a raw object keeps them all.
    match RoutingObject.check value with
    | .ok object => .ok (.model object)
    | .error _ => .ok (.raw members)
  | _ =>
    .error [⟨[.member "RoutingObject"], .notRecord⟩, ⟨[.member "dict[str,any]"], .notObject⟩]

/-- The record of an event. -/
def check : Json → Schema.Checked WatchEvent :=
  Schema.record fun members =>
    (Schema.apply (.ok WatchEvent.mk)
        (Schema.required members "type" (Schema.oneOf EventKind.words))
      |> fun soFar => Schema.apply soFar (Schema.required members "object" checkSnapshot)
      |> fun soFar => Schema.apply soFar (Schema.nullable members "old_object" checkSnapshot))

/-- The record of an event. -/
def toJson (event : WatchEvent) : Except Failure Json := do
  let object ← event.object.toJson
  let previous ← match event.previous with
    | some previous => previous.toJson
    | none => pure .null
  pure (.obj [("type", .str event.kind.word), ("object", object), ("old_object", previous)])

end WatchEvent

end RouteOverrides
