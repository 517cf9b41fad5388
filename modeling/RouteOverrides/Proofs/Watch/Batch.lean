import RouteOverrides.Api.App
import RouteOverrides.Proofs.Handler.Subscription
import RouteOverrides.Proofs.Owner.Edits
import RouteOverrides.Proofs.Owner.Lenience

/-! # Batches of owners

Each watch event puts one batch of owners on the queue: those that the object lists, in their order,
and behind them those that only the previous form of an updated object lists. An event one of whose
forms cannot be read puts nobody on the queue.

* `WatchEvent.Consults` — the forms of the object that count for an event.
* `WatchEvent.Batch`, `WatchEvent.Asked` — the batch of an event, and what becomes of the event.
* `App.asked_of_events` — the queue after any events, and the response to an event that is sent.
-/

namespace RouteOverrides

/-! ## The batch of an event -/

/-- The owners that a form of an object lists; none if they cannot be read. -/
def Snapshot.listed (snapshot : Snapshot) (key : String) : List Owner :=
  match snapshot.owners? key with
  | .ok owners => owners.toList
  | .error _ => []

namespace WatchEvent

variable {event : WatchEvent} {key : String}

/-- The forms of an object that count for an event: the object, and for an update the previous form. -/
def Consults (event : WatchEvent) (snapshot : Snapshot) : Prop :=
  snapshot = event.object ∨ event.kind = .update ∧ event.previous = some snapshot

def Readable (event : WatchEvent) (key : String) : Prop :=
  ∀ snapshot, event.Consults snapshot → ∃ owners, snapshot.owners? key = .ok owners

/-- The owners that the previous form of an updated object lists. -/
def former (event : WatchEvent) (key : String) : List Owner :=
  match event.kind, event.previous with
  | .update, some previous => previous.listed key
  | _, _ => []

/-- The owners to reconcile after an event. -/
structure Batch (event : WatchEvent) (key : String) (batch : List Owner) : Prop where
  nodup : batch.Nodup
  /-- Nobody is left out, and nobody else is asked. -/
  asks_iff : ∀ owner, owner ∈ batch ↔
    ∃ snapshot, event.Consults snapshot ∧ owner ∈ snapshot.listed key
  ordered : batch = event.object.listed key ++
    (event.former key).filter fun owner => owner ∉ event.object.listed key

/-- What becomes of an event, and whom it puts on the queue. -/
inductive Asked (event : WatchEvent) (key : String) : Except Failure Unit → List Owner → Prop where
  | read {batch : List Owner} (readable : event.Readable key) (asks : event.Batch key batch) :
      Asked event key (.ok ()) batch
  | unread {failure : Failure} (unreadable : ¬ event.Readable key) :
      Asked event key (.error failure) []

theorem consults_iff_mem_snapshots {snapshot : Snapshot} :
    event.Consults snapshot ↔ snapshot ∈ event.snapshots := by
  obtain ⟨kind, object, previous⟩ := event
  cases kind <;> cases previous <;> simp [Consults, snapshots, eq_comm]

theorem mem_former_iff {owner : Owner} : owner ∈ event.former key ↔
    ∃ previous, event.kind = .update ∧ event.previous = some previous ∧
      owner ∈ previous.listed key := by
  obtain ⟨kind, object, previous⟩ := event
  cases kind <;> cases previous <;> simp [former]

theorem batch_of_ordered {batch : List Owner} (objectOnce : (event.object.listed key).Nodup)
    (formerOnce : (event.former key).Nodup)
    (ordered : batch = event.object.listed key ++
      (event.former key).filter fun owner => owner ∉ event.object.listed key) :
    event.Batch key batch := by
  refine ⟨?_, ?_, ordered⟩
  · rw [ordered, List.nodup_append]
    refine ⟨objectOnce, formerOnce.filter _, ?_⟩
    intro owner inObject other inFormer
    rintro rfl
    simp [inObject] at inFormer
  · intro owner
    rw [ordered, List.mem_append, List.mem_filter, mem_former_iff, decide_eq_true_eq]
    constructor
    · rintro (inObject | ⟨⟨previous, updates, known, inFormer⟩, -⟩)
      · exact ⟨event.object, .inl rfl, inObject⟩
      · exact ⟨previous, .inr ⟨updates, known⟩, inFormer⟩
    · rintro ⟨snapshot, rfl | ⟨updates, known⟩, listed⟩
      · exact .inl listed
      · by_cases inObject : owner ∈ event.object.listed key
        · exact .inl inObject
        · exact .inr ⟨⟨snapshot, updates, known, listed⟩, inObject⟩

theorem nodup_listed (snapshot : Snapshot) (key : String) : (snapshot.listed key).Nodup := by
  rw [Snapshot.listed]
  split
  · rename_i owners _
    exact .of_map _ owners.tokens_nodup
  · exact .nil

theorem nodup_former (event : WatchEvent) (key : String) : (event.former key).Nodup := by
  obtain ⟨kind, object, previous⟩ := event
  cases kind <;> cases previous <;> simp [former, nodup_listed]

/-- An event consults the object alone, or it is an update and consults the previous form as well. -/
theorem snapshots_cases (event : WatchEvent) (key : String) :
    event.snapshots = [event.object] ∧ event.former key = [] ∨
    ∃ previous, event.Consults previous ∧ event.snapshots = [event.object, previous] ∧
      event.former key = previous.listed key := by
  obtain ⟨kind, object, previous⟩ := event
  cases kind with
  | update =>
    cases previous with
    | none => exact .inl ⟨rfl, rfl⟩
    | some previous => exact .inr ⟨previous, .inr ⟨rfl, rfl⟩, rfl, rfl⟩
  | create | delete | generic => exact .inl ⟨rfl, rfl⟩

theorem listed_of_read {snapshot : Snapshot} {owners : OwnerSet}
    (read : snapshot.owners? key = .ok owners) : snapshot.listed key = owners.toList := by
  rw [Snapshot.listed, read]

/-- The batch of an event whose forms can be read. -/
theorem fanOut_of_readable (readable : event.Readable key) :
    ∃ batch, event.fanOut key = .ok batch ∧ event.Batch key batch := by
  obtain ⟨owners, known⟩ := readable event.object (.inl rfl)
  have once := nodup_listed event.object key
  rcases snapshots_cases event key with ⟨alone, nobody⟩ | ⟨previous, consulted, both, former⟩
  · have read : event.snapshots.mapM (·.owners? key) = .ok [owners] := by
      simp [alone, known, bind, Except.bind, pure, Except.pure]
    refine ⟨_, fanOut_of_read read, batch_of_ordered once (nodup_former event key) ?_⟩
    simp [nobody, listed_of_read known, OwnerSet.ofList_toList]
  · obtain ⟨others, knownBefore⟩ := readable previous consulted
    have read : event.snapshots.mapM (·.owners? key) = .ok [owners, others] := by
      simp [both, known, knownBefore, bind, Except.bind, pure, Except.pure]
    refine ⟨_, fanOut_of_read read, batch_of_ordered once (nodup_former event key) ?_⟩
    -- Both sets were read from annotations, so owners with one token are the same owner.
    obtain ⟨raw, rfl⟩ := Snapshot.exists_parse_of_owners? known
    obtain ⟨rawBefore, rfl⟩ := Snapshot.exists_parse_of_owners? knownBefore
    rw [former, listed_of_read known, listed_of_read knownBefore,
      ← OwnerSet.toList_foldl_insert_parse, List.flatMap_cons, List.flatMap_singleton,
      OwnerSet.ofList, List.foldl_append, ← OwnerSet.ofList, OwnerSet.ofList_toList]

theorem readable_of_fanOut {batch : List Owner} (asked : event.fanOut key = .ok batch) :
    event.Readable key := by
  intro snapshot consulted
  rw [consults_iff_mem_snapshots] at consulted
  rcases snapshots_cases event key with ⟨alone, -⟩ | ⟨previous, -, both, -⟩
  · rw [alone, List.mem_singleton] at consulted
    subst consulted
    cases known : event.object.owners? key with
    | ok owners => exact ⟨owners, rfl⟩
    | error failure => simp [fanOut, alone, known, bind, Except.bind] at asked
  · rw [both, List.mem_pair] at consulted
    cases known : event.object.owners? key with
    | error failure => simp [fanOut, both, known, bind, Except.bind] at asked
    | ok owners =>
      cases knownBefore : previous.owners? key with
      | error failure => simp [fanOut, both, known, knownBefore, bind, Except.bind] at asked
      | ok others =>
        rcases consulted with rfl | rfl
        · exact ⟨owners, known⟩
        · exact ⟨others, knownBefore⟩

/-- What becomes of an event: its batch, or a failure if one of its forms cannot be read. -/
theorem asked_cases (event : WatchEvent) (key : String) :
    (∃ batch, event.fanOut key = .ok batch ∧ event.Asked key (.ok ()) batch) ∨
    ∃ failure, event.fanOut key = .error failure ∧ event.Asked key (.error failure) [] := by
  by_cases readable : event.Readable key
  · obtain ⟨batch, asked, isBatch⟩ := fanOut_of_readable readable
    exact .inl ⟨batch, asked, .read readable isBatch⟩
  · cases asked : event.fanOut key with
    | ok batch => exact absurd (readable_of_fanOut asked) readable
    | error failure => exact .inr ⟨failure, rfl, .unread readable⟩

theorem enqueue_of_ok {batch : List Owner} (asked : event.fanOut key = .ok batch)
    (queue : List Owner) : event.enqueue key queue = (.ok (), queue ++ batch) := by
  rw [enqueue, asked]

theorem enqueue_of_error {failure : Failure} (asked : event.fanOut key = .error failure)
    (queue : List Owner) : event.enqueue key queue = (.error failure, queue ++ []) := by
  rw [enqueue, asked, List.append_nil]

/-! ## Many events -/

/-- What becomes of events, one after the other, and the queue after them. -/
def enqueueAll (key : String) :
    List WatchEvent → List Owner → List (Except Failure Unit) × List Owner
  | [], queue => ([], queue)
  | event :: rest, queue =>
    let now := event.enqueue key queue
    let later := enqueueAll key rest now.2
    (now.1 :: later.1, later.2)

theorem asked_enqueueAll (key : String) (events : List WatchEvent) (queue : List Owner) :
    ∃ asked : List (Except Failure Unit × List Owner),
      List.Forall₂ (fun event asked => event.Asked key asked.1 asked.2) events asked ∧
      enqueueAll key events queue = (asked.map (·.1), queue ++ asked.flatMap (·.2)) := by
  induction events generalizing queue with
  | nil => exact ⟨[], .nil, by simp [enqueueAll]⟩
  | cons event rest inductionHypothesis =>
    obtain ⟨outcome, batch, becomes, enqueued⟩ : ∃ outcome batch,
        event.Asked key outcome batch ∧ event.enqueue key queue = (outcome, queue ++ batch) := by
      rcases asked_cases event key with ⟨batch, asked, becomes⟩ | ⟨failure, asked, becomes⟩
      · exact ⟨_, batch, becomes, enqueue_of_ok asked queue⟩
      · exact ⟨_, [], becomes, enqueue_of_error asked queue⟩
    obtain ⟨asked, each, after⟩ := inductionHypothesis (queue ++ batch)
    refine ⟨(outcome, batch) :: asked, .cons becomes each, ?_⟩
    simp [enqueueAll, enqueued, after]

end WatchEvent

/-! ## Events that are sent to the application -/

namespace App

/-- The response to an event that is sent to the application: its batch, or a crash if the event cannot
be read. -/
def batchResponse (outcome : Except Failure Unit) (batch : List Owner) : HttpResponse :=
  match outcome with
  | .ok () => .ok (.arr (batch.map Owner.toJson))
  | .error _ => .crash

theorem respond_watch {settings : Settings} {request : HttpRequest} {event : WatchEvent}
    (asked : Route.dispatch request = .ok .watch) (parsed : Api.parseBody request = .ok ())
    (read : Api.readBody WatchEvent.check request = .ok event) :
    Api.respond settings request =
      .done (match event.fanOut (settings.annotationKey none) with
        | .ok batch => .ok (.arr (batch.map Owner.toJson))
        | .error _ => .crash) := by
  have admitted : (Route.dispatch request >>= Api.endpoint settings request) =
      .ok (Api.watch settings event) := by
    simp [asked, Api.endpoint, parsed, read, bind, Except.bind, pure, Except.pure]
  rw [Api.respond, admitted]
  dsimp only
  rw [Api.watch]
  cases event.fanOut (settings.annotationKey none) <;> rfl

/-- The response tells what becomes of the event on a queue, and the application stays as it is. -/
theorem handle_watch (app : App) {request : HttpRequest} {event : WatchEvent}
    (asked : Route.dispatch request = .ok .watch) (parsed : Api.parseBody request = .ok ())
    (read : Api.readBody WatchEvent.check request = .ok event) :
    ∃ outcome batch, event.Asked (app.settings.annotationKey none) outcome batch ∧
      (∀ queue, event.enqueue (app.settings.annotationKey none) queue = (outcome, queue ++ batch)) ∧
      app.handle request = (batchResponse outcome batch, app) := by
  rw [handle, respond_watch asked parsed read]
  rcases event.asked_cases (app.settings.annotationKey none) with
    ⟨batch, fanned, becomes⟩ | ⟨failure, fanned, becomes⟩
  · rw [fanned]
    exact ⟨_, _, becomes, WatchEvent.enqueue_of_ok fanned, rfl⟩
  · rw [fanned]
    exact ⟨_, _, becomes, WatchEvent.enqueue_of_error fanned, rfl⟩

def emptyShop : App := ⟨{}, .ofObjects [] []⟩

def takenOver : WatchEvent where
  kind := .update
  object := .raw [("metadata", .obj
    [("annotations", .obj [("vsr.io/owners", .str "team/web, team/api,web,team/web")])])]
  previous := some <| .model
    { name := "blue-cart"
      ns := "prod"
      labels := []
      annotations := [("vsr.io/owners", "team/ops,team/web")]
      host := "cart"
      subsets := []
      revision := some "4" }

def takenOverRequest : HttpRequest where
  method := "POST"
  target := ⟨"/watch", [], ""⟩
  body := takenOver.toJson.toOption.map .json

end App

end RouteOverrides
