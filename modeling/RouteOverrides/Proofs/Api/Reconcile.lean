import RouteOverrides.Proofs.Api.Admission
import RouteOverrides.Proofs.Handler.Additions
import RouteOverrides.Proofs.Handler.Meaning

/-! # Whom a request to see to overrides records

The owner of such a request may be any two texts. The overrides that the request creates list this
owner if its token can be read back; otherwise they do not list it, and they may list somebody else.

* `Surroundings.exists_store_runProgram` — an invariant that a program maintains holds of a store in
  memory after its run.
* `Api.maintains_reconcile`, `Api.respond_cases` — what a request leaves in the store.
* `RoutingObject.RecordedFor` — an owner is the only one that an object lists.
* `App.recorded_after_reconcile` — which owners are recorded by a request.
-/

namespace RouteOverrides

open Program MemoryStore

/-! ## A store in memory -/

namespace Surroundings

/-- Without disturbances a store in memory answers exactly, whatever the database does and whether or
not the signal to stop is set. -/
theorem exact_answerAt_memory (depth : Nat) (listens : Bool) (request : Request)
    {surroundings : Surroundings} {store : MemoryStore}
    (inMemory : surroundings.backend = .memory store []) :
    ∃ later, exact false request store (answerAt depth listens request surroundings).1 later ∧
      (answerAt depth listens request surroundings).2.backend = .memory later [] := by
  obtain ⟨releaser, answered⟩ := exists_answerWith depth listens
  obtain ⟨backend, database, stop⟩ := surroundings
  cases inMemory
  rw [answered]
  -- The database and the signal have no part in the store, and what they answer is open.
  cases request with
  | store call =>
    have undisturbed : disturbances ⟨.memory store [], database, stop⟩ = [] := rfl
    rw [answerWith, callDisturbed_of_undisturbed undisturbed]
    exact ⟨_, ⟨rfl, rfl⟩, rfl⟩
  | log _ | record _ _ | interrupted =>
    exact ⟨store, ⟨fun isCalm => absurd isCalm Bool.false_ne_true, rfl⟩, rfl⟩
  | report _ | latest _ => exact ⟨store, rfl, rfl⟩

/-- An invariant that a program maintains holds of the store after its run. -/
theorem exists_store_runProgram {α : Type} {inv : MemoryStore → Prop} {program : Program α}
    {surroundings : Surroundings} {store : MemoryStore} (maintains : Maintains inv program)
    (inMemory : surroundings.backend = .memory store []) (holds : inv store) (listens : Bool) :
    ∃ final, (surroundings.runProgram listens program).2.store? = some final ∧ inv final := by
  have obeys : ∀ request (surroundings : Surroundings) store,
      surroundings.backend = .memory store [] →
      ∃ later,
        exact false request store (answerAt maxNesting listens request surroundings).1 later ∧
        (answerAt maxNesting listens request surroundings).2.backend = .memory later [] :=
    fun request _ _ inMemory => exact_answerAt_memory _ listens request inMemory
  obtain ⟨final, holdsAfter, ends⟩ := (maintains store holds).post_run obeys inMemory
  refine ⟨final, ?_, holdsAfter⟩
  rw [runProgram, store?, ends]

end Surroundings

/-! ## What a request does -/

namespace Api

open RouteOverrides.Action

variable {inv : MemoryStore → Prop} {settings : Settings} {handler : Handler} {store : MemoryStore}
  {request : HttpRequest} {form : OverrideForm} {user : String}

theorem maintains_storeResponse (failure : Failure) : (storeResponse failure).Maintains inv := by
  cases failure with
  | atStore host operation cause => exact maintains_pure _
  | _ => exact maintains_throw _

theorem maintains_finish (handler : Handler) (result : PassResult) :
    (finish handler result).Maintains inv := by
  refine (handler.maintains_statusesOf _ _).settle.bind fun settled => ?_
  cases settled with
  | ok statuses => exact (handler.maintains_publish statuses).bind fun _ => maintains_pure _
  | error failure => exact maintains_storeResponse failure

theorem maintains_finishWithout (handler : Handler) (tracker : Tracker) (failure : Failure) :
    (finishWithout handler tracker failure).Maintains inv := by
  have published :
      (handler.statuses tracker.ignored >>= handler.publish : Action Unit).Maintains inv :=
    (handler.maintains_statusesOf _ _).bind handler.maintains_publish
  refine published.settle.bind fun settled => ?_
  cases settled with
  | ok _ => exact maintains_pure _
  | error failure => exact maintains_storeResponse failure

/-- Statuses are read and published after the pass, and the store stays as the pass leaves it. -/
theorem maintains_reconcile (created : Handler.create? settings form.options = .ok handler) :
    (reconcile settings user form).Maintains (handler.Adds store) := by
  rw [reconcile, created]
  refine (maintains_log _).bind fun _ => ?_
  refine (maintains_ofProgram (handler.maintains_adds_handle .empty)).bind fun ended => ?_
  obtain ⟨outcome, tracker⟩ := ended
  cases outcome with
  | ok result => exact maintains_finish handler result
  | error failure =>
    cases failure with
    | noActiveHost subset ignored => exact maintains_finishWithout handler tracker _
    | cancelled text => exact maintains_pure _
    | _ => exact maintains_storeResponse _

/-- A request to see to overrides is kept out with a response, or a handler for the owner that it names
adds overrides. -/
theorem respond_cases (settings : Settings) (asked : Route.dispatch request = .ok .overrides) :
    (∃ response, respond settings request = .done response) ∨
    ∃ user form handler, authenticate settings request = .ok user ∧
      readBody OverrideForm.check request = .ok form ∧
      Handler.create? settings form.options = .ok handler ∧
      ∀ store, Program.Maintains (handler.Adds store) (respond settings request) := by
  rcases respond_overrides settings asked with
    ⟨response, -, refused⟩ | ⟨user, form, handler, admitted, created, responds⟩
  · exact .inl ⟨response, refused⟩
  · refine .inr ⟨user, form, handler, admitted.known, admitted.read, created, fun store => ?_⟩
    rw [responds]
    refine Program.Maintains.bind (maintains_reconcile created) fun outcome => ?_
    cases outcome <;> exact maintains_done _

end Api

/-! ## Which owners are recorded -/

/-- A handler that is made for a request has its owner, and the annotation key of the settings. -/
theorem OverrideForm.of_create? {settings : Settings} {form : OverrideForm} {handler : Handler}
    (created : Handler.create? settings form.options = .ok handler) :
    handler.owner = form.owner ∧ handler.key = settings.annotationKey none := by
  rw [OverrideForm.eq_of_create? created]
  exact ⟨rfl, rfl⟩

namespace RoutingObject

variable {object : RoutingObject} {key : String} {owner : Owner}

/-- An owner is the only one that an object lists, and the only one that is asked when the object is
created. -/
structure RecordedFor (object : RoutingObject) (key : String) (owner : Owner) : Prop where
  listed : (object.owners key).toList = [owner]
  asked : ∀ previous, (⟨.create, .model object, previous⟩ : WatchEvent).fanOut key = .ok [owner]

theorem recordedFor_iff : object.RecordedFor key owner ↔ (object.owners key).toList = [owner] := by
  refine ⟨RecordedFor.listed, fun listed => ⟨listed, fun previous => ?_⟩⟩
  have alone : (⟨.create, .model object, previous⟩ : WatchEvent).snapshots = [.model object] := rfl
  rw [WatchEvent.fanOut_of_alone alone, listed]

end RoutingObject

namespace App

variable {app : App} {store : MemoryStore} {request : HttpRequest}

/-- Let a request to see to overrides come in over a store in memory, whatever the response will be, and
whatever the database does. The objects of the store stay as they are. For each new one the request has
a user and names an owner. If the token of the owner can be read back then the owner is recorded, and
nobody else; otherwise the owner is not listed at all. -/
theorem recorded_after_reconcile (inMemory : app.surroundings.backend = .memory store [])
    (asked : Route.dispatch request = .ok .overrides) :
    ∃ final, (app.handle request).2.surroundings.store? = some final ∧
      (∀ ns name object, store.find? ns name = some object →
        final.find? ns name = some object) ∧
      ∀ ns name object, store.find? ns name = none → final.find? ns name = some object →
        ∃ user form, Api.authenticate app.settings request = .ok user ∧
          Api.readBody OverrideForm.check request = .ok form ∧
          (form.owner.WellFormed →
            object.RecordedFor (app.settings.annotationKey none) form.owner) ∧
          (¬ form.owner.WellFormed →
            form.owner ∉ (object.owners (app.settings.annotationKey none)).toList) := by
  rcases Api.respond_cases app.settings asked with
    ⟨response, keptOut⟩ | ⟨user, form, handler, known, read, created, maintains⟩
  · -- Nothing was asked of the store.
    refine ⟨store, ?_, fun _ _ _ => id, fun ns name object vacant found => ?_⟩
    · rw [handle, keptOut]
      change (app.surroundings.store?) = some store
      rw [Surroundings.store?, inMemory]
    · rw [vacant] at found
      cases found
  · obtain ⟨final, ends, adds⟩ := Surroundings.exists_store_runProgram (maintains store) inMemory
      (.refl handler store) false
    refine ⟨final, ends, adds.kept, fun ns name object vacant found => ?_⟩
    obtain ⟨sameOwner, sameKey⟩ := OverrideForm.of_create? created
    have owners := adds.owners_new vacant found
    rw [sameOwner, sameKey] at owners
    exact ⟨user, form, known, read,
      fun wellFormed => RoutingObject.recordedFor_iff.2 (owners.1 wellFormed), owners.2⟩

/-! ## Two requests for one shop

Both are answered alike. The name of the second owner holds a comma, so that its token reads as the
tokens of two other owners. -/

def cartShop : App := ⟨{}, ⟨.memory Handler.cartStore [], .fresh, false⟩⟩

def cartForm (ownerName : String) : OverrideForm where
  ownerNs := "team"
  ownerName := ownerName
  uniqueName := "blue"
  uniqueVersion := "v2"
  ns := "prod"
  hosts := ["cart"]
  versionLabel := none
  defaultVersion := none

def cartRequest (ownerName : String) : HttpRequest where
  method := "POST"
  target := ⟨"/overrides", [], ""⟩
  headers := [("authorization", (⟨"admin", "change-me"⟩ : Credentials).toHeader)]
  body := some (.json (cartForm ownerName).toJson)

/-- The override of the shop's only host, after a request. -/
def cartOverride? (ownerName : String) : Option RoutingObject :=
  (cartShop.handle (cartRequest ownerName)).2.surroundings.store?.bind (·.find? "prod" "blue-cart")

theorem find?_of_cartOverride? {ownerName : String} {final : MemoryStore} {object : RoutingObject}
    (ends : (cartShop.handle (cartRequest ownerName)).2.surroundings.store? = some final)
    (created : cartOverride? ownerName = some object) :
    final.find? "prod" "blue-cart" = some object := by
  rw [cartOverride?, ends] at created
  exact created

theorem recorded_after_reconcile_web : (cartShop.handle (cartRequest "web")).1.status = 200 ∧
    ∃ object, cartOverride? "web" = some object ∧
      object.RecordedFor "vsr.io/owners" ⟨"team", "web"⟩ := by
  refine ⟨by decide +kernel, ?_⟩
  have inMemory : cartShop.surroundings.backend = .memory Handler.cartStore [] := rfl
  have asked : Route.dispatch (cartRequest "web") = .ok .overrides := rfl
  obtain ⟨final, ends, -, recorded⟩ := recorded_after_reconcile inMemory asked
  have there : (cartOverride? "web").isSome := by decide +kernel
  obtain ⟨object, created⟩ := Option.isSome_iff_exists.1 there
  obtain ⟨user, form, -, read, whenReadable, -⟩ :=
    recorded "prod" "blue-cart" object (by decide +kernel) (find?_of_cartOverride? ends created)
  have same : form = cartForm "web" := Except.ok.inj (read.symm.trans rfl)
  subst same
  exact ⟨object, created, whenReadable (by decide +kernel)⟩

/-- A request may be answered as usual although its owner is not recorded. -/
theorem not_recorded_comma : ¬ ∀ (app : App) (store final : MemoryStore) (request : HttpRequest)
    (user : String) (form : OverrideForm) (ns name : String) (object : RoutingObject),
      app.surroundings.backend = .memory store [] → Route.dispatch request = .ok .overrides →
      Api.authenticate app.settings request = .ok user →
      Api.readBody OverrideForm.check request = .ok form →
      (app.handle request).1.status = 200 →
      (app.handle request).2.surroundings.store? = some final →
      store.find? ns name = none → final.find? ns name = some object →
      object.RecordedFor (app.settings.annotationKey none) form.owner := by
  intro allRecorded
  have there : ((cartShop.handle (cartRequest "web,team/ops")).2.surroundings.store?).isSome := by
    decide +kernel
  obtain ⟨final, ends⟩ := Option.isSome_iff_exists.1 there
  have listed : (cartOverride? "web,team/ops").map (fun object =>
      (object.owners "vsr.io/owners").toList) = some [⟨"team", "web"⟩, ⟨"team", "ops"⟩] := by
    decide +kernel
  obtain ⟨object, created, others⟩ := Option.map_eq_some_iff.1 listed
  have recorded := allRecorded cartShop Handler.cartStore final (cartRequest "web,team/ops") "admin"
    (cartForm "web,team/ops") "prod" "blue-cart" object rfl rfl rfl rfl (by decide +kernel) ends
    (by decide +kernel) (find?_of_cartOverride? ends created)
  -- Two owners are listed, and not one.
  have one : [⟨"team", "web"⟩, ⟨"team", "ops"⟩] = [(cartForm "web,team/ops").owner] :=
    others.symm.trans recorded.listed
  exact absurd one (by decide)

end App

end RouteOverrides
