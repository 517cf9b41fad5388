import RouteOverrides.Proofs.Handler.Deployment
import RouteOverrides.Watch

/-! # Whom watch events reach after a pass

An event of an override asks for the owners that the override lists. A pass writes its owner on the
overrides that it creates. An override that it finds it leaves as it is, so the owner is asked only
if it was listed before.

* `WatchEvent.AlwaysAsks` — every event of an object asks for an owner.
* `Handler.find?_storeAfterAll_of_found`, `Handler.find?_storeAfterAll_of_created` — the overrides of
  the hosts after a pass.
* `Handler.recorded_after_handle` — when the owner of a pass is recorded and asked after it.
-/

namespace RouteOverrides

open Program MemoryStore

/-! ## Events -/

namespace WatchEvent

variable {event : WatchEvent} {object : RoutingObject} {key : String} {owner : Owner}

/-- Every event of an object asks for an owner, whatever its kind and its previous form, as long as
the owners of the previous form can be read. -/
def AlwaysAsks (object : RoutingObject) (key : String) (owner : Owner) : Prop :=
  ∀ event : WatchEvent, event.object = .model object →
    (∀ previous, event.previous = some previous → ∃ owners, previous.owners? key = .ok owners) →
    ∃ asked, event.fanOut key = .ok asked ∧ owner ∈ asked

theorem fanOut_of_read {sets : List OwnerSet}
    (read : event.snapshots.mapM (·.owners? key) = .ok sets) :
    event.fanOut key = .ok (OwnerSet.ofList (sets.flatMap (·.toList))).toList := by
  rw [fanOut, read]
  rfl

theorem fanOut_of_alone (alone : event.snapshots = [.model object]) :
    event.fanOut key = .ok (object.owners key).toList := by
  have read : event.snapshots.mapM (·.owners? key) = .ok [object.owners key] := by rw [alone]; rfl
  rw [fanOut_of_read read, List.flatMap_singleton, OwnerSet.ofList_toList]

/-- The owners of the object come first; those of its previous form may follow. -/
theorem fanOut_eq (current : event.object = .model object)
    (readable : ∀ previous, event.previous = some previous →
      ∃ owners, previous.owners? key = .ok owners) :
    ∃ more : List Owner,
      event.fanOut key = .ok (more.foldl OwnerSet.insert (object.owners key)).toList := by
  obtain ⟨kind, _, previous⟩ := event
  cases current
  cases kind with
  | update =>
    cases previous with
    | none => exact ⟨[], fanOut_of_alone rfl⟩
    | some previous =>
      obtain ⟨owners, known⟩ := readable previous rfl
      have read : [Snapshot.model object, previous].mapM (·.owners? key) =
          .ok [object.owners key, owners] := by
        simp only [List.mapM_cons, List.mapM_nil, Snapshot.owners?_model, known]
        rfl
      refine ⟨owners.toList, (fanOut_of_read read).trans ?_⟩
      rw [List.flatMap_cons, List.flatMap_singleton, OwnerSet.ofList, List.foldl_append,
        ← OwnerSet.ofList, OwnerSet.ofList_toList]
  | create | delete | generic => exact ⟨[], fanOut_of_alone rfl⟩

theorem alwaysAsks_iff :
    AlwaysAsks object key owner ↔ owner ∈ (object.owners key).toList := by
  constructor
  · -- An event that is no update asks for the owners of the object only.
    intro asks
    obtain ⟨asked, answered, member⟩ := asks ⟨.create, .model object, none⟩ rfl (by rintro _ ⟨⟩)
    rw [fanOut_of_alone rfl] at answered
    exact Except.ok.inj answered ▸ member
  · intro listed event current readable
    obtain ⟨more, asked⟩ := fanOut_eq current readable
    exact ⟨_, asked, OwnerSet.mem_foldl_insert_of_mem listed more⟩

end WatchEvent

/-! ## After a pass -/

namespace Handler

variable {handler : Handler} {store final : MemoryStore} {host : String} {tracker noted : Tracker}
  {object baseline : RoutingObject} {hosts : List String}

theorem find?_storeAfterAll_of_found {ns name : String}
    (found : store.find? ns name = some object) :
    (handler.storeAfterAll store hosts).find? ns name = some object := by
  rw [storeAfterAll_eq, find?_eq, List.find?_append, ← find?_eq, found, Option.some_or]

theorem find?_storeAfterAll_of_created (member : host ∈ hosts)
    (missing : handler.holds store host = false)
    (located : handler.baseline? store host = some baseline) :
    ∃ revision, (handler.storeAfterAll store hosts).find? handler.ns (handler.nameFor host) =
      some { handler.overrideFrom host baseline with revision := revision } := by
  -- On the hosts that are left: until its own visit the host stays without an override, and its
  -- baseline stays the same.
  induction hosts generalizing store with
  | nil => cases member
  | cons first rest inductionHypothesis =>
    have next : handler.storeAfterAll store (first :: rest) =
        handler.storeAfterAll (handler.storeAfter store first) rest := rfl
    rw [next]
    by_cases same : host = first
    · subst same
      rw [storeAfter_of_baseline missing located]
      exact ⟨_, find?_storeAfterAll_of_found (find?_put_self store _)⟩
    · have missingStill : handler.holds (handler.storeAfter store first) host = false := by
        obtain ⟨kept, -⟩ | ⟨_, written, vacant, -⟩ := storeAfter_cases handler store first
        · rw [kept, missing]
        · rw [written, holds_put_override vacant, missing, beq_eq_false_iff_ne.2 same, Bool.or_false]
      refine inductionHypothesis (List.mem_of_ne_of_mem same member) missingStill ?_
      rw [baseline?_storeAfter, located]

theorem exists_find?_storeAfterAll (member : host ∈ hosts)
    (available : handler.available store host = true) :
    ∃ object, (handler.storeAfterAll store hosts).find? handler.ns (handler.nameFor host) =
      some object := by
  cases found : store.find? handler.ns (handler.nameFor host) with
  | some object => exact ⟨object, find?_storeAfterAll_of_found found⟩
  | none =>
    have missing : handler.holds store host = false := holds_eq_false_iff.2 found
    rw [available_of_missing missing] at available
    obtain ⟨baseline, located⟩ := Option.isSome_iff_exists.1 available
    obtain ⟨_, created⟩ := find?_storeAfterAll_of_created member missing located
    exact ⟨_, created⟩

/-- An override that is created lists the owner of its handler, and nobody else. -/
theorem toList_owners_overrideFrom (wellFormed : handler.owner.WellFormed)
    (revision : Option String) :
    (RoutingObject.owners { handler.overrideFrom host baseline with revision := revision }
      handler.key).toList = [handler.owner] := by
  have alone : (OwnerSet.empty.insert handler.owner).toList = [handler.owner] :=
    OwnerSet.toList_insert_of_not_mem List.not_mem_nil
  have readable : ∀ owner ∈ (OwnerSet.empty.insert handler.owner).toList, owner.WellFormed := by
    intro owner member
    rw [alone, List.mem_singleton] at member
    exact member ▸ wellFormed
  -- The revision has no part in what the annotation says.
  change ((handler.overrideFrom host baseline).owners handler.key).toList = [handler.owner]
  rw [overrideFrom_eq, RoutingObject.owners_withOwners readable, alone]

/-- Whether the override of a host was in the store and listed the owner of the handler. -/
def Listed (handler : Handler) (store : MemoryStore) (host : String) : Prop :=
  ∃ object, store.find? handler.ns (handler.nameFor host) = some object ∧
    handler.owner ∈ (object.owners handler.key).toList

/-- Whatever the database answers, and whether or not the program is told to stop: when a pass
returns, the override of each active host is in the store. It lists the owner of the pass if and only
if the pass created it or it listed the owner before, and then all its events ask for the owner. -/
theorem recorded_after_handle (handler : Handler) (store : MemoryStore) (tracker : Tracker)
    (wellFormed : handler.owner.WellFormed) {result : PassResult}
    (returned : Reaches (exact false) (handler.handle.outcome tracker) store
      (.done (.ok result, noted)) final)
    (active : host ∈ result.active) :
    ∃ object, final.find? handler.ns (handler.nameFor host) = some object ∧
      (handler.owner ∈ (object.owners handler.key).toList ↔
        handler.holds store host = false ∨ handler.Listed store host) ∧
      (WatchEvent.AlwaysAsks object handler.key handler.owner ↔
        handler.owner ∈ (object.owners handler.key).toList) := by
  obtain ⟨-, rfl, rfl⟩ := (keeps_handle handler store tracker).post_of_reaches returned
  rw [Tracker.result, trackerSeen, active_trackerAfterAll] at active
  obtain ⟨member, available⟩ := List.mem_filter.1 active
  cases found : store.find? handler.ns (handler.nameFor host) with
  | some object =>
    refine ⟨object, find?_storeAfterAll_of_found found, ?_, WatchEvent.alwaysAsks_iff⟩
    have held : handler.holds store host = true := by rw [holds, found, Option.isSome_some]
    simp only [held, Listed, found, Option.some.injEq, exists_eq_left',
      Bool.true_eq_false, false_or]
  | none =>
    have missing : handler.holds store host = false := holds_eq_false_iff.2 found
    rw [available_of_missing missing] at available
    obtain ⟨baseline, located⟩ := Option.isSome_iff_exists.1 available
    obtain ⟨revision, created⟩ := find?_storeAfterAll_of_created member missing located
    refine ⟨_, created, iff_of_true ?_ (.inl missing), WatchEvent.alwaysAsks_iff⟩
    rw [toList_owners_overrideFrom wellFormed]
    exact List.mem_singleton.2 rfl

/-! ## Two owners of one override

Two handlers for one host, with the same unique name and different owners. The first creates the
override, the second finds it. -/

def ofTeam (name : String) : Handler where
  owner := ⟨"team", name⟩
  uniqueName := "blue"
  uniqueVersion := "v2"
  ns := "prod"
  hosts := ["cart"]
  versionLabel := "version"
  defaultVersion := "shared"
  key := "owners"

def cartStore : MemoryStore where
  objects :=
    [{ name := "cart"
       ns := "prod"
       labels := []
       annotations := []
       host := "cart"
       subsets := [⟨"v1", [("version", "shared")]⟩]
       revision := some "1" }]
  writes := 1

theorem wellFormed_ofTeam_web : (ofTeam "web").owner.WellFormed := by
  have listed : (ofTeam "web").owner ∈ (OwnerSet.parse "team/web").toList := by decide +kernel
  exact OwnerSet.wellFormed_of_mem_parse listed

theorem wellFormed_ofTeam_api : (ofTeam "api").owner.WellFormed := by
  have listed : (ofTeam "api").owner ∈ (OwnerSet.parse "team/api").toList := by decide +kernel
  exact OwnerSet.wellFormed_of_mem_parse listed

theorem returned_ofTeam_web :
    Reaches (exact false) ((ofTeam "web").handle.outcome .empty) cartStore
      (.done (.ok ⟨["cart"], []⟩, ⟨["cart"], []⟩)) ((ofTeam "web").storeAfter cartStore "cart") :=
  .answered false ⟨nofun, rfl⟩ <|
  .answered (.error (.notFound "prod/blue-cart")) ⟨rfl, rfl⟩ <|
  .answered (.ok ()) ⟨nofun, rfl⟩ <|
  .answered false ⟨nofun, rfl⟩ <|
  .answered (.ok (cartStore.inNamespace "prod")) ⟨rfl, rfl⟩ <|
  .answered (.ok ()) ⟨nofun, rfl⟩ <|
  .answered false ⟨nofun, rfl⟩ <|
  .answered (.ok ()) ⟨rfl, rfl⟩ <| .here

theorem returned_ofTeam_api :
    Reaches (exact false) ((ofTeam "api").handle.outcome .empty)
      ((ofTeam "web").storeAfter cartStore "cart")
      (.done (.ok ⟨["cart"], []⟩, ⟨["cart"], []⟩)) ((ofTeam "web").storeAfter cartStore "cart") :=
  .answered false ⟨nofun, rfl⟩ <|
  .answered (.ok _) ⟨rfl, rfl⟩ <| .here

theorem recorded_first_owner :
    Reaches (exact false) ((ofTeam "web").handle.outcome .empty) cartStore
      (.done (.ok ⟨["cart"], []⟩, ⟨["cart"], []⟩)) ((ofTeam "web").storeAfter cartStore "cart") ∧
    ∃ object, ((ofTeam "web").storeAfter cartStore "cart").find? "prod" "blue-cart" = some object ∧
      WatchEvent.AlwaysAsks object "owners" ⟨"team", "web"⟩ := by
  obtain ⟨object, found, recorded, asks⟩ := recorded_after_handle (ofTeam "web") cartStore .empty
    wellFormed_ofTeam_web returned_ofTeam_web (List.mem_singleton.2 rfl)
  exact ⟨returned_ofTeam_web, object, found, asks.2 (recorded.2 (.inl rfl))⟩

/-- An owner whose pass found the override is not recorded on it: the second handler returns the host
as active, and no event of the override asks for its owner. -/
theorem not_recorded_second_owner : ¬ ∀ (handler : Handler) (store final : MemoryStore)
    (tracker noted : Tracker) (result : PassResult) (host : String), handler.owner.WellFormed →
      Reaches (exact false) (handler.handle.outcome tracker) store (.done (.ok result, noted)) final →
      host ∈ result.active →
      ∃ object, final.find? handler.ns (handler.nameFor host) = some object ∧
        handler.owner ∈ (object.owners handler.key).toList := by
  intro allRecorded
  obtain ⟨object, found, recorded⟩ := allRecorded (ofTeam "api") _ _ .empty _ _ "cart"
    wellFormed_ofTeam_api returned_ofTeam_api (List.mem_singleton.2 rfl)
  have listed : (((ofTeam "web").storeAfter cartStore "cart").find? "prod" "blue-cart").map
      (fun object => (object.owners "owners").toList) = some [⟨"team", "web"⟩] := by
    decide +kernel
  have stored : ((ofTeam "web").storeAfter cartStore "cart").find? "prod" "blue-cart" =
      some object := found
  rw [stored, Option.map_some, Option.some.injEq] at listed
  have impossible : (⟨"team", "api"⟩ : Owner) ∈ [(⟨"team", "web"⟩ : Owner)] := listed ▸ recorded
  exact absurd impossible (by decide)

end Handler

end RouteOverrides
