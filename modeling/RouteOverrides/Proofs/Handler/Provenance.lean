import RouteOverrides.Proofs.Handler.Additions
import RouteOverrides.Proofs.Release.Visit

/-! # Where overrides come from

Handlers make passes and owners are released, one after the other. A release writes overrides back,
but changes only whom they list. So an override keeps routing to the version of the handler that created
it, and keeps the host of the baseline from which it was built. A pass that finds the override of a host
asks for nothing more.

* `Handler.Built` — an object is the override that a handler created for a host.
* `Traced` — whatever is new in a store was built by one of the handlers for one of its hosts.
* `Traced.acted`, `traced_of_history` — passes and releases keep it so.
* `Handler.routes_iff_of_active` — when an active host is routed to the version of the handler.
-/

namespace RouteOverrides

open Program MemoryStore

variable {ι : Type} {handlers : ι → Handler} {handler maker : Handler} {release : Release}
  {start store later final : MemoryStore} {host asked : String} {object : RoutingObject}

/-! ## Overrides of a handler -/

/-- An object is the override that a handler created for a host, whomever it lists by now. -/
structure Handler.Built (handler : Handler) (host : String) (object : RoutingObject) : Prop where
  place : object.key = (handler.ns, handler.nameFor host)
  subsets : object.subsets =
    [⟨handler.uniqueVersion, [(handler.versionLabel, handler.uniqueVersion)]⟩]
  serves : Host.sameService host handler.ns object.host handler.ns = true

/-- An object routes a host to the version of a handler: it has a subset for the version, and its host
names the same service. -/
def Handler.Routes (handler : Handler) (host : String) (object : RoutingObject) : Prop :=
  (object.subsetWith? handler.versionLabel handler.uniqueVersion).isSome = true ∧
    Host.sameService host handler.ns object.host object.ns = true

theorem Handler.built_stamp_overrideFrom {baseline : RoutingObject}
    (located : handler.baseline? store host = some baseline) :
    handler.Built host (store.stamp (handler.overrideFrom host baseline)) := by
  have accepted := List.find?_some located
  have inside : baseline.ns = handler.ns :=
    eq_of_beq (List.mem_filter.1 (List.mem_of_find?_eq_some located)).2
  rw [Lookup.accepts, Bool.and_eq_true, inside] at accepted
  exact ⟨rfl, rfl, accepted.1⟩

theorem Handler.Built.stamp_withoutOwner (built : handler.Built host object) :
    handler.Built host (store.stamp (release.withoutOwner object)) :=
  ⟨built.place, built.subsets, built.serves⟩

theorem Handler.Built.routes_iff (built : maker.Built asked object)
    (place : object.key = (handler.ns, handler.nameFor host)) :
    handler.Routes host object ↔ maker.versionLabel = handler.versionLabel ∧
      maker.uniqueVersion = handler.uniqueVersion ∧
      Host.sameService host handler.ns asked handler.ns = true := by
  have sameNs : maker.ns = handler.ns := (Prod.mk.inj (built.place.symm.trans place)).1
  have inside : object.ns = handler.ns := (Prod.mk.inj place).1
  have serves : Host.short asked handler.ns = Host.short object.host handler.ns := by
    have serves := built.serves
    rwa [sameNs, Host.sameService_iff] at serves
  rw [Handler.Routes, RoutingObject.subsetWith?, built.subsets, inside, Host.sameService_iff,
    Host.sameService_iff, serves, ← and_assoc]
  refine and_congr_left fun _ => ?_
  -- There is one subset, with one label.
  simp [Keyed.find?]

/-! ## Histories -/

/-- Whatever is new in a store was built by one of the handlers for one of its hosts. -/
def Traced (handlers : ι → Handler) (start later : MemoryStore) : Prop :=
  ∀ ns name object, start.find? ns name = none → later.find? ns name = some object →
    ∃ party, ∃ host ∈ (handlers party).hosts, (handlers party).Built host object

theorem Traced.refl (handlers : ι → Handler) (start : MemoryStore) : Traced handlers start start :=
  fun _ _ _ vacant found => nomatch vacant.symm.trans found

theorem Traced.visited {party : ι} (traced : Traced handlers start store)
    (member : host ∈ (handlers party).hosts) :
    Traced handlers start ((handlers party).storeAfter store host) := by
  obtain ⟨kept, -⟩ | ⟨baseline, written, -, located⟩ :=
    Handler.storeAfter_cases (handlers party) store host
  · rwa [kept]
  · rw [written]
    intro ns name object vacant found
    by_cases here : ((handlers party).overrideFrom host baseline).key = (ns, name)
    · cases here
      obtain rfl := Option.some.inj ((find?_put_self store _).symm.trans found)
      exact ⟨party, host, member, Handler.built_stamp_overrideFrom located⟩
    · rw [find?_put_of_ne store here] at found
      exact traced ns name object vacant found

theorem Traced.released (traced : Traced handlers start store) (release : Release) (host : String) :
    Traced handlers start (release.storeAfter store host) := by
  obtain ⟨kept, -⟩ | ⟨before, written, foundBefore, -⟩ := release.storeAfter_cases store host
  · rwa [kept]
  · rw [written]
    intro ns name object vacant found
    by_cases here : (release.withoutOwner before).key = (ns, name)
    · -- The object that is written back was there, so it was built by somebody.
      have place : before.key = (release.ns, release.nameFor host) := key_of_find? foundBefore
      obtain ⟨rfl, rfl⟩ := Prod.mk.inj (here.symm.trans place)
      rw [Release.find?_put_withoutOwner foundBefore] at found
      cases found
      obtain ⟨party, asked, member, built⟩ := traced _ _ before vacant foundBefore
      exact ⟨party, asked, member, built.stamp_withoutOwner⟩
    · rw [find?_put_of_ne store here] at found
      exact traced ns name object vacant found

theorem Release.storeAfterAll_induction {inv : MemoryStore → Prop}
    (closed : ∀ store host, inv store → inv (release.storeAfter store host)) (holds : inv store)
    (hosts : List String) : inv (release.storeAfterAll store hosts) := by
  induction hosts generalizing store with
  | nil => exact holds
  | cons host rest inductionHypothesis => exact inductionHypothesis (closed store host holds)

theorem Release.maintains_perform {inv : MemoryStore → Prop}
    (closed : ∀ store host, inv store → inv (release.storeAfter store host)) :
    release.perform.Maintains inv := by
  intro store holds
  refine (release.keeps_forHosts store release.hosts).mono fun result later visited => ?_
  obtain ⟨seen, -, rfl⟩ := exists_seen visited
  exact storeAfterAll_induction closed holds seen

/-- A pass of one of the handlers or a release of any owner makes another store of a store. The
database may fail meanwhile, and the program may be told to stop. -/
inductive Acts (handlers : ι → Handler) : MemoryStore → MemoryStore → Prop where
  | passed {store later : MemoryStore} (party : ι) {tracker : Tracker}
      {ended : Except Failure PassResult × Tracker}
      (ran : Reaches (exact false) ((handlers party).handle.outcome tracker) store (.done ended)
        later) : Acts handlers store later
  | released {store later : MemoryStore} {release : Release}
      {result : Except Failure (List String)}
      (ran : Reaches (exact false) release.perform.run store (.done result) later) :
      Acts handlers store later

theorem Traced.acted (traced : Traced handlers start store) (acts : Acts handlers store later) :
    Traced handlers start later := by
  cases acts with
  | @passed party tracker _ ran =>
    have maintains : (handlers party).handle.Maintains (Traced handlers start) :=
      Handler.maintains_handle fun _ member _ traced => traced.visited member
    exact (maintains tracker store traced).post_of_reaches ran
  | @released release _ ran =>
    have maintains : release.perform.Maintains (Traced handlers start) :=
      Release.maintains_perform fun _ host traced => traced.released release host
    exact (maintains store traced).post_of_reaches ran

theorem traced_of_history (history : Relation.ReflTransGen (Acts handlers) start store) :
    Traced handlers start store := by
  induction history with
  | refl => exact Traced.refl handlers start
  | tail _ acts inductionHypothesis => exact inductionHypothesis.acted acts

/-- After any history of passes and releases, when a pass returns: an active host that had no override
at the beginning has one now, and one of the handlers created it under that name. It routes the host to
the version of the pass if and only if its maker writes the same label and version, for the same
service. -/
theorem Handler.routes_iff_of_active {party : ι} {tracker noted : Tracker} {result : PassResult}
    (history : Relation.ReflTransGen (Acts handlers) start store)
    (missing : (handlers party).holds start host = false)
    (returned : Reaches (exact false) ((handlers party).handle.outcome tracker) store
      (.done (.ok result, noted)) final)
    (active : host ∈ result.active) :
    ∃ object, final.find? (handlers party).ns ((handlers party).nameFor host) = some object ∧
      ∃ maker, ∃ asked ∈ (handlers maker).hosts, (handlers maker).Built asked object ∧
        ((handlers party).Routes host object ↔
          (handlers maker).versionLabel = (handlers party).versionLabel ∧
          (handlers maker).uniqueVersion = (handlers party).uniqueVersion ∧
          Host.sameService host (handlers party).ns asked (handlers party).ns = true) := by
  -- The pass itself is part of the history: it may have created the override just now.
  have traced := (traced_of_history history).acted (.passed party returned)
  obtain ⟨rfl, actives⟩ := of_handle_returned returned
  rw [actives, List.mem_filter] at active
  obtain ⟨object, found⟩ := exists_find?_storeAfterAll active.1 active.2
  obtain ⟨maker, asked, member, built⟩ :=
    traced _ _ object (holds_eq_false_iff.1 missing) found
  exact ⟨object, found, maker, asked, member, built, built.routes_iff (key_of_find? found)⟩

/-! ## Two versions of one service

Two teams use one unique name. The first one creates the override of the cart, the second one finds
it. -/

namespace Handler

def twoTeams (version : String) : Bool → Handler
  | false => ofTeam "web"
  | true => { ofTeam "api" with uniqueVersion := version }

theorem returned_twoTeams (version : String) :
    Reaches (exact false) ((twoTeams version true).handle.outcome .empty)
      ((ofTeam "web").storeAfter cartStore "cart")
      (.done (.ok ⟨["cart"], []⟩, ⟨["cart"], []⟩)) ((ofTeam "web").storeAfter cartStore "cart") :=
  .answered false ⟨nofun, rfl⟩ <|
  .answered (.ok _) ⟨rfl, rfl⟩ <| .here

theorem history_twoTeams (version : String) :
    Relation.ReflTransGen (Acts (twoTeams version)) cartStore
      ((ofTeam "web").storeAfter cartStore "cart") :=
  .single (.passed false returned_ofTeam_web)

theorem routes_same_version :
    (ofTeam "api").holds cartStore "cart" = false ∧
    ∃ object, ((ofTeam "web").storeAfter cartStore "cart").find? "prod" "blue-cart" = some object ∧
      (ofTeam "api").Routes "cart" object := by
  have missing : (twoTeams "v2" true).holds cartStore "cart" = false := by decide
  obtain ⟨object, found, maker, asked, member, -, routes⟩ :=
    routes_iff_of_active (history_twoTeams "v2") missing (returned_twoTeams "v2")
      (List.mem_singleton.2 rfl)
  refine ⟨missing, object, found, routes.2 ?_⟩
  cases maker <;> cases List.mem_singleton.1 member <;> exact ⟨rfl, rfl, Host.sameService_self _ _ _⟩

/-- The second team asks for another version, and its pass returns the host as active although the
override routes to the version of the first team. -/
theorem not_routes_other_version : ¬ ∀ (handlers : Bool → Handler) (start store final : MemoryStore)
    (party : Bool) (tracker noted : Tracker) (result : PassResult) (host : String),
      (∀ object ∈ start.objects, ∀ party other, ∀ host ∈ (handlers other).hosts,
        object.name ≠ (handlers party).nameFor host) →
      Relation.ReflTransGen (Acts handlers) start store →
      Reaches (exact false) ((handlers party).handle.outcome tracker) store
        (.done (.ok result, noted)) final →
      host ∈ result.active →
      ∃ object, final.find? (handlers party).ns ((handlers party).nameFor host) = some object ∧
        (handlers party).Routes host object := by
  intro allRouted
  have noOverride : ∀ object ∈ cartStore.objects, ∀ party other,
      ∀ host ∈ (twoTeams "v3" other).hosts, object.name ≠ (twoTeams "v3" party).nameFor host := by
    decide
  obtain ⟨object, found, routed, -⟩ := allRouted (twoTeams "v3") _ _ _ true .empty _ _ "cart"
    noOverride (history_twoTeams "v3") (returned_twoTeams "v3") (List.mem_singleton.2 rfl)
  have other : (((ofTeam "web").storeAfter cartStore "cart").find? "prod" "blue-cart").map
      (fun object => (object.subsetWith? "version" "v3").isSome) = some false := by
    decide +kernel
  have stored : ((ofTeam "web").storeAfter cartStore "cart").find? "prod" "blue-cart" =
      some object := found
  rw [stored, Option.map_some, Option.some.injEq] at other
  exact absurd routed (Bool.not_eq_true _ ▸ other)

end Handler

end RouteOverrides
