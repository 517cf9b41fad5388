import RouteOverrides.Proofs.Handler.Provenance
import RouteOverrides.Proofs.Release.Meaning

/-! # Overrides of one name

The name of an override is a unique name, a dash and a host. Unique names and hosts may hold dashes
themselves, so that different pairs make one name. Then two handlers have one override between them:
the second handler finds what the first one created, and its release takes its owner off there.

* `Collide` — different pairs of a unique name and a host that make one name.
* `overrideName_eq_iff` — there are no other such pairs.
* `Handler.Touches` — what a handler does with an object that bears the names of some hosts.
* `Handler.touches_colliding` — a handler touches overrides of another one through colliding hosts.
-/

namespace RouteOverrides

open Program MemoryStore

/-! ## Names -/

/-- Two pairs make one name with the joint at different dashes. What stands between the two dashes
belongs to the host of one pair and to the unique name of the other. -/
def Collide (uniqueName host otherName otherHost : String) : Prop :=
  ∃ between,
    otherName = overrideName uniqueName between ∧ host = overrideName between otherHost ∨
    uniqueName = overrideName otherName between ∧ otherHost = overrideName between host

variable {uniqueName host otherName otherHost : String}

theorem toList_overrideName (uniqueName host : String) :
    (overrideName uniqueName host).toList = uniqueName.toList ++ '-' :: host.toList := by
  simp [overrideName]

theorem overrideName_assoc (uniqueName between host : String) :
    overrideName (overrideName uniqueName between) host =
      overrideName uniqueName (overrideName between host) := by
  simp [overrideName, String.append_assoc]

theorem same_or_between {rest : List Char} (longer : otherName.toList = uniqueName.toList ++ rest)
    (remains : '-' :: host.toList = rest ++ '-' :: otherHost.toList) :
    uniqueName = otherName ∧ host = otherHost ∨
    ∃ between, otherName = overrideName uniqueName between ∧
      host = overrideName between otherHost := by
  cases rest with
  | nil =>
    left
    simp_all [String.toList_inj]
  | cons dash between =>
    obtain ⟨rfl, remains⟩ := List.cons.inj remains
    refine .inr ⟨String.ofList between, ?_, ?_⟩
    all_goals
      rw [← String.toList_inj, toList_overrideName]
      simp_all

theorem overrideName_eq_iff : overrideName uniqueName host = overrideName otherName otherHost ↔
    uniqueName = otherName ∧ host = otherHost ∨ Collide uniqueName host otherName otherHost := by
  constructor
  · intro same
    rw [← String.toList_inj, toList_overrideName, toList_overrideName,
      List.append_eq_append_iff] at same
    -- One of the unique names begins with the other one, and the host of the other takes the rest.
    obtain ⟨rest, longer, remains⟩ | ⟨rest, longer, remains⟩ := same
    · obtain equal | ⟨between, longer, remains⟩ := same_or_between longer remains
      · exact .inl equal
      · exact .inr ⟨between, .inl ⟨longer, remains⟩⟩
    · obtain ⟨rfl, rfl⟩ | ⟨between, longer, remains⟩ := same_or_between longer remains
      · exact .inl ⟨rfl, rfl⟩
      · exact .inr ⟨between, .inr ⟨longer, remains⟩⟩
  · rintro (⟨rfl, rfl⟩ | ⟨between, ⟨rfl, rfl⟩ | ⟨rfl, rfl⟩⟩)
    · rfl
    · exact (overrideName_assoc _ _ _).symm
    · exact overrideName_assoc _ _ _

/-! ## Handlers of different names -/

namespace Handler

variable {handler : Handler} {start middle store final : MemoryStore} {name : String}
  {object : RoutingObject}

/-- A pass of a handler, however it ends, adds an object under a name. -/
structure Creates (handler : Handler) (start middle : MemoryStore) (name : String)
    (object : RoutingObject) : Prop where
  ran : ∃ tracker ended,
    Reaches (exact false) (handler.handle.outcome tracker) start (.done ended) middle
  vacant : start.find? handler.ns name = none
  found : middle.find? handler.ns name = some object

theorem Creates.built (creates : handler.Creates start middle name object) :
    ∃ host ∈ handler.hosts, handler.Built host object := by
  obtain ⟨tracker, ended, ran⟩ := creates.ran
  have acts : Acts (fun _ : Unit => handler) start middle := .passed () ran
  obtain ⟨_, built⟩ := (Traced.refl _ start).acted acts _ _ _ creates.vacant creates.found
  exact built

/-- What a handler does with an object in its namespace that bears the names of some hosts. -/
structure Touches (handler : Handler) (bears : String → Prop) (store : MemoryStore) (name : String)
    (object : RoutingObject) : Prop where
  /-- A pass that returns counts the object as the override of those of its hosts. -/
  counts : ∀ tracker noted result final other,
    Reaches (exact false) (handler.handle.outcome tracker) store (.done (.ok result, noted)) final →
    (other ∈ result.active ∧ handler.nameFor other = name ↔ other ∈ handler.hosts ∧ bears other)
  /-- However a release ends: if it changes the object, then one of its hosts is among them, and the
  object listed the owner. -/
  changes : ∀ result final,
    Reaches (exact false) handler.release.run store (.done result) final →
    final.find? handler.ns name ≠ some object →
    handler.owner ∈ (object.owners handler.key).toList ∧ ∃ other ∈ handler.hosts, bears other
  /-- A release that returns has then changed it. -/
  changed : ∀ names final,
    Reaches (exact false) handler.release.run store (.done (.ok names)) final →
    handler.owner ∈ (object.owners handler.key).toList → (∃ other ∈ handler.hosts, bears other) →
    final.find? handler.ns name ≠ some object

theorem counts_of_found (found : store.find? handler.ns name = some object)
    {tracker noted : Tracker} {result : PassResult} {other : String}
    (returned : Reaches (exact false) (handler.handle.outcome tracker) store
      (.done (.ok result, noted)) final) :
    other ∈ result.active ∧ handler.nameFor other = name ↔
      other ∈ handler.hosts ∧ handler.nameFor other = name := by
  obtain ⟨-, actives⟩ := of_handle_returned returned
  rw [actives, List.mem_filter]
  refine and_congr_left fun named => and_iff_left ?_
  subst named
  exact available_of_holds (by rw [holds, found, Option.isSome_some])

end Handler

namespace Release

variable {store final : MemoryStore} {name : String} {object : RoutingObject}

theorem listed_of_changed (release : Release) (found : store.find? release.ns name = some object)
    {result : Except Failure (List String)}
    (ran : Reaches (exact false) release.perform.run store (.done result) final)
    (changed : final.find? release.ns name ≠ some object) :
    release.owner ∈ (object.owners release.key).toList ∧
      ∃ other ∈ release.hosts, release.nameFor other = name := by
  have visited := (release.keeps_forHosts store release.hosts).post_of_reaches ran
  obtain ⟨seen, first, rfl⟩ := exists_seen visited
  -- Without such a host the place would be as it was.
  by_contra none
  refine changed ((find?_storeAfterAll_of_apart fun other listed same => none ?_).trans found)
  obtain ⟨before, foundBefore, member⟩ := lists_iff.1 (lists_of_mem_listing listed)
  obtain ⟨-, rfl⟩ := Prod.mk.inj same
  obtain rfl : before = object := Option.some.inj (foundBefore.symm.trans found)
  exact ⟨member, other, first.subset (mem_of_mem_listing listed), rfl⟩

theorem changed_of_listed (release : Release) {names : List String}
    (ran : Reaches (exact false) release.perform.run store (.done (.ok names)) final)
    (listed : release.owner ∈ (object.owners release.key).toList)
    (asked : ∃ other ∈ release.hosts, release.nameFor other = name) :
    final.find? release.ns name ≠ some object := by
  obtain ⟨other, asked, rfl⟩ := asked
  obtain ⟨-, rfl⟩ := (release.keeps_forHosts store release.hosts).post_of_reaches ran
  intro same
  have unlisted := release.unlisted_storeAfterAll store release.hosts other asked
  rw [lists_iff.2 ⟨object, same, listed⟩] at unlisted
  cases unlisted

end Release

namespace Handler

variable {store : MemoryStore} {name : String} {object : RoutingObject}

theorem touches_of_found (handler : Handler) (found : store.find? handler.ns name = some object) :
    handler.Touches (fun other => handler.nameFor other = name) store name object where
  counts _ _ _ _ _ := counts_of_found found
  changes _ _ ran := Release.listed_of_changed handler.toRelease found ran
  changed _ _ ran := Release.changed_of_listed handler.toRelease ran

/-- Two handlers give hosts the same name exactly if their unique names and the hosts are the same, or
if the pairs collide. And an object that a pass of a handler adds was built for one of its hosts, and
whenever an object stands there later, another handler of the namespace with another unique name touches
it exactly through hosts that collide with that host. -/
theorem touches_colliding (first second : Handler) :
    (∀ host other, first.nameFor host = second.nameFor other ↔
      first.uniqueName = second.uniqueName ∧ host = other ∨
        Collide first.uniqueName host second.uniqueName other) ∧
    (first.ns = second.ns → first.uniqueName ≠ second.uniqueName →
      ∀ start middle name object, first.Creates start middle name object →
        ∃ host ∈ first.hosts, first.Built host object ∧
          ∀ store current, store.find? first.ns name = some current →
            second.Touches (Collide first.uniqueName host second.uniqueName) store name current) := by
  refine ⟨fun _ _ => overrideName_eq_iff, ?_⟩
  intro sameNs different start middle name object creates
  obtain ⟨host, asked, built⟩ := creates.built
  have named : first.nameFor host = name :=
    (Prod.mk.inj (built.place.symm.trans (key_of_find? creates.found))).2
  have bears : Collide first.uniqueName host second.uniqueName =
      fun other => second.nameFor other = name := by
    funext other
    -- The unique names differ, so the names are equal by collision only.
    have collides : first.nameFor host = second.nameFor other ↔
        Collide first.uniqueName host second.uniqueName other :=
      overrideName_eq_iff.trans (or_iff_right fun same => different same.1)
    rw [← named, eq_comm (a := second.nameFor other), collides]
  refine ⟨host, asked, built, fun store current found => ?_⟩
  rw [bears]
  exact touches_of_found second (sameNs ▸ found)

/-! ## Two readings of one name

One handler keeps an override for the host `green-cart` under the unique name `blue`, another one an
override for the host `cart` under the unique name `blue-green`. -/

def ofBlue : Handler := { ofTeam "web" with hosts := ["green-cart"] }

def ofBlueGreen : Handler := { ofTeam "web" with uniqueName := "blue-green" }

def greenStore : MemoryStore where
  objects :=
    [{ name := "green-cart"
       ns := "prod"
       labels := []
       annotations := []
       host := "green-cart"
       subsets := [⟨"v1", [("version", "shared")]⟩]
       revision := some "1" }]
  writes := 1

def deployedStore : MemoryStore := ofBlue.storeAfter greenStore "green-cart"

theorem returned_ofBlue :
    Reaches (exact false) (ofBlue.handle.outcome .empty) greenStore
      (.done (.ok ⟨["green-cart"], []⟩, ⟨["green-cart"], []⟩)) deployedStore :=
  .answered false ⟨nofun, rfl⟩ <|
  .answered (.error (.notFound "prod/blue-green-cart")) ⟨rfl, rfl⟩ <|
  .answered (.ok ()) ⟨nofun, rfl⟩ <|
  .answered false ⟨nofun, rfl⟩ <|
  .answered (.ok (greenStore.inNamespace "prod")) ⟨rfl, rfl⟩ <|
  .answered (.ok ()) ⟨nofun, rfl⟩ <|
  .answered false ⟨nofun, rfl⟩ <|
  .answered (.ok ()) ⟨rfl, rfl⟩ <| .here

theorem returned_ofBlueGreen :
    Reaches (exact false) (ofBlueGreen.handle.outcome .empty) deployedStore
      (.done (.ok ⟨["cart"], []⟩, ⟨["cart"], []⟩)) deployedStore :=
  .answered false ⟨nofun, rfl⟩ <|
  .answered (.ok _) ⟨rfl, rfl⟩ <| .here

theorem released_ofBlueGreen :
    Reaches (exact false) ofBlueGreen.release.run deployedStore
      (.done (.ok ["blue-green-cart"])) (ofBlueGreen.toRelease.storeAfter deployedStore "cart") :=
  .answered false ⟨nofun, rfl⟩ <|
  .answered (.ok _) ⟨rfl, rfl⟩ <|
  .answered false ⟨nofun, rfl⟩ <|
  .answered (.ok ()) ⟨rfl, rfl⟩ <|
  .answered (.ok ()) ⟨nofun, rfl⟩ <| .here

theorem exists_creates_ofBlue :
    ∃ object, ofBlue.Creates greenStore deployedStore "blue-green-cart" object ∧
      ofBlueGreen.owner ∈ (object.owners ofBlueGreen.key).toList :=
  ⟨_, ⟨⟨_, _, returned_ofBlue⟩, rfl, rfl⟩, by decide +kernel⟩

theorem touches_green_cart :
    ofBlue.uniqueName ≠ ofBlueGreen.uniqueName ∧
    ∃ object, ofBlue.Creates greenStore deployedStore "blue-green-cart" object ∧
      ofBlueGreen.Touches (Collide "blue" "green-cart" "blue-green") deployedStore "blue-green-cart"
        object := by
  have different : ofBlue.uniqueName ≠ ofBlueGreen.uniqueName := by decide
  obtain ⟨object, creates, -⟩ := exists_creates_ofBlue
  obtain ⟨host, asked, -, touches⟩ :=
    (touches_colliding ofBlue ofBlueGreen).2 rfl different _ _ _ object creates
  obtain rfl := List.mem_singleton.1 asked
  exact ⟨different, object, creates, touches _ _ creates.found⟩

/-- Two handlers of one namespace with different unique names, both of which are accepted. -/
structure Neighbours (first second : Handler) : Prop where
  accepted : NameRule.uniqueName.accepts first.uniqueName = true
  acceptedOther : NameRule.uniqueName.accepts second.uniqueName = true
  sameNs : first.ns = second.ns
  different : first.uniqueName ≠ second.uniqueName

/-- Two accepted unique names can make one name, and a handler can count what a neighbour created as
active and take its owner off it. -/
theorem not_apart :
    (¬ ∀ uniqueName host otherName otherHost, NameRule.uniqueName.accepts uniqueName = true →
      NameRule.uniqueName.accepts otherName = true →
      overrideName uniqueName host = overrideName otherName otherHost →
      uniqueName = otherName ∧ host = otherHost) ∧
    (¬ ∀ (first second : Handler) (start middle final : MemoryStore) (name : String)
      (object : RoutingObject) (tracker noted : Tracker) (result : PassResult),
      first.Neighbours second → first.Creates start middle name object →
      Reaches (exact false) (second.handle.outcome tracker) middle (.done (.ok result, noted)) final →
      ∀ other ∈ result.active, second.nameFor other ≠ name) ∧
    ¬ ∀ (first second : Handler) (start middle final : MemoryStore) (name : String)
      (object : RoutingObject) (names : List String),
      first.Neighbours second → first.Creates start middle name object →
      Reaches (exact false) second.release.run middle (.done (.ok names)) final →
      final.find? first.ns name = some object := by
  have neighbours : ofBlue.Neighbours ofBlueGreen :=
    ⟨by decide, by decide, rfl, by decide⟩
  obtain ⟨object, creates, listed⟩ := exists_creates_ofBlue
  refine ⟨fun unique => ?_, fun uncounted => ?_, fun unchanged => ?_⟩
  · have same := unique _ "green-cart" _ "cart" neighbours.accepted neighbours.acceptedOther rfl
    exact neighbours.different same.1
  · exact uncounted ofBlue ofBlueGreen _ _ _ _ object _ _ _ neighbours creates returned_ofBlueGreen
      "cart" (List.mem_singleton.2 rfl) rfl
  · have same := unchanged ofBlue ofBlueGreen _ _ _ _ object _ neighbours creates released_ofBlueGreen
    have touches := touches_of_found ofBlueGreen creates.found
    exact touches.changed _ _ released_ofBlueGreen listed ⟨"cart", List.mem_singleton.2 rfl, rfl⟩ same

end Handler

end RouteOverrides
