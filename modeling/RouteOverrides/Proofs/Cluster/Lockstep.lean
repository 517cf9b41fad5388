import Mathlib.Data.List.Induction
import RouteOverrides.Proofs.Cluster.Server
import RouteOverrides.Proofs.Program.Likeness
import RouteOverrides.Proofs.Store.Revision

/-! # A store in a cluster beside a store in memory

Both stores get calls with the same effect, one after the other. They hold twins in the same order, at
the same places. What one numbers and the other gives versions to, the twins tell: at one place, equal
numbers and equal versions are those of one write. So an update is stale in both stores or in none, and
where it is not, setting the annotations of a manifest leaves what replacing the object does.

* `Agree` — two stores with their twins.
* `Agree.write` — one object is written to both.
* `Agree.answered` — calls with the same effect are answered alike.
* `Agree.start` — a store in memory is filled with what a server holds.
-/

namespace RouteOverrides

open ApiServer MemoryStore

/-- A manifest that is read as the twin of an object. -/
def HeldAs (twins : Twins) (object : RoutingObject) (entry : NamespacedName × Json) : Prop :=
  ∃ read, Reads entry read ∧ twins.related object read

/-- A store in memory and a server hold twins. -/
structure Agree (store : MemoryStore) (server : ApiServer) (twins : Twins) : Prop where
  held : List.Forall₂ (HeldAs twins) store.objects server.manifests
  /-- All that was ever read from the store has a number in use. -/
  numbered : ∀ {object other}, twins.related object other →
    ∃ n ≤ store.writes, object.revision = some (toString n)
  /-- All that was ever read from the server has a version that was given. -/
  versioned : ∀ {object other}, twins.related object other →
    ∃ version, other.revision = some version ∧ (object.key, version) ∈ server.issued
  /-- At one place, a number belongs to one version. -/
  told : ∀ {object other current currentOther}, twins.related object other →
    twins.related current currentOther → object.key = current.key →
    object.revision = current.revision ∨ other.revision = currentOther.revision →
    object = current ∧ other = currentOther

/-- A write adds a pair of twins. -/
def Twins.add (twins : Twins) (object other : RoutingObject)
    (same : other = { object with revision := other.revision }) : Twins where
  related before after := twins.related before after ∨ before = object ∧ after = other
  same := by
    rintro before after (old | ⟨rfl, rfl⟩)
    · exact twins.same old
    · exact same

variable {twins more : Twins} {object other current : RoutingObject} {objects : List RoutingObject}
  {entry : NamespacedName × Json} {entries : List (NamespacedName × Json)} {manifest : Json}
  {version : String} {store : MemoryStore} {server later : ApiServer} {settings : Settings}

theorem Twins.key_eq (read : twins.related object other) : other.key = object.key := by
  rw [twins.same read]
  rfl

theorem HeldAs.mono (grown : twins ≤ more) (heldAs : HeldAs twins object entry) :
    HeldAs more object entry := by
  obtain ⟨read, reads, related⟩ := heldAs
  exact ⟨read, reads, grown _ _ related⟩

theorem HeldAs.placed (heldAs : HeldAs twins object entry) : entry.1 = object.key := by
  obtain ⟨read, reads, related⟩ := heldAs
  exact reads.placed.trans (Twins.key_eq related)

/-! ## Twins in the same order -/

theorem forall₂_place (held : List.Forall₂ (HeldAs twins) objects entries)
    (written : HeldAs twins object (object.key, manifest)) :
    List.Forall₂ (HeldAs twins) (place object objects)
      (ApiServer.put object.key manifest entries) := by
  induction held with
  | nil => exact .cons written .nil
  | @cons other entry objects entries heldAs rest inductionHypothesis =>
    rw [place, ApiServer.put, heldAs.placed]
    split
    · exact .cons written rest
    · exact .cons heldAs inductionHypothesis

theorem mapM_ofManifest (held : List.Forall₂ (HeldAs twins) objects entries) :
    ∃ others, (entries.map (·.2)).mapM RoutingObject.ofManifest = .ok others ∧
      List.Forall₂ twins.related objects others := by
  induction held with
  | nil => exact ⟨[], rfl, .nil⟩
  | @cons object entry objects entries heldAs _ inductionHypothesis =>
    obtain ⟨read, reads, related⟩ := heldAs
    obtain ⟨others, readRest, relatedRest⟩ := inductionHypothesis
    refine ⟨read :: others, ?_, .cons related relatedRest⟩
    rw [List.map_cons, List.mapM_cons, reads.accepted, readRest]
    rfl

/-- A manifest at its place is read as an object of a store in memory, apart from the revision. -/
def ApiServer.StandsFor (entry : NamespacedName × Json) (object : RoutingObject) : Prop :=
  entry.1 = object.key ∧
    ∃ version, RoutingObject.ofManifest entry.2 = .ok { object with revision := some version }

theorem HeldAs.standsFor (heldAs : HeldAs twins object entry) : StandsFor entry object := by
  refine ⟨heldAs.placed, ?_⟩
  obtain ⟨read, reads, related⟩ := heldAs
  obtain ⟨version, carries⟩ := Option.ne_none_iff_exists'.1 reads.versioned
  exact ⟨version, by rw [reads.accepted, twins.same related, carries]⟩

namespace Agree

theorem standsFor (agree : Agree store server twins) :
    List.Forall₂ StandsFor server.manifests store.objects :=
  (agree.held.imp fun _ _ => HeldAs.standsFor).flip

theorem found (agree : Agree store server twins) (ns name : String) :
    Option.Rel (HeldAs twins) (store.find? ns name)
      (server.manifests.find? fun entry => entry.1 == (ns, name)) := by
  refine forall₂_find? agree.held fun object entry heldAs => ?_
  rw [heldAs.placed]
  exact Bool.eq_iff_iff.2 (isAt_iff.trans beq_iff_eq.symm)

theorem find?_eq_some (agree : Agree store server twins) {ns name : String}
    (held : server.find? (ns, name) = some manifest) :
    ∃ object, store.find? ns name = some object ∧ HeldAs twins object ((ns, name), manifest) := by
  obtain ⟨⟨place, manifest⟩, foundEntry, rfl⟩ := Option.map_eq_some_iff.1 held
  have here := List.find?_some foundEntry
  cases beq_iff_eq.1 here
  have found := agree.found ns name
  rw [foundEntry] at found
  generalize store.find? ns name = located at found ⊢
  cases found with
  | some heldAs => exact ⟨_, rfl, heldAs⟩

/-- Without a manifest at a place there is no object either. -/
theorem find?_eq_none (agree : Agree store server twins) {ns name : String}
    (vacant : server.find? (ns, name) = none) : store.find? ns name = none := by
  have found := agree.found ns name
  rw [Option.map_eq_none_iff.1 vacant] at found
  generalize store.find? ns name = located at found ⊢
  cases found
  rfl

theorem inNamespace (agree : Agree store server twins) (ns : String) :
    ∃ others, (server.inNamespace ns).mapM RoutingObject.ofManifest = .ok others ∧
      List.Forall₂ twins.related (store.inNamespace ns) others := by
  refine mapM_ofManifest (List.rel_filter (fun object entry heldAs => ?_) agree.held)
  have sameNamespace : entry.1.1 = object.ns := congrArg Prod.fst heldAs.placed
  beta_reduce
  rw [sameNamespace]

/-- What was read from a place has neither the number nor the version of a write to come. -/
theorem fresh (agree : Agree store server twins) (read : twins.related object other)
    (new : (object.key, version) ∉ server.issued) :
    object.revision ≠ some (toString (store.writes + 1)) ∧ other.revision ≠ some version := by
  constructor
  · intro same
    obtain ⟨n, below, numbered⟩ := agree.numbered read
    have sameNumber : n = store.writes + 1 :=
      Nat.repr_injective (Option.some.inj (numbered.symm.trans same))
    omega
  · intro same
    obtain ⟨given, carries, issued⟩ := agree.versioned read
    cases carries.symm.trans same
    exact new issued

/-- An object is written to both stores, and the server gives a version that is new there. -/
theorem write (agree : Agree store server twins) (object : RoutingObject) {carried : Option String}
    (accepted : RoutingObject.ofManifest manifest = .ok { object with revision := carried })
    (distinct : (Keyed.keys object.annotations).Nodup)
    (new : (object.key, version) ∉ server.issued) :
    ∃ more, twins ≤ more ∧
      Agree (store.put object) (server.write object.key version manifest) more := by
  have grown : twins ≤ twins.add (store.stamp object) { object with revision := some version } rfl :=
    fun _ _ old => .inl old
  have written : HeldAs (twins.add (store.stamp object) { object with revision := some version } rfl)
      (store.stamp object) (object.key, Manifest.versioned version manifest) := by
    refine ⟨{ object with revision := some version }, ⟨?_, rfl, nofun, distinct⟩, .inr ⟨rfl, rfl⟩⟩
    exact Manifest.ofManifest_versioned accepted version
  refine ⟨_, grown, forall₂_place (agree.held.imp fun _ _ => HeldAs.mono grown) written, ?_, ?_, ?_⟩
  · rintro before after (old | ⟨rfl, rfl⟩)
    · obtain ⟨n, below, numbered⟩ := agree.numbered old
      exact ⟨n, Nat.le_succ_of_le below, numbered⟩
    · exact ⟨store.writes + 1, Nat.le_refl _, rfl⟩
  · rintro before after (old | ⟨rfl, rfl⟩)
    · obtain ⟨given, carries, issued⟩ := agree.versioned old
      exact ⟨given, carries, List.mem_cons_of_mem _ issued⟩
    · exact ⟨version, rfl, List.mem_cons_self⟩
  · rintro before after now nowAfter (old | ⟨rfl, rfl⟩) (oldNow | ⟨rfl, rfl⟩) sameKey same
    · exact agree.told old oldNow sameKey same
    · obtain ⟨otherNumber, otherVersion⟩ := agree.fresh old (sameKey ▸ new)
      exact (same.elim otherNumber otherVersion).elim
    · obtain ⟨otherNumber, otherVersion⟩ := agree.fresh oldNow (sameKey ▸ new)
      exact (same.elim (otherNumber ·.symm) (otherVersion ·.symm)).elim
    · exact ⟨rfl, rfl⟩

/-! ## Calls -/

theorem answered_create (agree : Agree store server twins)
    (distinct : (Keyed.keys object.annotations).Nodup) {reply : Except ClusterError Json}
    (answers : server.Answers (.create object.ns (object.toManifest settings)) reply later) :
    ∃ more, twins ≤ more ∧
      Corresponds (fun _ _ => True) (store.answer (.create object)).1
        ((StoreCall.create object).readReply reply) ∧
      Agree (store.answer (.create object)).2 later more := by
  cases answers with
  | taken held reason =>
    rw [Manifest.name_toManifest] at held
    obtain ⟨current, found, -⟩ := agree.find?_eq_some held
    simp only [answer, found]
    exact ⟨twins, le_refl _, .error (.refl _), agree⟩
  | created vacant new body =>
    rw [Manifest.name_toManifest] at vacant new ⊢
    rw [answer_create (agree.find?_eq_none vacant)]
    obtain ⟨more, grown, agreeThen⟩ :=
      agree.write object (RoutingObject.ofManifest_toManifest settings object) distinct new
    exact ⟨more, grown, .ok trivial, agreeThen⟩

/-- A manifest at the place of a twin is that of the twin, if it has the number or the version of it. -/
theorem current_eq (agree : Agree store server twins) (read : twins.related object other)
    (found : store.find? object.ns object.name = some current)
    (heldAs : HeldAs twins current (object.key, manifest))
    (same : object.revision = current.revision ∨ other.revision = Manifest.version? manifest) :
    object = current ∧ RoutingObject.ofManifest manifest = .ok other := by
  obtain ⟨currentOther, reads, related⟩ := heldAs
  have sameKey : object.key = current.key := (key_of_find? found).symm
  rw [Manifest.version?_of_read reads.accepted] at same
  obtain ⟨rfl, rfl⟩ := agree.told read related sameKey same
  exact ⟨rfl, reads.accepted⟩

/-- Both stores find an update stale, or both write it. -/
theorem answered_update (agree : Agree store server twins) (read : twins.related object other)
    {annotations : List (String × String)}
    (same : Keyed.keys annotations = Keyed.keys object.annotations)
    {reply : Except ClusterError Json}
    (answers : server.Answers (.patch other.ns other.name
      (Manifest.ofUpdate { other with annotations := annotations })) reply later) :
    ∃ more, twins ≤ more ∧
      Corresponds (fun _ _ => True)
        (store.answer (.update { object with annotations := annotations })).1
        ((StoreCall.update { other with annotations := annotations }).readReply reply) ∧
      Agree (store.answer (.update { object with annotations := annotations })).2 later more := by
  obtain ⟨n, -, numbered⟩ := agree.numbered read
  obtain ⟨given, carries, -⟩ := agree.versioned read
  obtain ⟨revision, rfl⟩ : ∃ revision, other = { object with revision := revision } :=
    ⟨_, twins.same read⟩
  cases answers with
  | lost vacant reason =>
    have absent := agree.find?_eq_none vacant
    simp only [answer, update, absent]
    exact ⟨twins, le_refl _, .error (.refl _), agree⟩
  | @stale _ _ sent _ _ held carriesSent moved reason =>
    obtain ⟨current, found, heldAs⟩ := agree.find?_eq_some held
    have outdated : object.revision ≠ current.revision := by
      intro sameNumber
      obtain ⟨-, accepted⟩ := agree.current_eq read found heldAs (.inl sameNumber)
      rw [Manifest.version?_ofUpdate] at carriesSent
      exact moved ((Manifest.version?_of_read accepted).trans carriesSent)
    rw [numbered] at outdated
    simp only [answer, update, found, numbered, if_neg outdated]
    exact ⟨twins, le_refl _, .error (.conflict _ _), agree⟩
  | @patched _ _ version _ manifest held upToDate new body =>
    obtain ⟨current, found, heldAs⟩ := agree.find?_eq_some held
    have sameVersion : some given = Manifest.version? manifest :=
      (upToDate given ((Manifest.version?_ofUpdate _).trans carries)).symm
    obtain ⟨rfl, accepted⟩ := agree.current_eq read found heldAs (.inr (carries.trans sameVersion))
    obtain ⟨read, reads, -⟩ := heldAs
    cases Except.ok.inj (reads.accepted.symm.trans accepted)
    have distinct : (Keyed.keys object.annotations).Nodup := reads.distinct
    -- The manifest is that of the twin, so setting these annotations leaves no others.
    have annotated := Manifest.ofManifest_annotated accepted (Manifest.annotations_ofUpdate
      { object with revision := revision, annotations := annotations }) same distinct
    have written : store.answer (.update { object with annotations := annotations }) =
        (.ok (), store.put { object with annotations := annotations }) :=
      update_eq_put found (.inr rfl)
    rw [written]
    obtain ⟨more, grown, agreeThen⟩ :=
      agree.write { object with annotations := annotations } annotated (same ▸ distinct) new
    exact ⟨more, grown, .ok trivial, agreeThen⟩

/-- Calls with the same effect are answered alike, and the stores go on with twins. -/
theorem answered (agree : Agree store server twins) {call callOther : StoreCall}
    (alike : call.Alike twins callOther) {reply : Except ClusterError Json}
    (answers : server.Answers (ClusterCall.ofStoreCall settings callOther) reply later) :
    ∃ more, twins ≤ more ∧
      StoreCall.RepliesAlike more call callOther (store.answer call).1 (callOther.readReply reply) ∧
      Agree (store.answer call).2 later more := by
  cases alike with
  | get ns name =>
    rw [answer_get_snd]
    cases answers with
    | found held =>
      obtain ⟨object, found, other, reads, related⟩ := agree.find?_eq_some held
      refine ⟨twins, le_refl _, ?_, agree⟩
      simp only [StoreCall.RepliesAlike, answer, found, StoreCall.readReply, reads.accepted]
      exact .ok related
    | absent vacant reason =>
      refine ⟨twins, le_refl _, ?_, agree⟩
      simp only [StoreCall.RepliesAlike, answer, agree.find?_eq_none vacant, StoreCall.readReply]
      exact .error (.refl _)
  | list ns =>
    cases answers with
    | listed items =>
      obtain ⟨others, read, related⟩ := agree.inNamespace ns
      refine ⟨twins, le_refl _, ?_, agree⟩
      simp only [StoreCall.RepliesAlike, answer_list, StoreCall.readReply, StoreCall.readListing, items]
      change Corresponds _ _ (List.mapM _ _)
      rw [read]
      exact .ok related
  | create object distinct => exact agree.answered_create distinct answers
  | update read annotations same => exact agree.answered_update read same answers

end Agree

/-! ## The start -/

/-- Filling a store numbers the objects in their order. -/
theorem MemoryStore.ofList_of_distinct (distinct : (objects.map (·.key)).Nodup) :
    ofList objects =
      ⟨objects.mapIdx fun index object => { object with revision := some (toString (index + 1)) },
        objects.length⟩ := by
  induction objects using List.reverseRecOn with
  | nil => rfl
  | append_singleton front object inductionHypothesis =>
    rw [List.map_append, List.nodup_append] at distinct
    obtain ⟨distinctFront, -, apart⟩ := distinct
    have filled := inductionHypothesis distinctFront
    have put : ofList (front ++ [object]) = (ofList front).put object := by
      rw [ofList, List.foldl_append]
      rfl
    have vacant : (ofList front).find? object.ns object.name = none := by
      rw [filled, find?_eq, List.find?_eq_none]
      intro stored member isHere
      obtain ⟨index, below, rfl⟩ := List.mem_mapIdx.1 member
      exact apart _ (List.mem_map.2 ⟨_, List.getElem_mem below, rfl⟩) object.key
        (List.mem_singleton.2 rfl) (isAt_iff.1 isHere)
    have appended : ((ofList front).put object).objects =
        (ofList front).objects ++ [(ofList front).stamp object] := objects_put_of_find?_eq_none vacant
    rw [put, MemoryStore.mk.injEq, appended, filled]
    refine ⟨?_, ?_⟩
    · rw [List.mapIdx_concat]
      rfl
    · rw [List.length_append]
      rfl

/-- Objects that stand at one place in a list, and the numbers that they get. -/
def Twins.ofList (objects : List RoutingObject) : Twins where
  related object other := ∃ index, objects[index]? = some other ∧
    object = { other with revision := some (toString (index + 1)) }
  same := by
    rintro object other ⟨index, -, rfl⟩
    rfl

theorem ApiServer.Holds.distinct (holds : server.Holds objects) : (objects.map (·.key)).Nodup := by
  have keys : server.manifests.map (·.1) = objects.map (·.key) := by
    rw [← List.forall₂_eq_eq_eq, List.forall₂_map_left_iff, List.forall₂_map_right_iff]
    exact holds.reads.imp fun _ _ reads => reads.placed
  exact keys ▸ holds.places

theorem Agree.start (holds : server.Holds objects) :
    Agree (.ofList objects) server (.ofList objects) := by
  have sameLength := holds.reads.length_eq
  rw [MemoryStore.ofList_of_distinct holds.distinct]
  refine ⟨?_, ?_, ?_, ?_⟩
  · refine List.forall₂_of_length_eq_of_get (List.length_mapIdx.trans sameLength.symm) ?_
    intro index below belowEntries
    have belowObjects : index < objects.length := sameLength ▸ belowEntries
    refine ⟨objects[index], holds.reads.get belowEntries belowObjects, index, ?_, ?_⟩
    · exact List.getElem?_eq_getElem belowObjects
    · rw [List.get_eq_getElem, List.getElem_mapIdx]
  · rintro object other ⟨index, found, rfl⟩
    obtain ⟨below, -⟩ := List.getElem?_eq_some_iff.1 found
    exact ⟨index + 1, below, rfl⟩
  · rintro object other ⟨index, found, rfl⟩
    obtain ⟨below, rfl⟩ := List.getElem?_eq_some_iff.1 found
    have reads := holds.reads.get (sameLength ▸ below) below
    obtain ⟨version, carries⟩ := Option.ne_none_iff_exists'.1 reads.versioned
    exact ⟨version, carries, holds.issued _ (List.getElem_mem below) version carries⟩
  · -- The objects of a server stand at different places, so a place tells them apart.
    rintro _ other _ currentOther ⟨index, found, rfl⟩ ⟨indexNow, foundNow, rfl⟩ sameKey -
    obtain ⟨below, rfl⟩ := List.getElem?_eq_some_iff.1 found
    obtain ⟨belowNow, rfl⟩ := List.getElem?_eq_some_iff.1 foundNow
    have sameIndex : index = indexNow := by
      have belowKeys : index < (objects.map (·.key)).length := by
        rw [List.length_map]
        exact below
      have sameAt : (objects.map (·.key))[index]? = (objects.map (·.key))[indexNow]? := by
        rw [List.getElem?_map, List.getElem?_map, found, foundNow]
        exact congrArg some sameKey
      exact (List.getElem?_inj belowKeys holds.distinct).1 sameAt
    subst sameIndex
    exact ⟨rfl, rfl⟩

end RouteOverrides
