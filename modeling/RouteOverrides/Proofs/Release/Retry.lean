import Mathlib.Logic.Relation
import RouteOverrides.Proofs.Release.Attempt
import RouteOverrides.Proofs.Store.Revision

/-! # Releases that are tried again

A release that fails halfway leaves its writes in place and answers nothing. The next one finds the
owner gone from the overrides that were written, and answers the names of those only that it empties
itself.

* `MemoryStore.faulty` — nobody else writes, but store calls may fail.
* `Release.Emptied` — an override that listed the owner lists nobody any more.
* `Release.Released` — what releases make of a store; `Released.emptied_iff` for two in a row.
* `Release.mem_names_iff` — what the last of several releases answers.
-/

namespace RouteOverrides

open Program

/-- Nobody else writes to the store. It answers a call exactly, or fails with any failure; `late` says
whether a call that fails may have been carried out. Whether the program is told to stop, and what the
database answers, is open. -/
def MemoryStore.faulty (late : Bool) : Rules MemoryStore
  | .store call, store, reply, later =>
    reply = (store.answer call).1 ∧ later = (store.answer call).2 ∨
    ∃ failure, reply = .error failure ∧
      (later = store ∨ late = true ∧ later = (store.answer call).2)
  | .log _, store, _, later => later = store
  | .record _ _, store, _, later => later = store
  | .report _, store, _, later => later = store
  | .latest _, store, _, later => later = store
  | .interrupted, store, _, later => later = store

namespace Release

open MemoryStore

variable {release : Release} {host name : String} {left : Nat} {late : Bool}
  {start middle final store later : MemoryStore} {object : RoutingObject}

def Listed (release : Release) (store : MemoryStore) (name : String) : Prop :=
  ∃ object, store.find? release.ns name = some object ∧
    release.owner ∈ (object.owners release.key).toList

def Vacant (release : Release) (store : MemoryStore) (name : String) : Prop :=
  ∃ object, store.find? release.ns name = some object ∧ (object.owners release.key).toList = []

/-- The override of a name has gone from listing the owner to listing nobody. -/
def Emptied (release : Release) (earlier later : MemoryStore) (name : String) : Prop :=
  release.Listed earlier name ∧ release.Vacant later name

/-- What releases make of a store: an override stays as it is, or it listed the owner and does so no
more. -/
def Released (release : Release) (earlier later : MemoryStore) : Prop :=
  ∀ name, later.find? release.ns name = earlier.find? release.ns name ∨
    release.Listed earlier name ∧ ¬ release.Listed later name

/-! ## Releases one after the other -/

theorem not_listed_of_vacant (vacant : release.Vacant store name) : ¬ release.Listed store name := by
  rintro ⟨object, found, listed⟩
  obtain ⟨same, foundToo, none⟩ := vacant
  rw [found, Option.some.injEq] at foundToo
  rw [foundToo, none] at listed
  exact List.not_mem_nil listed

theorem not_emptied_self : ¬ release.Emptied store store name :=
  fun emptied => not_listed_of_vacant emptied.2 emptied.1

namespace Released

theorem refl (release : Release) (store : MemoryStore) : release.Released store store :=
  fun _ => .inl rfl

theorem trans (first : release.Released start middle) (second : release.Released middle final) :
    release.Released start final := by
  intro name
  rcases second name with kept | ⟨listed, gone⟩
  · rcases first name with keptBefore | ⟨listed, gone⟩
    · exact .inl (kept.trans keptBefore)
    · refine .inr ⟨listed, fun ⟨object, found, member⟩ => gone ⟨object, ?_, member⟩⟩
      rw [← kept, found]
  · rcases first name with keptBefore | ⟨-, goneBefore⟩
    · obtain ⟨object, found, member⟩ := listed
      exact .inr ⟨⟨object, keptBefore ▸ found, member⟩, gone⟩
    · exact absurd listed goneBefore

/-- What two releases empty, one of them empties. -/
theorem emptied_iff (first : release.Released start middle)
    (second : release.Released middle final) :
    release.Emptied start final name ↔
      release.Emptied start middle name ∨ release.Emptied middle final name := by
  simp only [Emptied, Listed, Vacant]
  -- The owner is taken off once, so one of the two has left this override as it was.
  rcases first name with keptFirst | ⟨listed, gone⟩
  · rw [keptFirst]
    constructor
    · exact .inr
    · rintro (⟨listed, vacant⟩ | emptied)
      · exact absurd listed (not_listed_of_vacant vacant)
      · exact emptied
  · rcases second name with keptSecond | ⟨listedAgain, -⟩
    · rw [keptSecond]
      constructor
      · exact .inl
      · rintro (emptied | ⟨listedAgain, -⟩)
        · exact emptied
        · exact absurd listedAgain gone
    · exact absurd listedAgain gone

end Released

/-! ## Store calls -/

theorem of_faulty_get {reply : Except Failure RoutingObject}
    (allowed : faulty late (.store (.get release.ns name)) store reply later) :
    later = store ∧ ∀ object, reply = .ok object → store.find? release.ns name = some object := by
  rcases allowed with ⟨rfl, rfl⟩ | ⟨failure, rfl, same⟩
  · exact ⟨answer_get_snd store _ _, fun object read => find?_of_answer_get read⟩
  · refine ⟨?_, fun object read => by cases read⟩
    rw [answer_get_snd] at same
    exact same.elim id And.right

theorem of_faulty_update (found : store.find? release.ns name = some object)
    {reply : Except Failure Unit}
    (allowed : faulty late (.store (.update (release.withoutOwner object))) store reply later) :
    reply = .ok () ∧ later = store.put (release.withoutOwner object) ∨
    ∃ failure, reply = .error failure ∧
      (later = store ∨ late = true ∧ later = store.put (release.withoutOwner object)) := by
  obtain ⟨sameNs, rfl⟩ : object.ns = release.ns ∧ object.name = name :=
    Prod.mk.inj (key_of_find? found)
  rw [← sameNs] at found
  have answered : store.answer (.update (release.withoutOwner object)) =
      (.ok (), store.put (release.withoutOwner object)) := update_eq_put found (.inr rfl)
  -- Nobody has written since the object was read, so there is no true conflict.
  rw [faulty, answered] at allowed
  exact allowed

theorem find?_put_withoutOwner (found : store.find? release.ns name = some object) :
    (store.put (release.withoutOwner object)).find? release.ns name =
      some (store.stamp (release.withoutOwner object)) := by
  obtain ⟨sameNs, rfl⟩ : object.ns = release.ns ∧ object.name = name :=
    Prod.mk.inj (key_of_find? found)
  rw [← sameNs]
  exact find?_put_self store (release.withoutOwner object)

theorem find?_put_withoutOwner_of_ne (found : store.find? release.ns name = some object)
    {other : String} (different : other ≠ name) :
    (store.put (release.withoutOwner object)).find? release.ns other =
      store.find? release.ns other := by
  have here : object.key = (release.ns, name) := key_of_find? found
  exact find?_put_of_ne store fun same => different (Prod.mk.inj (same.symm.trans here)).2

theorem toList_owners_stamp_withoutOwner :
    ((store.stamp (release.withoutOwner object)).owners release.key).toList =
      (object.owners release.key).toList.erase release.owner :=
  toList_owners_withoutOwner release object

theorem released_put (found : store.find? release.ns name = some object)
    (listed : release.owner ∈ (object.owners release.key).toList) :
    release.Released store (store.put (release.withoutOwner object)) := by
  intro other
  by_cases same : other = name
  · subst same
    refine .inr ⟨⟨object, found, listed⟩, fun ⟨written, foundWritten, still⟩ => ?_⟩
    rw [find?_put_withoutOwner found, Option.some.injEq] at foundWritten
    rw [← foundWritten, toList_owners_stamp_withoutOwner] at still
    -- An owner stands in the list once, so taking it out leaves none of it.
    have distinct : (object.owners release.key).toList.Nodup :=
      List.Nodup.of_map _ (object.owners release.key).tokens_nodup
    exact distinct.not_mem_erase still
  · exact .inl (find?_put_withoutOwner_of_ne found same)

theorem emptied_put_iff (found : store.find? release.ns name = some object)
    (listed : release.owner ∈ (object.owners release.key).toList) {other : String} :
    release.Emptied store (store.put (release.withoutOwner object)) other ↔
      ((release.withoutOwner object).owners release.key).toList.isEmpty = true ∧ other = name := by
  rw [List.isEmpty_iff, toList_owners_withoutOwner]
  by_cases same : other = name
  · subst same
    simp only [Emptied, Listed, Vacant, find?_put_withoutOwner found, found, Option.some.injEq,
      exists_eq_left', toList_owners_stamp_withoutOwner, listed, true_and, and_true]
  · have untouched := find?_put_withoutOwner_of_ne found same
    have notEmptied : ¬ release.Emptied store (store.put (release.withoutOwner object)) other := by
      rintro ⟨listedThere, none⟩
      rw [Vacant, untouched] at none
      exact not_listed_of_vacant none listedThere
    simp only [notEmptied, same, and_false]

/-! ## Along a release -/

/-- A result together with what it says about the names of the overrides that were emptied on the way.
This is exact unless a failed call may have been carried out. -/
def Reports {α : Type} (release : Release) (late : Bool) (named : α → String → Prop)
    (start : MemoryStore) : Except Failure α → MemoryStore → Prop
  | .ok value, final => release.Released start final ∧
      (late = false → ∀ name, release.Emptied start final name ↔ named value name)
  | .error _, final => release.Released start final

namespace Reports

variable {α : Type} {named : α → String → Prop} {result : Except Failure α}

theorem released (reports : release.Reports late named start result final) :
    release.Released start final := by
  cases result with
  | ok value => exact reports.1
  | error failure => exact reports

theorem of_later (before : release.Released start middle)
    (quiet : late = false → middle = start)
    (reports : release.Reports late named middle result final) :
    release.Reports late named start result final := by
  cases result with
  | ok value => exact ⟨before.trans reports.1, fun exactly => quiet exactly ▸ reports.2 exactly⟩
  | error failure => exact before.trans reports

end Reports

def onlyIf (name : String) (emptied : Bool) (other : String) : Prop := emptied = true ∧ other = name

theorem reports_false (start : MemoryStore) :
    release.Reports late (onlyIf name) start (.ok false) start :=
  ⟨.refl release start, fun _ other =>
    ⟨fun emptied => absurd emptied not_emptied_self, fun ⟨impossible, _⟩ => by cases impossible⟩⟩

theorem keeps_writeBack_faulty (found : start.find? release.ns name = some object)
    (listed : release.owner ∈ (object.owners release.key).toList)
    (again : ∀ later, Keeps (faulty late) (fun _ _ => True)
      (release.Reports late (onlyIf name) later) (release.one host name left).run later) :
    Keeps (faulty late) (fun _ _ => True) (release.Reports late (onlyIf name) start)
      (release.writeBack host name left object).run start := by
  have written := released_put found listed
  refine keeps_writeBack.2 ⟨trivial, fun after same => ?_, fun ready same => ⟨trivial, ?_⟩⟩
  · cases same
    exact .refl release start
  · cases same
    intro reply later answered
    rcases of_faulty_update found answered with ⟨rfl, rfl⟩ | ⟨failure, rfl, outcome⟩
    · refine ⟨trivial, fun logged final same => ?_⟩
      cases same
      cases logged with
      | ok _ => exact ⟨written, fun _ other => emptied_put_iff found listed⟩
      | error failure => exact written
    · -- A failed write may have been carried out; then the owner is gone and nothing is answered.
      have released : release.Released start later := by
        rcases outcome with rfl | ⟨-, rfl⟩
        · exact .refl release _
        · exact written
      have quiet : late = false → later = start := by
        rcases outcome with same | ⟨mayBeLate, -⟩
        · exact fun _ => same
        · exact fun exactly => by rw [mayBeLate] at exactly; cases exactly
      cases failure with
      | conflict detail =>
        dsimp only [AfterWrite]
        split
        · exact released
        · refine ⟨trivial, fun logged final same => ?_⟩
          cases same
          cases logged with
          | ok _ => exact (again later).mono fun _ _ reports => reports.of_later released quiet
          | error failure => exact released
      | _ => exact released

theorem keeps_one_faulty : Keeps (faulty late) (fun _ _ => True)
    (release.Reports late (onlyIf name) start) (release.one host name left).run start := by
  induction left generalizing start with
  | zero => exact reports_false start
  | succ left inductionHypothesis =>
    refine keeps_one_succ.2 ⟨trivial, fun after same => ?_, fun ready same => ⟨trivial, ?_⟩⟩
    · cases same
      exact .refl release start
    · cases same
      intro reply later answered
      obtain ⟨rfl, found⟩ := of_faulty_get answered
      cases reply with
      | ok object =>
        dsimp only [AfterRead]
        split
        · rename_i listed
          exact keeps_writeBack_faulty (found object rfl) listed fun later => inductionHypothesis
        · exact reports_false _
      | error failure =>
        cases failure with
        | notFound detail => exact reports_false _
        | _ => exact .refl release _

theorem keeps_forHosts_faulty (hosts : List String) : Keeps (faulty late) (fun _ _ => True)
    (release.Reports late (fun names name => name ∈ names) start) (release.forHosts hosts).run
    start := by
  induction hosts generalizing start with
  | nil =>
    exact ⟨.refl release start, fun _ name =>
      ⟨fun emptied => absurd emptied not_emptied_self, fun member => nomatch member⟩⟩
  | cons host rest inductionHypothesis =>
    rw [keeps_forHosts_cons]
    refine keeps_one_faulty.mono fun result middle first => ?_
    cases result with
    | error failure => exact first
    | ok emptied =>
      refine keeps_run_bind.2 (inductionHypothesis.mono fun result final second => ?_)
      cases result with
      | error failure => exact first.1.trans second
      | ok names =>
        -- If the host comes again among the rest, its override is not emptied a second time.
        refine ⟨first.1.trans second.1, fun exactly name => ?_⟩
        rw [first.1.emptied_iff second.1, first.2 exactly, second.2 exactly, onlyIf]
        cases emptied <;> simp

/-! ## Tries -/

/-- A release that ends with a failure, wherever that happens, and the store that it leaves. -/
def Aborted (release : Release) (start final : MemoryStore) : Prop :=
  ∃ failure, Reaches (faulty true) release.perform.run start (.done (.error failure)) final

theorem released_of_aborted (aborted : Relation.ReflTransGen release.Aborted start middle) :
    release.Released start middle := by
  induction aborted with
  | refl => exact .refl release start
  | tail _ next inductionHypothesis =>
    obtain ⟨failure, reached⟩ := next
    exact inductionHypothesis.trans
      ((keeps_forHosts_faulty release.hosts).post_of_reaches reached)

/-- Let a release be aborted any number of times and return at last, while nobody else writes. The
names that it answers then are those of the overrides that all its tries together emptied, without
those that were empty already when the last try began. -/
theorem mem_names_iff {names : List String}
    (aborted : Relation.ReflTransGen release.Aborted start middle)
    (returned : Reaches (faulty false) release.perform.run middle (.done (.ok names)) final) :
    name ∈ names ↔ release.Emptied start final name ∧ ¬ release.Emptied start middle name := by
  have before := released_of_aborted aborted
  obtain ⟨last, reported⟩ := (keeps_forHosts_faulty release.hosts).post_of_reaches returned
  rw [before.emptied_iff last, reported rfl name]
  constructor
  · intro member
    refine ⟨.inr member, fun emptied => ?_⟩
    exact not_listed_of_vacant emptied.2 ((reported rfl name).2 member).1
  · rintro ⟨emptied | member, notBefore⟩
    · exact absurd emptied notBefore
    · exact member

/-! ## A name that is lost

Two overrides list the owner only. The first try empties one of them and fails to read the other; the
second try empties the other one. -/

def ofTwoHosts : Release := ⟨⟨"team", "web"⟩, "blue", "prod", ["cart", "search"], "owners"⟩

def overrideOf (host owners revision : String) : RoutingObject where
  name := "blue-" ++ host
  ns := "prod"
  labels := []
  annotations := [("owners", owners)]
  host := host
  subsets := []
  revision := some revision

def untouched : MemoryStore :=
  ⟨[overrideOf "cart" "team/web" "1", overrideOf "search" "team/web" "2"], 2⟩

def halfway : MemoryStore := ⟨[overrideOf "cart" "" "3", overrideOf "search" "team/web" "2"], 3⟩

def finished : MemoryStore := ⟨[overrideOf "cart" "" "3", overrideOf "search" "" "4"], 4⟩

theorem aborted_halfway : ofTwoHosts.Aborted untouched halfway :=
  ⟨.atStore "search" "get routing object blue-search" (.foreign .runtime "down"),
    .answered false rfl <|
    .answered (.ok (overrideOf "cart" "team/web" "1")) (.inl ⟨rfl, rfl⟩) <|
    .answered false rfl <|
    .answered (.ok ()) (.inl ⟨rfl, rfl⟩) <|
    .answered (.ok ()) rfl <|
    .answered false rfl <|
    .answered (.error (.foreign .runtime "down")) (.inr ⟨_, rfl, .inl rfl⟩) <| .here⟩

theorem returned_finished : Reaches (faulty false) ofTwoHosts.perform.run halfway
    (.done (.ok ["blue-search"])) finished :=
  .answered false rfl <|
  .answered (.ok (overrideOf "cart" "" "3")) (.inl ⟨rfl, rfl⟩) <|
  .answered false rfl <|
  .answered (.ok (overrideOf "search" "team/web" "2")) (.inl ⟨rfl, rfl⟩) <|
  .answered false rfl <|
  .answered (.ok ()) (.inl ⟨rfl, rfl⟩) <|
  .answered (.ok ()) rfl <| .here

theorem emptied_blue_search :
    Relation.ReflTransGen ofTwoHosts.Aborted untouched halfway ∧
    Reaches (faulty false) ofTwoHosts.perform.run halfway (.done (.ok ["blue-search"])) finished ∧
    ofTwoHosts.Emptied untouched finished "blue-search" ∧
    ¬ ofTwoHosts.Emptied untouched halfway "blue-search" :=
  have aborted := Relation.ReflTransGen.single aborted_halfway
  ⟨aborted, returned_finished,
    (mem_names_iff aborted returned_finished).1 (List.mem_singleton.2 rfl)⟩

/-- What an aborted try has emptied is lost to the next one: its name is never answered. -/
theorem not_named_of_emptied : ¬ ∀ (release : Release) (start middle final : MemoryStore)
    (names : List String) (name : String), Relation.ReflTransGen release.Aborted start middle →
      Reaches (faulty false) release.perform.run middle (.done (.ok names)) final →
      release.Emptied start final name → name ∈ names := by
  intro allNamed
  have emptied : ofTwoHosts.Emptied untouched finished "blue-cart" :=
    ⟨⟨overrideOf "cart" "team/web" "1", rfl, by decide +kernel⟩,
      ⟨overrideOf "cart" "" "3", rfl, by decide +kernel⟩⟩
  have named := allNamed ofTwoHosts untouched halfway finished ["blue-search"] "blue-cart"
    (.single aborted_halfway) returned_finished emptied
  exact absurd named (by decide)

end Release

end RouteOverrides
