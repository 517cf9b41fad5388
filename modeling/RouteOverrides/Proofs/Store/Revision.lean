import RouteOverrides.Store.Memory
import Std.Data.String.ToNat

/-! # Revisions tell writes apart

Every write to a store in memory numbers the written object anew. So an object that has the revision
it once had was not written in between, whoever else uses the store.

* `MemoryStore.find?_put_self`, `find?_put_of_ne` — what a write does to the places of a store.
* `MemoryStore.answer_cases` — a call leaves the store as it was, or writes one object.
* `MemoryStore.GrownFrom` — what calls can make of a store; `GrownFrom.after` for any number of them.
* `MemoryStore.GrownFrom.eq_of_revision_eq` — equal revisions, equal objects.
-/

namespace RouteOverrides.MemoryStore

variable {store earlier later : MemoryStore} {object : RoutingObject} {ns name : String}

/-! ## Places -/

def isAt (ns name : String) (object : RoutingObject) : Bool := object.ns == ns && object.name == name

theorem isAt_iff : isAt ns name object = true ↔ object.key = (ns, name) := by
  simp [isAt, RoutingObject.key]

theorem find?_eq (store : MemoryStore) (ns name : String) :
    store.find? ns name = store.objects.find? (isAt ns name) := rfl

theorem key_of_find? (found : store.find? ns name = some object) : object.key = (ns, name) :=
  isAt_iff.1 (List.find?_some (p := isAt ns name) found)

theorem find?_place_self (object : RoutingObject) (objects : List RoutingObject) :
    (place object objects).find? (isAt object.ns object.name) = some object := by
  have isHere : isAt object.ns object.name object = true := isAt_iff.2 rfl
  induction objects with
  | nil => rw [place, List.find?_cons_of_pos isHere]
  | cons other rest inductionHypothesis =>
    rw [place]
    split
    · exact List.find?_cons_of_pos isHere
    · rename_i different
      rw [List.find?_cons_of_neg, inductionHypothesis]
      exact fun isThere => different (isAt_iff.1 isThere)

theorem find?_place_of_ne (elsewhere : object.key ≠ (ns, name)) (objects : List RoutingObject) :
    (place object objects).find? (isAt ns name) = objects.find? (isAt ns name) := by
  have passed : ¬ isAt ns name object = true := fun isHere => elsewhere (isAt_iff.1 isHere)
  induction objects with
  | nil => rw [place, List.find?_cons_of_neg passed]
  | cons other rest inductionHypothesis =>
    rw [place]
    split
    · rename_i same
      rw [List.find?_cons_of_neg passed, List.find?_cons_of_neg]
      exact fun isThere => elsewhere (same ▸ isAt_iff.1 isThere)
    · rw [List.find?_cons, List.find?_cons, inductionHypothesis]

theorem place_of_find?_eq_none {objects : List RoutingObject}
    (vacant : objects.find? (isAt object.ns object.name) = none) :
    place object objects = objects ++ [object] := by
  induction objects with
  | nil => rfl
  | cons other rest inductionHypothesis =>
    rw [List.find?_eq_none] at vacant
    have different : other.key ≠ object.key :=
      fun same => vacant other List.mem_cons_self (isAt_iff.2 same)
    have restVacant := List.find?_eq_none.2 fun another member =>
      vacant another (List.mem_cons_of_mem _ member)
    rw [place, if_neg different, inductionHypothesis restVacant, List.cons_append]

/-- The object as the next write stores it. -/
def stamp (store : MemoryStore) (object : RoutingObject) : RoutingObject :=
  { object with revision := some (toString (store.writes + 1)) }

theorem find?_put_self (store : MemoryStore) (object : RoutingObject) :
    (store.put object).find? object.ns object.name = some (store.stamp object) :=
  find?_place_self (store.stamp object) store.objects

theorem find?_put_of_ne (store : MemoryStore) (elsewhere : object.key ≠ (ns, name)) :
    (store.put object).find? ns name = store.find? ns name := by
  have stampedElsewhere : (store.stamp object).key ≠ (ns, name) := elsewhere
  exact find?_place_of_ne stampedElsewhere store.objects

theorem objects_put_of_find?_eq_none (vacant : store.find? object.ns object.name = none) :
    (store.put object).objects = store.objects ++ [store.stamp object] := by
  have stampedVacant : store.objects.find?
      (isAt (store.stamp object).ns (store.stamp object).name) = none := vacant
  exact place_of_find?_eq_none stampedVacant

/-! ## Calls -/

theorem find?_of_answer_get (replied : (store.answer (.get ns name)).1 = .ok object) :
    store.find? ns name = some object := by
  rw [answer] at replied
  split at replied
  · rename_i found
    rw [found, Except.ok.inj replied]
  · cases replied

theorem answer_create (vacant : store.find? object.ns object.name = none) :
    store.answer (.create object) = (.ok (), store.put object) := by
  rw [answer, vacant]

/-- An update goes through when there is an object at the place and the revision, if it is known,
is still the one that is stored. -/
theorem update_eq_put {current : RoutingObject}
    (found : store.find? object.ns object.name = some current)
    (upToDate : object.revision = none ∨ object.revision = current.revision) :
    store.update object = (.ok (), store.put object) := by
  rw [update, found]
  rcases upToDate with unknown | same
  · rw [unknown]
  · cases known : object.revision with
    | none => rfl
    | some revision =>
      rw [known] at same
      simp only [same, if_true]

theorem of_update_ok (succeeded : (store.update object).1 = .ok ()) :
    ∃ current, store.find? object.ns object.name = some current ∧
      (object.revision = none ∨ object.revision = current.revision) ∧
      (store.update object).2 = store.put object := by
  cases found : store.find? object.ns object.name with
  | none => simp [update, found] at succeeded
  | some current =>
    have upToDate : object.revision = none ∨ object.revision = current.revision := by
      cases known : object.revision with
      | none => exact .inl rfl
      | some revision =>
        by_cases same : some revision = current.revision
        · exact .inr same
        · simp [update, found, known, same] at succeeded
    exact ⟨current, rfl, upToDate, congrArg Prod.snd (update_eq_put found upToDate)⟩

/-- A call leaves the store as it was, or writes the object that it carries. -/
theorem answer_cases (store : MemoryStore) (call : StoreCall) :
    (store.answer call).2 = store ∨ ∃ object, (store.answer call).2 = store.put object := by
  cases call with
  | get ns name => exact .inl (answer_get_snd store ns name)
  | list ns => exact .inl rfl
  | create object =>
    rw [answer]
    split
    · exact .inl rfl
    · exact .inr ⟨object, rfl⟩
  | update object =>
    rw [answer, update]
    split
    · exact .inl rfl
    · split
      · exact .inr ⟨object, rfl⟩
      · split
        · exact .inr ⟨object, rfl⟩
        · exact .inl rfl

theorem answer_of_error {call : StoreCall} {failure : Failure}
    (failed : (store.answer call).1 = .error failure) : (store.answer call).2 = store := by
  cases call with
  | get ns name => exact answer_get_snd store ns name
  | list ns => rfl
  | create object =>
    rw [answer] at failed ⊢
    split at failed
    · rfl
    · cases failed
  | update object =>
    cases found : store.find? object.ns object.name with
    | none => simp [answer, update, found]
    | some current =>
      by_cases upToDate : object.revision = none ∨ object.revision = current.revision
      · have succeeded : store.answer (.update object) = (.ok (), store.put object) :=
          update_eq_put found upToDate
        rw [succeeded] at failed
        cases failed
      · obtain ⟨known, stale⟩ := not_or.1 upToDate
        obtain ⟨revision, carried⟩ := Option.ne_none_iff_exists'.1 known
        rw [carried] at stale
        simp [answer, update, found, carried, stale]

/-- The store after some calls, whatever they were answered. -/
def after (store : MemoryStore) (calls : List StoreCall) : MemoryStore :=
  calls.foldl (fun store call => (store.answer call).2) store

/-! ## Growth -/

/-- What calls can make of a store: each place holds what it held, or something written since. -/
structure GrownFrom (earlier later : MemoryStore) : Prop where
  writes_le : earlier.writes ≤ later.writes
  kept_or_newer : ∀ ns name object, later.find? ns name = some object →
    earlier.find? ns name = some object ∨
      ∃ n, earlier.writes < n ∧ n ≤ later.writes ∧ object.revision = some (toString n)

namespace GrownFrom

theorem refl (store : MemoryStore) : GrownFrom store store :=
  ⟨Nat.le_refl _, fun _ _ _ found => .inl found⟩

theorem trans {middle : MemoryStore} (first : GrownFrom earlier middle)
    (second : GrownFrom middle later) : GrownFrom earlier later := by
  refine ⟨Nat.le_trans first.writes_le second.writes_le, fun ns name object found => ?_⟩
  rcases second.kept_or_newer ns name object found with kept | ⟨n, above, below, numbered⟩
  · rcases first.kept_or_newer ns name object kept with kept | ⟨n, above, below, numbered⟩
    · exact .inl kept
    · exact .inr ⟨n, above, Nat.le_trans below second.writes_le, numbered⟩
  · exact .inr ⟨n, Nat.lt_of_le_of_lt first.writes_le above, below, numbered⟩

theorem put (store : MemoryStore) (object : RoutingObject) : GrownFrom store (store.put object) := by
  refine ⟨Nat.le_succ _, fun ns name other found => ?_⟩
  by_cases here : object.key = (ns, name)
  · obtain ⟨rfl, rfl⟩ := Prod.mk.inj here
    rw [find?_put_self, Option.some.injEq] at found
    exact .inr ⟨store.writes + 1, Nat.lt_succ_self _, Nat.le_refl _, found ▸ rfl⟩
  · rw [find?_put_of_ne store here] at found
    exact .inl found

theorem answer (store : MemoryStore) (call : StoreCall) :
    GrownFrom store (store.answer call).2 := by
  rcases answer_cases store call with same | ⟨object, written⟩
  · rw [same]
    exact refl store
  · rw [written]
    exact put store object

theorem after (store : MemoryStore) (calls : List StoreCall) :
    GrownFrom store (store.after calls) := by
  induction calls generalizing store with
  | nil => exact refl store
  | cons call rest inductionHypothesis =>
    exact (answer store call).trans (inductionHypothesis _)

theorem ofList (objects : List RoutingObject) : GrownFrom empty (ofList objects) := by
  have grown : ∀ start, GrownFrom start (objects.foldl MemoryStore.put start) := by
    induction objects with
    | nil => exact refl
    | cons object rest inductionHypothesis =>
      exact fun start => (put start object).trans (inductionHypothesis _)
  exact grown empty

/-- In a store that was filled by writes, an object with the revision it once had is the object it
was. -/
theorem eq_of_revision_eq (filled : GrownFrom empty earlier) (grown : GrownFrom earlier later)
    {before now : RoutingObject} (found : earlier.find? ns name = some before)
    (foundNow : later.find? ns name = some now) (same : now.revision = before.revision) :
    now = before := by
  rcases grown.kept_or_newer ns name now foundNow with kept | ⟨n, above, -, numbered⟩
  · rw [found] at kept
    exact (Option.some.inj kept).symm
  · rcases filled.kept_or_newer ns name before found with none | ⟨m, -, below, numberedBefore⟩
    · cases none
    · -- The revision read earlier is a number in use then, and later writes take higher ones.
      rw [numbered, numberedBefore, Option.some.injEq] at same
      have sameNumber : n = m := Nat.repr_injective same
      omega

end GrownFrom

end RouteOverrides.MemoryStore
