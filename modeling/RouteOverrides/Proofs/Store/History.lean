import Mathlib.Data.List.Induction
import RouteOverrides.Proofs.Repetition
import RouteOverrides.Proofs.Store.Revision

/-! # The history of a store

A store in memory is what its writes have made of it. They form a log: the objects that the store was
filled with, and behind them those that calls have written since. Of every place the store knows the
last write in the log, with its number, and it keeps the places in the order of their first writes.

* `MemoryStore.writtenBy`, `MemoryStore.after_ofList` — what calls add to the log.
* `MemoryStore.LastWrite` — the last write to a place.
* `MemoryStore.keys_ofList`, `MemoryStore.find?_ofList_iff` — what a store holds, told from its log.
* `MemoryStore.Recalls`, `MemoryStore.recalls_after` — what calls are answered at any time, and when an
  update of an object that was read earlier goes through.
-/

namespace RouteOverrides

/-- The object that a call is to write, if it is to write one. -/
def StoreCall.carried : StoreCall → List RoutingObject
  | .get _ _ => []
  | .list _ => []
  | .create object => [object]
  | .update object => [object]

namespace MemoryStore

variable {store : MemoryStore} {log more : List RoutingObject} {object last : RoutingObject}
  {place : String × String} {ns name : String} {number : Nat}

/-! ## The log -/

/-- What a call writes; nothing if the store refuses. -/
def written (store : MemoryStore) (call : StoreCall) : List RoutingObject :=
  match (store.answer call).1 with
  | .ok _ => call.carried
  | .error _ => []

/-- What some calls write, one after the other. -/
def writtenBy (store : MemoryStore) : List StoreCall → List RoutingObject
  | [] => []
  | call :: rest => store.written call ++ (store.answer call).2.writtenBy rest

theorem written_of_error {call : StoreCall} {failure : Failure}
    (failed : (store.answer call).1 = .error failure) : store.written call = [] := by
  rw [written, failed]

theorem written_of_ok {call : StoreCall} {reply : call.Reply}
    (succeeded : (store.answer call).1 = .ok reply) : store.written call = call.carried := by
  rw [written, succeeded]

theorem answer_snd (store : MemoryStore) (call : StoreCall) :
    (store.answer call).2 = (store.written call).foldl put store := by
  cases replied : (store.answer call).1 with
  | error failure => rw [written_of_error replied, answer_of_error replied, List.foldl_nil]
  | ok reply =>
    rw [written_of_ok replied]
    cases call with
    | get ns name => exact answer_get_snd store ns name
    | list ns => rfl
    | create object =>
      cases found : store.find? object.ns object.name with
      | none => exact congrArg Prod.snd (answer_create found)
      | some other => simp [answer, found] at replied
    | update object =>
      obtain ⟨_, -, -, stored⟩ := of_update_ok replied
      exact stored

theorem after_eq (store : MemoryStore) (calls : List StoreCall) :
    store.after calls = (store.writtenBy calls).foldl put store := by
  induction calls generalizing store with
  | nil => rfl
  | cons call rest inductionHypothesis =>
    have next : store.after (call :: rest) = (store.answer call).2.after rest := rfl
    rw [next, inductionHypothesis, writtenBy, List.foldl_append, ← answer_snd]

/-- The store after calls is one that was filled with the whole log. -/
theorem after_ofList (objects : List RoutingObject) (calls : List StoreCall) :
    (ofList objects).after calls = ofList (objects ++ (ofList objects).writtenBy calls) := by
  rw [after_eq, ofList, ofList, List.foldl_append]

theorem ofList_concat (log : List RoutingObject) (object : RoutingObject) :
    ofList (log ++ [object]) = (ofList log).put object := List.foldl_concat ..

theorem writes_ofList (log : List RoutingObject) : (ofList log).writes = log.length := by
  induction log using List.reverseRecOn with
  | nil => rfl
  | append_singleton front object inductionHypothesis =>
    rw [ofList_concat, put, inductionHypothesis, List.length_append, List.length_singleton]

/-! ## Places in order -/

theorem keys_place (object : RoutingObject) (objects : List RoutingObject) :
    (MemoryStore.place object objects).map (·.key) =
      if object.key ∈ objects.map (·.key) then objects.map (·.key)
      else objects.map (·.key) ++ [object.key] := by
  induction objects with
  | nil => rfl
  | cons other rest inductionHypothesis =>
    rw [MemoryStore.place]
    by_cases same : other.key = object.key
    · rw [if_pos same, if_pos (List.mem_map.2 ⟨other, List.mem_cons_self, same⟩), List.map_cons,
        List.map_cons, same]
    · rw [if_neg same, List.map_cons, inductionHypothesis, List.map_cons]
      have inRest : object.key ∈ other.key :: rest.map (·.key) ↔ object.key ∈ rest.map (·.key) := by
        rw [List.mem_cons, or_iff_right (Ne.symm same)]
      rw [if_congr inRest rfl rfl]
      split <;> rfl

theorem keys_put (store : MemoryStore) (object : RoutingObject) :
    (store.put object).objects.map (·.key) =
      if object.key ∈ store.objects.map (·.key) then store.objects.map (·.key)
      else store.objects.map (·.key) ++ [object.key] :=
  keys_place (store.stamp object) store.objects

theorem keys_ofList (log : List RoutingObject) :
    (ofList log).objects.map (·.key) = (log.map (·.key)).eraseDups := by
  -- On the log from its end: the last write puts a new place last, and moves none.
  induction log using List.reverseRecOn with
  | nil => rfl
  | append_singleton front object inductionHypothesis =>
    rw [ofList_concat, keys_put, inductionHypothesis, List.map_append, List.map_singleton,
      eraseDups_concat]
    simp only [List.mem_eraseDups]

theorem nodup_keys_ofList (log : List RoutingObject) :
    ((ofList log).objects.map (·.key)).Nodup := by
  induction log using List.reverseRecOn with
  | nil => exact List.nodup_nil
  | append_singleton front object inductionHypothesis =>
    rw [ofList_concat, keys_put]
    split
    · exact inductionHypothesis
    · rename_i new
      refine inductionHypothesis.append (List.nodup_singleton _) ?_
      exact List.disjoint_singleton.2 new

theorem find?_of_mem (distinct : (store.objects.map (·.key)).Nodup) (member : object ∈ store.objects) :
    store.find? object.ns object.name = some object := by
  cases found : store.find? object.ns object.name with
  | none => exact absurd (isAt_iff.2 rfl) (List.find?_eq_none.1 found object member)
  | some other =>
    have stored : other ∈ store.objects := List.mem_of_find?_eq_some found
    rw [List.inj_on_of_nodup_map distinct stored member (key_of_find? found)]

theorem mem_keys_iff (store : MemoryStore) (object : RoutingObject) :
    object.key ∈ store.objects.map (·.key) ↔
      ∃ other, store.find? object.ns object.name = some other := by
  rw [← Option.isSome_iff_exists, find?_eq, List.find?_isSome, List.mem_map]
  exact exists_congr fun other => and_congr_right fun _ => isAt_iff.symm

/-! ## Last writes -/

/-- The write of this number, counted from one, is the last one in a log to a place. -/
def LastWrite (log : List RoutingObject) (place : String × String) (number : Nat)
    (object : RoutingObject) : Prop :=
  ∃ before since, log = before ++ object :: since ∧ number = before.length + 1 ∧
    object.key = place ∧ ∀ other ∈ since, other.key ≠ place

namespace LastWrite

theorem number_le (isLast : LastWrite log place number object) : number ≤ log.length := by
  obtain ⟨before, since, rfl, rfl, -, -⟩ := isLast
  rw [List.length_append, List.length_cons]
  omega

theorem eq_of_number_eq {other : RoutingObject} {elsewhere : String × String}
    (isLast : LastWrite log place number object) (isLastToo : LastWrite log elsewhere number other) :
    object = other := by
  obtain ⟨before, since, rfl, rfl, -, -⟩ := isLast
  obtain ⟨beforeToo, sinceToo, same, sameNumber, -, -⟩ := isLastToo
  have tails := (List.append_inj same (Nat.succ.inj sameNumber)).2
  exact (List.cons.inj tails).1

/-- Writes to other places leave a write the last one to its own. -/
theorem append (isLast : LastWrite log place number object)
    (elsewhere : ∀ other ∈ more, other.key ≠ place) :
    LastWrite (log ++ more) place number object := by
  obtain ⟨before, since, rfl, numbered, here, untouched⟩ := isLast
  refine ⟨before, since ++ more, by rw [List.append_assoc, List.cons_append], numbered, here, ?_⟩
  intro other member
  exact (List.mem_append.1 member).elim (untouched other) (elsewhere other)

/-- If the last write to a place is an old one, all later ones are to other places. -/
theorem elsewhere_of_le (isLast : LastWrite (log ++ more) place number object)
    (old : number ≤ log.length) : ∀ other ∈ more, other.key ≠ place := by
  obtain ⟨before, since, split, rfl, -, untouched⟩ := isLast
  obtain ⟨gap, rfl, -⟩ | ⟨rest, rfl, tails⟩ := List.append_eq_append_iff.1 split
  · rw [List.length_append] at old
    omega
  · cases rest with
    | nil =>
      rw [List.append_nil] at old
      omega
    | cons _ rest =>
      obtain ⟨-, rfl⟩ := List.cons.inj tails
      exact fun other member => untouched other (List.mem_append_right rest member)

theorem concat_iff : LastWrite (log ++ [last]) place number object ↔
    last.key = place ∧ number = log.length + 1 ∧ object = last ∨
    last.key ≠ place ∧ LastWrite log place number object := by
  constructor
  · rintro ⟨before, since, split, rfl, here, untouched⟩
    obtain rfl | ⟨since, final, rfl⟩ := since.eq_nil_or_concat
    · -- Nothing was written since, so this is the last write of all.
      obtain ⟨rfl, same⟩ := List.append_inj' split rfl
      cases same
      exact .inl ⟨here, rfl, rfl⟩
    · rw [List.concat_eq_append, ← List.cons_append, ← List.append_assoc] at split
      obtain ⟨rfl, same⟩ := List.append_inj' split rfl
      cases same
      rw [List.concat_eq_append] at untouched
      refine .inr ⟨untouched last (List.mem_append_right _ (List.mem_singleton.2 rfl)), ?_⟩
      exact ⟨before, since, rfl, rfl, here, fun other member =>
        untouched other (List.mem_append_left _ member)⟩
  · rintro (⟨rfl, rfl, rfl⟩ | ⟨elsewhere, isLast⟩)
    · exact ⟨log, [], rfl, rfl, rfl, nofun⟩
    · refine isLast.append fun other member => ?_
      rw [List.mem_singleton.1 member]
      exact elsewhere

end LastWrite

/-- At a place stands its last write, with the number as its revision. -/
theorem find?_ofList_iff : (ofList log).find? ns name = some object ↔
    ∃ number written, LastWrite log (ns, name) number written ∧
      object = { written with revision := some (toString number) } := by
  -- On the log from its end: the last write of all is to this place, or leaves it as it is.
  induction log using List.reverseRecOn with
  | nil =>
    constructor
    · rintro ⟨⟩
    · rintro ⟨_, _, ⟨before, since, split, -⟩, -⟩
      exact absurd split (by simp)
  | append_singleton front final inductionHypothesis =>
    rw [ofList_concat]
    by_cases here : final.key = (ns, name)
    · obtain ⟨rfl, rfl⟩ := Prod.mk.inj here
      rw [find?_put_self, Option.some.injEq, stamp, writes_ofList]
      constructor
      · rintro rfl
        exact ⟨_, final, LastWrite.concat_iff.2 (.inl ⟨rfl, rfl, rfl⟩), rfl⟩
      · rintro ⟨_, written, isLast, rfl⟩
        obtain ⟨-, rfl, rfl⟩ | ⟨elsewhere, -⟩ := LastWrite.concat_iff.1 isLast
        · rfl
        · exact absurd rfl elsewhere
    · rw [find?_put_of_ne _ here, inductionHypothesis]
      simp only [LastWrite.concat_iff, here, false_and, ne_eq, not_false_eq_true, true_and, false_or]

theorem nodup_revisions_ofList (log : List RoutingObject) :
    ((ofList log).objects.map (·.revision)).Nodup := by
  have distinct := nodup_keys_ofList log
  refine List.Nodup.map_on (fun object member other memberToo same => ?_) distinct.of_map
  obtain ⟨number, written, isLast, rfl⟩ := find?_ofList_iff.1 (find?_of_mem distinct member)
  obtain ⟨numberToo, writtenToo, isLastToo, rfl⟩ :=
    find?_ofList_iff.1 (find?_of_mem distinct memberToo)
  obtain rfl : number = numberToo := Nat.repr_injective (Option.some.inj same)
  rw [isLast.eq_of_number_eq isLastToo]

/-! ## Calls at any time -/

/-- An object that some call reads. -/
inductive Reads (store : MemoryStore) : RoutingObject → Prop where
  | got {ns name : String} {object : RoutingObject}
      (replied : (store.answer (.get ns name)).1 = .ok object) : Reads store object
  | listed {ns : String} {listing : List RoutingObject} {object : RoutingObject}
      (replied : (store.answer (.list ns)).1 = .ok listing) (member : object ∈ listing) :
      Reads store object

/-- What calls are answered by a store with this log of writes. -/
structure Recalls (store : MemoryStore) (log : List RoutingObject) : Prop where
  keys_nodup : (store.objects.map (·.key)).Nodup
  revisions_nodup : (store.objects.map (·.revision)).Nodup
  /-- Revisions are numbers of writes. -/
  numbered : ∀ object ∈ store.objects, ∃ number, 1 ≤ number ∧ number ≤ log.length ∧
    object.revision = some (toString number)
  /-- A listing has the places of the namespace in the order of their first writes, and what stands
  there. -/
  listed : ∀ ns, ∃ listing, (store.answer (.list ns)).1 = .ok listing ∧
    listing.map (·.key) = (log.map (·.key)).eraseDups.filter (·.1 == ns) ∧
    ∀ object ∈ listing, (store.answer (.get object.ns object.name)).1 = .ok object
  /-- Reading a place gives the object that was written there last; only its revision is new. -/
  got : ∀ ns name object, (store.answer (.get ns name)).1 = .ok object ↔
    ∃ number written, LastWrite log (ns, name) number written ∧
      object = { written with revision := some (toString number) }
  placed : ∀ ns name object, (store.answer (.get ns name)).1 = .ok object →
    object.ns = ns ∧ object.name = name
  create_fails_iff : ∀ object, (∃ failure, (store.answer (.create object)).1 = .error failure) ↔
    object.key ∈ store.objects.map (·.key)
  kept_of_error : ∀ call failure, (store.answer call).1 = .error failure →
    (store.answer call).2 = store

theorem answer_get_eq_ok_iff :
    (store.answer (.get ns name)).1 = .ok object ↔ store.find? ns name = some object := by
  refine ⟨find?_of_answer_get, fun found => ?_⟩
  rw [answer, found]

theorem Reads.find? (reads : Reads (ofList log) object) :
    (ofList log).find? object.ns object.name = some object := by
  cases reads with
  | got replied =>
    have found := find?_of_answer_get replied
    obtain ⟨rfl, rfl⟩ := Prod.mk.inj (key_of_find? found)
    exact found
  | listed replied member =>
    cases replied
    exact find?_of_mem (nodup_keys_ofList log) (List.mem_of_mem_filter member)

theorem recalls_ofList (log : List RoutingObject) : Recalls (ofList log) log where
  keys_nodup := nodup_keys_ofList log
  revisions_nodup := nodup_revisions_ofList log
  numbered object member := by
    have found := find?_of_mem (nodup_keys_ofList log) member
    obtain ⟨number, written, isLast, rfl⟩ := find?_ofList_iff.1 found
    obtain ⟨before, -, -, rfl, -, -⟩ := id isLast
    exact ⟨_, Nat.succ_le_succ (Nat.zero_le _), isLast.number_le, rfl⟩
  listed ns := by
    refine ⟨_, rfl, ?_, fun object member => ?_⟩
    · rw [← keys_ofList, List.filter_map]
      rfl
    · have replied : ((ofList log).answer (.list ns)).1 = .ok ((ofList log).inNamespace ns) := rfl
      have reads : Reads (ofList log) object := .listed replied member
      exact answer_get_eq_ok_iff.2 reads.find?
  got ns name object := answer_get_eq_ok_iff.trans find?_ofList_iff
  placed ns name object replied := Prod.mk.inj (key_of_find? (find?_of_answer_get replied))
  create_fails_iff object := by
    rw [mem_keys_iff, answer]
    cases (ofList log).find? object.ns object.name <;> simp
  kept_of_error call failure := answer_of_error

theorem update_eq_ok_iff : (store.update object).1 = .ok () ↔
    ∃ current, store.find? object.ns object.name = some current ∧
      (object.revision = none ∨ object.revision = current.revision) := by
  constructor
  · intro succeeded
    obtain ⟨current, found, upToDate, -⟩ := of_update_ok succeeded
    exact ⟨current, found, upToDate⟩
  · rintro ⟨current, found, upToDate⟩
    rw [update_eq_put found upToDate]

/-- An update with the revision that was read goes through as long as nobody writes to the place. -/
theorem update_ofList_eq_ok_iff {read : RoutingObject} (reads : Reads (ofList log) read)
    (samePlace : object.key = read.key) (sameRevision : object.revision = read.revision) :
    ((ofList (log ++ more)).update object).1 = .ok () ↔ ∀ other ∈ more, other.key ≠ read.key := by
  obtain ⟨sameNs, sameName⟩ := Prod.mk.inj samePlace
  obtain ⟨number, written, isLast, known⟩ := find?_ofList_iff.1 reads.find?
  have carried : object.revision = some (toString number) := by rw [sameRevision, known]
  rw [update_eq_ok_iff, sameNs, sameName]
  constructor
  · rintro ⟨current, found, upToDate⟩
    obtain ⟨numberNow, writtenNow, isLastNow, rfl⟩ := find?_ofList_iff.1 found
    have same : some (toString number) = some (toString numberNow) :=
      carried.symm.trans (upToDate.resolve_left (by rw [carried]; nofun))
    obtain rfl : number = numberNow := Nat.repr_injective (Option.some.inj same)
    -- The write that is the last one now was in the log already when the object was read.
    exact isLastNow.elsewhere_of_le isLast.number_le
  · intro untouched
    have isLastStill := isLast.append untouched
    exact ⟨_, find?_ofList_iff.2 ⟨number, written, isLastStill, rfl⟩, .inr carried⟩

/-- However a store was filled and whatever calls were made to it, it recalls its log. And an update
that carries the revision of an object read earlier goes through exactly if no call has written to the
place since. -/
theorem recalls_after (objects : List RoutingObject) (calls : List StoreCall) :
    Recalls ((ofList objects).after calls) (objects ++ (ofList objects).writtenBy calls) ∧
    ∀ read object later, Reads ((ofList objects).after calls) read → object.key = read.key →
      object.revision = read.revision →
      ((((((ofList objects).after calls).after later).answer (.update object)).1 = .ok ()) ↔
        ∀ other ∈ ((ofList objects).after calls).writtenBy later, other.key ≠ read.key) := by
  rw [after_ofList]
  refine ⟨recalls_ofList _, fun read object later reads samePlace sameRevision => ?_⟩
  rw [after_ofList]
  exact update_ofList_eq_ok_iff reads samePlace sameRevision

/-! ## Two readers

A store is filled with the cart twice, and two parties read it. The first to write it back makes the
reading of the other one out of date. -/

def cartRead : RoutingObject where
  name := "cart"
  ns := "prod"
  labels := []
  annotations := []
  host := "cart"
  subsets := []
  revision := some "2"

theorem recalls_after_two_readers :
    Reads ((ofList [cartRead, cartRead]).after []) cartRead ∧
    ((((ofList [cartRead, cartRead]).after []).after []).answer (.update cartRead)).1 = .ok () ∧
    ¬ ((((ofList [cartRead, cartRead]).after []).after [.update cartRead]).answer
      (.update cartRead)).1 = .ok () := by
  have replied : (((ofList [cartRead, cartRead]).after []).answer (.get "prod" "cart")).1 =
      .ok cartRead := rfl
  have reads : Reads ((ofList [cartRead, cartRead]).after []) cartRead := .got replied
  have goesThrough := fun later =>
    (recalls_after [cartRead, cartRead] []).2 cartRead cartRead later reads rfl rfl
  refine ⟨reads, (goesThrough []).2 nofun, fun succeeds => ?_⟩
  exact (goesThrough [.update cartRead]).1 succeeds cartRead List.mem_cons_self rfl

end MemoryStore

end RouteOverrides
