import RouteOverrides.Proofs.Owner.Recorded

/-! # Owners that come and go

The owners that an object records are an ordered set: adding an owner puts it last, and removing it
leaves the others in their order. This holds of both forms of an object and over any number of edits,
whatever the annotation looked like at first.

* `Keyed.SameBeside`, `Snapshot.SameBeside` — what an edit leaves as it was.
* `Snapshot.Writable` — the objects that can be written into.
* `Snapshot.writeOwners_cases` — writing goes through and is read back, or it fails and has done nothing.
* `Edit.onList` — what an edit does to a list of owners; `Edit.Meets` — what it does to an object.
* `Edit.meets_after_edits` — every edit of a sequence does so.
-/

namespace RouteOverrides

variable {α : Type}

/-! ## One value of many -/

namespace Keyed

/-- Only the value at one key may differ. The keys stand in the same order, and the key comes last if it
is new. -/
structure SameBeside (key : String) (before after : List (String × α)) : Prop where
  keys_eq : keys after = if key ∈ keys before then keys before else keys before ++ [key]
  values_eq : ∀ other, other ≠ key → find? other after = find? other before

theorem sameBeside_put (key : String) (value : α) (xs : List (String × α)) :
    SameBeside key xs (put key value xs) where
  keys_eq := by
    split
    · rename_i present
      exact keys_put_of_mem present value
    · rename_i absent
      rw [put_of_not_mem absent, keys, List.map_append]
      rfl
  values_eq _ different := find?_put_of_ne (Ne.symm different) value xs

/-- Of two values that are set at one key the second counts. -/
theorem put_put (key : String) (first second : α) (xs : List (String × α)) :
    put key second (put key first xs) = put key second xs := by
  induction xs with
  | nil => simp [put]
  | cons pair rest inductionHypothesis =>
    rw [put]
    split
    · rename_i here
      simp [put, here]
    · rename_i elsewhere
      simp [put, elsewhere, inductionHypothesis]

end Keyed

namespace Snapshot

variable {snapshot before after : Snapshot} {key : String} {owners : OwnerSet}
  {object metadata annotations : List (String × Json)}

/-! ## Writing into raw objects -/

/-- The metadata and the annotations of a raw object that can be written into. Missing metadata count as
empty, and so do missing or null annotations. -/
structure Room (object metadata annotations : List (String × Json)) : Prop where
  metadata_eq : Keyed.find? "metadata" object = some (.obj metadata) ∨
    Keyed.find? "metadata" object = none ∧ metadata = []
  annotations_eq : Keyed.find? "annotations" metadata = some (.obj annotations) ∨
    (Keyed.find? "annotations" metadata = none ∨ Keyed.find? "annotations" metadata = some .null) ∧
      annotations = []

/-- A raw object with an annotation in the room that there is for it. -/
def annotated (object metadata annotations : List (String × Json)) (key value : String) :
    List (String × Json) :=
  Keyed.put "metadata"
    (.obj (Keyed.put "annotations" (.obj (Keyed.put key (.str value) annotations)) metadata)) object

theorem rawAnnotate_of_room (room : Room object metadata annotations) (key value : String) :
    rawAnnotate object key value = (.ok (), annotated object metadata annotations key value) := by
  -- Empty metadata and annotations are put in place first, and overwritten by the last step.
  obtain ⟨found | ⟨missing, rfl⟩, foundIn | ⟨missingIn | null, rfl⟩⟩ := room
  · simp [rawAnnotate, withMetadata, makeRoom, writeAnnotation, annotated, found, foundIn]
  · simp [rawAnnotate, withMetadata, makeRoom, writeAnnotation, annotated, found, missingIn,
      Keyed.put_put]
  · simp [rawAnnotate, withMetadata, makeRoom, writeAnnotation, annotated, found, null,
      Keyed.put_put]
  · cases foundIn
  · simp [rawAnnotate, withMetadata, makeRoom, writeAnnotation, annotated, missing, Keyed.put_put]
  · cases null

theorem rawAnnotate_of_no_room (full : ¬ ∃ metadata annotations, Room object metadata annotations)
    (key value : String) : ∃ failure, rawAnnotate object key value = (.error failure, object) := by
  cases found : Keyed.find? "metadata" object with
  | none => exact absurd ⟨[], [], .inr ⟨found, rfl⟩, .inr ⟨.inl rfl, rfl⟩⟩ full
  | some part =>
    cases part with
    | obj metadata =>
      cases foundIn : Keyed.find? "annotations" metadata with
      | none => exact absurd ⟨metadata, [], .inl found, .inr ⟨.inl foundIn, rfl⟩⟩ full
      | some part =>
        cases part with
        | null => exact absurd ⟨metadata, [], .inl found, .inr ⟨.inr foundIn, rfl⟩⟩ full
        | obj annotations => exact absurd ⟨metadata, annotations, .inl found, .inl foundIn⟩ full
        | bool _ | int _ | float _ | str _ | arr _ =>
          refine ⟨.misplaced, ?_⟩
          simp [rawAnnotate, withMetadata, makeRoom, writeAnnotation, found, foundIn]
    | null | bool _ | int _ | float _ | str _ | arr _ =>
      refine ⟨.misread, ?_⟩
      simp [rawAnnotate, withMetadata, makeRoom, found]

/-- What is read under a key of an object that was annotated there. -/
theorem rawValue_annotated (object metadata annotations : List (String × Json))
    (key value : String) :
    rawValue (annotated object metadata annotations key value) key = .ok value := by
  simp [rawValue, annotated, bind, Except.bind]

/-! ## Writing into either form -/

/-- Whether owners can be recorded on an object. -/
def Writable : Snapshot → Prop
  | .model _ => True
  | .raw object => ∃ metadata annotations, Room object metadata annotations

/-- The value of an annotation. -/
def annotation? (snapshot : Snapshot) (key : String) : Option Json :=
  match snapshot with
  | .model object => (Keyed.find? key object.annotations).map .str
  | .raw object =>
    ((Keyed.find? "metadata" object).bind (·.member? "annotations")).bind (·.member? key)

/-- Two objects agree in all but the value of one annotation. A raw object may have gained metadata
where they were missing, and annotations where they were missing or null. -/
inductive SameBeside (key : String) : Snapshot → Snapshot → Prop where
  | model {before after : RoutingObject}
      (fields : after = { before with annotations := after.annotations })
      (values : Keyed.SameBeside key before.annotations after.annotations) :
      SameBeside key (.model before) (.model after)
  | raw {before after metadata metadataAfter annotations annotationsAfter : List (String × Json)}
      (room : Room before metadata annotations)
      (members : Keyed.SameBeside "metadata" before after)
      (metadata_after : Keyed.find? "metadata" after = some (.obj metadataAfter))
      (parts : Keyed.SameBeside "annotations" metadata metadataAfter)
      (annotations_after : Keyed.find? "annotations" metadataAfter = some (.obj annotationsAfter))
      (values : Keyed.SameBeside key annotations annotationsAfter) :
      SameBeside key (.raw before) (.raw after)

/-- Owners were recorded under a key, and nothing else has changed. -/
structure Wrote (key : String) (owners : OwnerSet) (before after : Snapshot) : Prop where
  writable : before.Writable
  value_eq : after.annotation? key = some (.str owners.encode)
  read_eq : after.owners? key = .ok (OwnerSet.parse owners.encode)
  beside : SameBeside key before after

theorem wrote_model (object : RoutingObject) (key : String) (owners : OwnerSet) :
    Wrote key owners (.model object) (.model (object.withOwners key owners)) where
  writable := trivial
  value_eq := by
    rw [annotation?, RoutingObject.withOwners, Keyed.find?_put_self]
    rfl
  read_eq := by
    rw [owners?_model, RoutingObject.owners, RoutingObject.withOwners, Keyed.find?_put_self]
    rfl
  beside := .model rfl (Keyed.sameBeside_put _ _ _)

theorem wrote_raw (room : Room object metadata annotations) (key : String) (owners : OwnerSet) :
    Wrote key owners (.raw object)
      (.raw (annotated object metadata annotations key owners.encode)) where
  writable := ⟨metadata, annotations, room⟩
  value_eq := by simp [annotation?, annotated, Json.member?]
  read_eq := by
    rw [owners?, rawValue_annotated]
    rfl
  beside := .raw room (Keyed.sameBeside_put _ _ _) (Keyed.find?_put_self _ _ _)
    (Keyed.sameBeside_put _ _ _) (Keyed.find?_put_self _ _ _) (Keyed.sameBeside_put _ _ _)

/-- Writing goes through, or it fails and has done nothing. -/
theorem writeOwners_cases (snapshot : Snapshot) (key : String) (owners : OwnerSet) :
    (∃ after, snapshot.writeOwners key owners = (.ok (), after) ∧ Wrote key owners snapshot after) ∨
    ¬ snapshot.Writable ∧ ∃ failure, snapshot.writeOwners key owners = (.error failure, snapshot) := by
  cases snapshot with
  | model object => exact .inl ⟨_, rfl, wrote_model object key owners⟩
  | raw object =>
    by_cases writable : ∃ metadata annotations, Room object metadata annotations
    · obtain ⟨metadata, annotations, room⟩ := writable
      refine .inl ⟨_, ?_, wrote_raw room key owners⟩
      rw [writeOwners, rawAnnotate_of_room room]
    · obtain ⟨failure, failed⟩ := rawAnnotate_of_no_room writable key owners.encode
      refine .inr ⟨writable, failure, ?_⟩
      rw [writeOwners, failed]

/-- The owners of an object are always read from some text. -/
theorem exists_parse_of_owners? (read : snapshot.owners? key = .ok owners) :
    ∃ raw, owners = OwnerSet.parse raw := by
  cases snapshot with
  | model object => exact ⟨_, (Except.ok.inj read).symm⟩
  | raw object =>
    rw [owners?] at read
    cases value : rawValue object key with
    | ok raw =>
      rw [value] at read
      exact ⟨raw, (Except.ok.inj read).symm⟩
    | error failure =>
      rw [value] at read
      cases read

end Snapshot

/-! ## Edits -/

/-- A change that is asked for of the owners that an object records. -/
inductive Edit where
  | add (owner : Owner)
  | remove (owner : Owner)

namespace Edit

variable {edit : Edit} {before after snapshot : Snapshot} {key : String} {listed : List Owner}
  {owners : OwnerSet}

def owner : Edit → Owner
  | add owner => owner
  | remove owner => owner

/-- What an edit makes of a list of owners, and whether that is a change. -/
def onList : Edit → List Owner → Bool × List Owner
  | add owner, listed => if owner ∈ listed then (false, listed) else (true, listed ++ [owner])
  | remove owner, listed => if owner ∈ listed then (true, listed.erase owner) else (false, listed)

def onSet : Edit → OwnerSet → Bool × OwnerSet
  | add owner, owners => owners.add owner
  | remove owner, owners => owners.discard owner

/-- What an edit of an object answers, and the object after it. -/
def perform (key : String) : Edit → Snapshot → Except Failure Bool × Snapshot
  | add owner, snapshot => snapshot.addOwner key owner
  | remove owner, snapshot => snapshot.removeOwner key owner

theorem perform_eq (key : String) (edit : Edit) (snapshot : Snapshot) :
    edit.perform key snapshot = snapshot.change key edit.onSet := by
  cases edit <;> rfl

/-! ### Sets that were read -/

theorem add_parse (raw : String) (owner : Owner) :
    ((OwnerSet.parse raw).add owner).1 = (onList (.add owner) (OwnerSet.parse raw).toList).1 ∧
    ((OwnerSet.parse raw).add owner).2.toList =
      (onList (.add owner) (OwnerSet.parse raw).toList).2 := by
  have listed : (OwnerSet.parse raw).contains owner = true ↔
      owner ∈ (OwnerSet.parse raw).toList := OwnerSet.contains_parse_iff
  rw [onList, OwnerSet.add]
  split
  · rename_i member
    rw [listed.2 member, OwnerSet.insert_of_mem (OwnerSet.contains_iff.1 (listed.2 member))]
    exact ⟨rfl, rfl⟩
  · rename_i absent
    have unlisted : (OwnerSet.parse raw).contains owner = false :=
      Bool.eq_false_iff.2 (mt listed.1 absent)
    refine ⟨by rw [unlisted]; rfl, OwnerSet.toList_insert_of_not_mem ?_⟩
    exact fun known => absent (listed.1 (OwnerSet.contains_iff.2 known))

theorem discard_parse (raw : String) (owner : Owner) :
    ((OwnerSet.parse raw).discard owner).1 =
      (onList (.remove owner) (OwnerSet.parse raw).toList).1 ∧
    ((OwnerSet.parse raw).discard owner).2.toList =
      (onList (.remove owner) (OwnerSet.parse raw).toList).2 := by
  have listed : (OwnerSet.parse raw).contains owner = true ↔
      owner ∈ (OwnerSet.parse raw).toList := OwnerSet.contains_parse_iff
  rw [onList, OwnerSet.discard, OwnerSet.toList_erase_parse]
  split
  · rename_i member
    exact ⟨listed.2 member, rfl⟩
  · rename_i absent
    exact ⟨Bool.eq_false_iff.2 (mt listed.1 absent), List.erase_of_not_mem absent⟩

theorem onSet_parse (edit : Edit) (raw : String) :
    (edit.onSet (OwnerSet.parse raw)).1 = (edit.onList (OwnerSet.parse raw).toList).1 ∧
    (edit.onSet (OwnerSet.parse raw)).2.toList = (edit.onList (OwnerSet.parse raw).toList).2 := by
  cases edit with
  | add owner => exact add_parse raw owner
  | remove owner => exact discard_parse raw owner

/-- An edit brings in no owner but its own. -/
theorem mem_onSet {edit : Edit} {owner : Owner} (member : owner ∈ (edit.onSet owners).2.toList) :
    owner ∈ owners.toList ∨ owner = edit.owner := by
  cases edit with
  | add added => exact OwnerSet.mem_insert member
  | remove removed => exact .inl (List.mem_filter.1 member).1

/-- Sets of owners that can be read back stay so, if the owner of the edit can. -/
theorem parse_encode_onSet (wellFormed : edit.owner.WellFormed) (raw : String) :
    OwnerSet.parse (edit.onSet (OwnerSet.parse raw)).2.encode =
      (edit.onSet (OwnerSet.parse raw)).2 := by
  refine OwnerSet.parse_encode fun owner member => ?_
  rcases mem_onSet member with inRaw | rfl
  · exact OwnerSet.wellFormed_of_mem_parse inRaw
  · exact wellFormed

/-! ### One edit -/

/-- What an edit that goes through does to an object which lists some owners. -/
structure Performed (key : String) (edit : Edit) (listed : List Owner) (before : Snapshot)
    (answer : Bool) (after : Snapshot) : Prop where
  answer_eq : answer = (edit.onList listed).1
  listed_eq : (after.owners? key).map (·.toList) = .ok (edit.onList listed).2
  nodup : (edit.onList listed).2.Nodup
  has_eq : ∀ owner, after.hasOwner? key owner = .ok (decide (owner ∈ (edit.onList listed).2))
  /-- A change writes the tokens in a row, and nothing else. -/
  written : answer = true → after.annotation? key =
    some (.str (String.intercalate "," ((edit.onList listed).2.map Owner.token)))
  beside : answer = true → before.SameBeside key after
  /-- Where there is nothing to change, the object stays as it was. -/
  untouched : answer = false → after = before

/-- What an edit does to an object which lists some owners: it goes through, or there is something to
change on an object that cannot be written into, and then the edit has done nothing. -/
def Meets (key : String) (edit : Edit) (listed : List Owner) (before : Snapshot) :
    Except Failure Bool × Snapshot → Prop
  | (.ok answer, after) =>
    Performed key edit listed before answer after ∧ (answer = true → before.Writable)
  | (.error _, after) => after = before ∧ (edit.onList listed).1 = true ∧ ¬ before.Writable

theorem performed_of_read {answer : Bool} {raw : String}
    (answered : answer = (edit.onList listed).1) (read : after.owners? key = .ok (OwnerSet.parse raw))
    (lists : (OwnerSet.parse raw).toList = (edit.onList listed).2)
    (written : answer = true → after.annotation? key = some (.str (OwnerSet.parse raw).encode))
    (beside : answer = true → before.SameBeside key after)
    (untouched : answer = false → after = before) :
    Performed key edit listed before answer after where
  answer_eq := answered
  listed_eq := by
    rw [read, ← lists]
    rfl
  nodup := lists ▸ List.Nodup.of_map _ (OwnerSet.parse raw).tokens_nodup
  has_eq owner := by
    rw [Snapshot.hasOwner?, read, ← lists]
    refine congrArg Except.ok (Bool.eq_iff_iff.2 ?_)
    rw [decide_eq_true_iff]
    exact OwnerSet.contains_parse_iff
  written changed := by
    rw [written changed, OwnerSet.encode, OwnerSet.tokens, lists]
  beside := beside
  untouched := untouched

theorem meets_perform (read : before.owners? key = .ok owners) (wellFormed : edit.owner.WellFormed) :
    Meets key edit owners.toList before (edit.perform key before) := by
  obtain ⟨raw, rfl⟩ := Snapshot.exists_parse_of_owners? read
  obtain ⟨sameAnswer, sameList⟩ := onSet_parse edit raw
  rw [perform_eq, Snapshot.change, read]
  dsimp only
  split
  · rename_i changes
    have readBack := parse_encode_onSet wellFormed raw
    rcases before.writeOwners_cases key (edit.onSet (OwnerSet.parse raw)).2 with
      ⟨after, went, wrote⟩ | ⟨full, failure, failed⟩
    · rw [went]
      refine ⟨performed_of_read (sameAnswer ▸ changes.symm) wrote.read_eq ?_ ?_ ?_ ?_,
        fun _ => wrote.writable⟩
      · rw [readBack, sameList]
      · rw [readBack]
        exact fun _ => wrote.value_eq
      · exact fun _ => wrote.beside
      · rintro ⟨⟩
    · rw [failed]
      exact ⟨rfl, sameAnswer ▸ changes, full⟩
  · rename_i keeps
    have unchanged : (edit.onList (OwnerSet.parse raw).toList).1 = false :=
      sameAnswer ▸ Bool.eq_false_iff.2 keeps
    refine ⟨performed_of_read unchanged.symm read ?_ ?_ ?_ fun _ => rfl, ?_⟩
    · cases edit <;> grind [onList]
    all_goals rintro ⟨⟩

/-! ### Any number of edits -/

/-- An object after some edits, and the owners that it is to list then. An edit that fails takes no part
in the list. -/
def performAll (key : String) : Snapshot → List Owner → List Edit → Snapshot × List Owner
  | snapshot, listed, [] => (snapshot, listed)
  | snapshot, listed, edit :: rest =>
    match edit.perform key snapshot with
    | (.ok _, after) => performAll key after (edit.onList listed).2 rest
    | (.error _, after) => performAll key after listed rest

theorem lists_performAll {edits : List Edit} (read : snapshot.owners? key = .ok owners)
    (wellFormed : ∀ edit ∈ edits, edit.owner.WellFormed) :
    ∃ ownersAfter, (performAll key snapshot owners.toList edits).1.owners? key = .ok ownersAfter ∧
      ownersAfter.toList = (performAll key snapshot owners.toList edits).2 := by
  induction edits generalizing snapshot owners with
  | nil => exact ⟨owners, read, rfl⟩
  | cons edit rest inductionHypothesis =>
    have restWellFormed : ∀ other ∈ rest, other.owner.WellFormed :=
      fun other member => wellFormed other (List.mem_cons_of_mem _ member)
    have meets := meets_perform read (wellFormed edit List.mem_cons_self)
    rw [performAll]
    split
    · rename_i answer after performed
      rw [performed] at meets
      have lists := meets.1.listed_eq
      cases readAfter : after.owners? key with
      | ok ownersAfter =>
        rw [readAfter] at lists
        have same : ownersAfter.toList = (edit.onList owners.toList).2 := Except.ok.inj lists
        rw [← same]
        exact inductionHypothesis readAfter restWellFormed
      | error failure =>
        rw [readAfter] at lists
        cases lists
    · rename_i failure after failed
      rw [failed] at meets
      rw [meets.1]
      exact inductionHypothesis read restWellFormed

/-- Let an object of either form be edited any number of times, by owners that can be read back; its
annotation may be any text at first. Then every edit treats the object as an ordered set of owners. -/
theorem meets_after_edits (read : snapshot.owners? key = .ok owners) (earlier : List Edit)
    (edit : Edit) (wellFormed : ∀ other ∈ earlier ++ [edit], other.owner.WellFormed) :
    let now := performAll key snapshot owners.toList earlier
    Meets key edit now.2 now.1 (edit.perform key now.1) := by
  intro now
  have earlierWellFormed : ∀ other ∈ earlier, other.owner.WellFormed :=
    fun other member => wellFormed other (List.mem_append_left _ member)
  obtain ⟨ownersNow, readNow, listedNow⟩ := lists_performAll read earlierWellFormed
  rw [← listedNow]
  exact meets_perform readNow (wellFormed edit (List.mem_append_right _ List.mem_cons_self))

/-! ### An untidy annotation

The owner stands in the annotation twice, once between blanks, beside an empty token and one that names
nobody. It is taken off, and another one joins. -/

def untidy : Snapshot :=
  .raw
    [("kind", .str "DestinationRule"),
      ("metadata", .obj [("annotations", .obj
        [("owners", .str " team/web ,,web,team/web"), ("note", .str "shared")])])]

def leaving : List Edit := [.remove ⟨"team", "web"⟩]

def joining : Edit := .add ⟨"team", "api"⟩

theorem meets_on_untidy :
    untidy.owners? "owners" = .ok (OwnerSet.ofList [⟨"team", "web"⟩]) ∧
    (∀ other ∈ leaving ++ [joining], other.owner.WellFormed) ∧
    let now := performAll "owners" untidy [⟨"team", "web"⟩] leaving
    now.2 = [] ∧ Meets "owners" joining now.2 now.1 (joining.perform "owners" now.1) := by
  have read : untidy.owners? "owners" = .ok (OwnerSet.ofList [⟨"team", "web"⟩]) := by
    decide +kernel
  have wellFormed : ∀ other ∈ leaving ++ [joining], other.owner.WellFormed := by
    simp only [leaving, joining, List.cons_append, List.nil_append, List.forall_mem_cons]
    decide +kernel
  have nobody : (performAll "owners" untidy [⟨"team", "web"⟩] leaving).2 = [] := by decide +kernel
  exact ⟨read, wellFormed, nobody, meets_after_edits read leaving joining wellFormed⟩

end Edit

end RouteOverrides
