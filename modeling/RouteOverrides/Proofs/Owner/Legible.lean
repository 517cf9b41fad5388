import RouteOverrides.Proofs.Json.Lenient
import RouteOverrides.Proofs.Owner.Edits

/-! # Raw objects that can be read

Reading a raw object takes any empty part for a missing one. Writing is less patient: it makes room
where metadata are missing, and where annotations are missing or null, but not in place of another empty
value. An object that lists somebody has both parts, so an owner can always be taken off. An object that
lists nobody may refuse an owner.

* `Snapshot.Reading` — the parts of a raw object that are read; by `Snapshot.rawValue_eq_ok_iff` there is
  no other way to read one.
* `Snapshot.Legible` — the objects whose owners can be read.
* `Edit.perform_cases` — an edit goes through, or it has something to write and finds no room.
* `Snapshot.tolerates_of_read` — what can be done to a raw object whose owners can be read.
-/

namespace RouteOverrides

namespace Snapshot

open Lenient

variable {object metadata annotations : List (String × Json)} {key raw : String}
  {snapshot : Snapshot} {owners : OwnerSet} {owner : Owner}

/-! ## Reading -/

/-- The parts of a raw object on the way to the value of an annotation. A vacant part counts as one
without members, and a vacant value as the empty text. -/
structure Reading (object metadata annotations : List (String × Json)) (key raw : String) : Prop where
  metadata_eq : Keyed.find? "metadata" object = some (.obj metadata) ∨
    Vacant (Keyed.find? "metadata" object) ∧ metadata = []
  annotations_eq : Keyed.find? "annotations" metadata = some (.obj annotations) ∨
    Vacant (Keyed.find? "annotations" metadata) ∧ annotations = []
  value_eq : Keyed.find? key annotations = some (.str raw) ∨
    Vacant (Keyed.find? key annotations) ∧ raw = ""

theorem rawValue_eq_ok_iff : rawValue object key = .ok raw ↔
    ∃ metadata annotations, Reading object metadata annotations key raw := by
  constructor
  · intro read
    obtain ⟨metadata, readMetadata, rest⟩ := bind_eq_ok_iff.1 read
    obtain ⟨annotations, readAnnotations, readValue⟩ := bind_eq_ok_iff.1 rest
    exact ⟨metadata, annotations, members_eq_ok_iff.1 readMetadata,
      members_eq_ok_iff.1 readAnnotations, text_eq_ok_iff.1 readValue⟩
  · rintro ⟨metadata, annotations, reading⟩
    refine bind_eq_ok_iff.2 ⟨metadata, members_eq_ok_iff.2 reading.metadata_eq, ?_⟩
    refine bind_eq_ok_iff.2 ⟨annotations, members_eq_ok_iff.2 reading.annotations_eq, ?_⟩
    exact text_eq_ok_iff.2 reading.value_eq

/-- Whether the owners of an object can be read. -/
def Legible (snapshot : Snapshot) (key : String) : Prop :=
  match snapshot with
  | .model _ => True
  | .raw object => ∃ metadata annotations raw, Reading object metadata annotations key raw

theorem legible_iff : snapshot.Legible key ↔ ∃ owners, snapshot.owners? key = .ok owners := by
  cases snapshot with
  | model object => exact ⟨fun _ => ⟨_, rfl⟩, fun _ => trivial⟩
  | raw object =>
    rw [owners?]
    constructor
    · rintro ⟨metadata, annotations, raw, reading⟩
      rw [rawValue_eq_ok_iff.2 ⟨metadata, annotations, reading⟩]
      exact ⟨_, rfl⟩
    · rintro ⟨owners, read⟩
      cases value : rawValue object key with
      | ok raw =>
        obtain ⟨metadata, annotations, reading⟩ := rawValue_eq_ok_iff.1 value
        exact ⟨metadata, annotations, raw, reading⟩
      | error failure =>
        rw [value] at read
        cases read

/-! ## Writing -/

/-- An annotation that says something stands in an object, and that one in another object. -/
theorem Reading.room (reading : Reading object metadata annotations key raw) (filled : raw ≠ "") :
    Room object metadata annotations := by
  have value : Keyed.find? key annotations = some (.str raw) :=
    reading.value_eq.resolve_right fun vacant => filled vacant.2
  have annotationsThere : Keyed.find? "annotations" metadata = some (.obj annotations) := by
    refine reading.annotations_eq.resolve_right ?_
    rintro ⟨-, rfl⟩
    cases value
  have metadataThere : Keyed.find? "metadata" object = some (.obj metadata) := by
    refine reading.metadata_eq.resolve_right ?_
    rintro ⟨-, rfl⟩
    cases annotationsThere
  exact ⟨.inl metadataThere, .inl annotationsThere⟩

theorem writable_of_listed (read : snapshot.owners? key = .ok owners)
    (listed : owner ∈ owners.toList) : snapshot.Writable := by
  cases snapshot with
  | model object => trivial
  | raw object =>
    rw [owners?] at read
    cases value : rawValue object key with
    | error failure =>
      rw [value] at read
      cases read
    | ok raw =>
      rw [value] at read
      obtain rfl : OwnerSet.parse raw = owners := Except.ok.inj read
      obtain ⟨metadata, annotations, reading⟩ := rawValue_eq_ok_iff.1 value
      refine ⟨metadata, annotations, reading.room ?_⟩
      rintro rfl
      cases listed

end Snapshot

namespace Edit

variable {edit : Edit} {snapshot : Snapshot} {key : String} {owners : OwnerSet} {owner : Owner}

/-- An edit by any owner goes through if there is nothing to change or there is room for the change.
Otherwise it leaves the object as it was. -/
theorem perform_cases (edit : Edit) (read : snapshot.owners? key = .ok owners) :
    (∃ answer after, edit.perform key snapshot = (.ok answer, after) ∧
      ((edit.onList owners.toList).1 = false ∨ snapshot.Writable)) ∨
    ∃ failure, edit.perform key snapshot = (.error failure, snapshot) ∧
      (edit.onList owners.toList).1 = true ∧ ¬ snapshot.Writable := by
  obtain ⟨raw, rfl⟩ := Snapshot.exists_parse_of_owners? read
  obtain ⟨sameAnswer, -⟩ := onSet_parse edit raw
  rw [perform_eq, Snapshot.change, read, ← sameAnswer]
  dsimp only
  split
  · rename_i changes
    rcases snapshot.writeOwners_cases key (edit.onSet (OwnerSet.parse raw)).2 with
      ⟨after, went, wrote⟩ | ⟨full, failure, failed⟩
    · rw [went]
      exact .inl ⟨_, _, rfl, .inr wrote.writable⟩
    · rw [failed]
      exact .inr ⟨failure, rfl, changes, full⟩
  · rename_i keeps
    exact .inl ⟨_, _, rfl, .inl (Bool.eq_false_iff.2 keeps)⟩

theorem exists_perform_ok_iff (edit : Edit) (read : snapshot.owners? key = .ok owners) :
    (∃ answer after, edit.perform key snapshot = (.ok answer, after)) ↔
      (edit.onList owners.toList).1 = false ∨ snapshot.Writable := by
  rcases perform_cases edit read with ⟨answer, after, went, fits⟩ | ⟨failure, failed, changes, full⟩
  · exact iff_of_true ⟨answer, after, went⟩ fits
  · refine iff_of_false ?_ ?_
    · rintro ⟨answer, after, went⟩
      rw [failed] at went
      cases went
    · rw [changes]
      exact fun fits => fits.elim Bool.noConfusion full

theorem onList_add_unchanged_iff {listed : List Owner} :
    ((add owner).onList listed).1 = false ↔ owner ∈ listed := by
  rw [onList]
  split
  · rename_i member
    exact iff_of_true rfl member
  · rename_i absent
    exact iff_of_false Bool.noConfusion absent

theorem onList_remove_unchanged_iff {listed : List Owner} :
    ((remove owner).onList listed).1 = false ↔ owner ∉ listed := by
  rw [onList]
  split
  · rename_i member
    exact iff_of_false Bool.noConfusion (not_not_intro member)
  · rename_i absent
    exact iff_of_true rfl absent

theorem mem_onList_add {listed : List Owner} : owner ∈ ((add owner).onList listed).2 := by
  rw [onList]
  split
  · assumption
  · exact List.mem_append_right _ List.mem_cons_self

end Edit

namespace Snapshot

variable {object : List (String × Json)} {key : String} {owners : OwnerSet}

/-- What can be done about an owner to a raw object that lists some owners. -/
structure Tolerates (object : List (String × Json)) (key : String) (listed : List Owner)
    (owner : Owner) : Prop where
  /-- Taking an owner off never fails. -/
  removes : ∃ answer after, (raw object).removeOwner key owner = (.ok answer, after)
  /-- Recording an owner fails exactly if it is new and there is no room for it. -/
  adds_iff : (∃ answer after, (raw object).addOwner key owner = (.ok answer, after)) ↔
    owner ∈ listed ∨ (raw object).Writable
  /-- Where an owner cannot be recorded, the object stays as it was. -/
  untouched : ∀ failure after, (raw object).addOwner key owner = (.error failure, after) →
    after = raw object
  /-- An owner that can be read back is listed once it was recorded. -/
  has_added : owner.WellFormed → ∀ answer after,
    (raw object).addOwner key owner = (.ok answer, after) → after.hasOwner? key owner = .ok true

/-- If the owners of a raw object can be read, any owner can be taken off it. An owner can be recorded
on it if it is listed already, or if the metadata are missing or an object whose annotations are missing,
null or an object. -/
theorem tolerates_of_read (read : (raw object).owners? key = .ok owners) (owner : Owner) :
    Tolerates object key owners.toList owner where
  removes := by
    refine (Edit.exists_perform_ok_iff (.remove owner) read).2 ?_
    rw [Edit.onList_remove_unchanged_iff]
    by_cases listed : owner ∈ owners.toList
    · exact .inr (writable_of_listed read listed)
    · exact .inl listed
  adds_iff := by
    rw [← Edit.onList_add_unchanged_iff]
    exact Edit.exists_perform_ok_iff (.add owner) read
  untouched := by
    intro failure after failed
    rcases Edit.perform_cases (.add owner) read with ⟨_, _, went, -⟩ | ⟨_, same, -⟩
    · cases failed.symm.trans went
    · cases failed.symm.trans same
      rfl
  has_added := by
    intro wellFormed answer after went
    have meets : Edit.Meets key (.add owner) owners.toList (raw object)
        ((Edit.add owner).perform key (raw object)) := Edit.meets_perform read wellFormed
    rw [Edit.perform, went] at meets
    rw [meets.1.has_eq, decide_eq_true Edit.mem_onList_add]

/-! ### Null parts

Null annotations make room for an owner. Null metadata are read as if they held nothing, but they do not
make room. -/

def nullAnnotations : List (String × Json) :=
  [("metadata", .obj [("name", .str "blue-cart"), ("annotations", .null)])]

theorem tolerates_null_annotations :
    (raw nullAnnotations).owners? "owners" = .ok .empty ∧
    Tolerates nullAnnotations "owners" [] ⟨"team", "web"⟩ ∧
    (∃ answer after, (raw nullAnnotations).addOwner "owners" ⟨"team", "web"⟩ = (.ok answer, after) ∧
      after.hasOwner? "owners" ⟨"team", "web"⟩ = .ok true) := by
  have read : (raw nullAnnotations).owners? "owners" = .ok .empty := by decide +kernel
  have wellFormed : Owner.WellFormed ⟨"team", "web"⟩ := by decide +kernel
  have room : Room nullAnnotations [("name", .str "blue-cart"), ("annotations", .null)] [] :=
    ⟨.inl rfl, .inr ⟨.inr rfl, rfl⟩⟩
  have tolerates := tolerates_of_read read ⟨"team", "web"⟩
  obtain ⟨answer, after, went⟩ := tolerates.adds_iff.2 (.inr ⟨_, _, room⟩)
  exact ⟨read, tolerates, answer, after, went, tolerates.has_added wellFormed answer after went⟩

theorem not_written_null_metadata :
    ¬ ∀ (object : List (String × Json)) (key : String) (owners : OwnerSet) (owner : Owner),
      (raw object).owners? key = .ok owners →
      (∃ answer after, (raw object).removeOwner key owner = (.ok answer, after)) ∧
      ∃ answer after, (raw object).addOwner key owner = (.ok answer, after) ∧
        (owner.WellFormed → after.hasOwner? key owner = .ok true) := by
  intro written
  have read : (raw [("metadata", .null)]).owners? "owners" = .ok .empty := by decide +kernel
  obtain ⟨-, answer, after, went, -⟩ := written _ _ _ ⟨"team", "web"⟩ read
  have failed : ((raw [("metadata", .null)]).addOwner "owners" ⟨"team", "web"⟩).1 =
      .error .misread := by decide +kernel
  rw [went] at failed
  cases failed

end Snapshot

end RouteOverrides
