import RouteOverrides.Proofs.Owner.Codec
import RouteOverrides.Snapshot

/-! # Owners on routing objects

* `RoutingObject.removeOwner_eq` — taking an owner off changes the annotation of an object that lists
  the owner, and no other object.
* `RoutingObject.toList_owners_withOwners_erase` — the owners that are left, in their order.
* `RoutingObject.SameBesideOwners` — what no change of the recorded owners touches.
-/

namespace RouteOverrides.RoutingObject

variable {object : RoutingObject} {key : String} {owner : Owner}

@[simp] theorem owners_withOwners {owners : OwnerSet}
    (wellFormed : ∀ owner ∈ owners.toList, owner.WellFormed) :
    (object.withOwners key owners).owners key = owners := by
  rw [withOwners, RoutingObject.owners, Keyed.find?_put_self]
  exact OwnerSet.parse_encode wellFormed

theorem removeOwner_eq (object : RoutingObject) (key : String) (owner : Owner) :
    object.removeOwner key owner =
      if owner ∈ (object.owners key).toList then
        (true, object.withOwners key ((object.owners key).erase owner))
      else (false, object) := by
  have listed : (object.owners key).contains owner = true ↔ owner ∈ (object.owners key).toList :=
    OwnerSet.contains_parse_iff
  by_cases member : owner ∈ (object.owners key).toList
  · rw [if_pos member, removeOwner, change, OwnerSet.discard, listed.2 member]
    rfl
  · rw [if_neg member, removeOwner, change, OwnerSet.discard, if_neg (mt listed.1 member)]

theorem removeOwner_of_mem (member : owner ∈ (object.owners key).toList) :
    object.removeOwner key owner =
      (true, object.withOwners key ((object.owners key).erase owner)) := by
  rw [removeOwner_eq, if_pos member]

theorem removeOwner_of_not_mem (absent : owner ∉ (object.owners key).toList) :
    object.removeOwner key owner = (false, object) := by
  rw [removeOwner_eq, if_neg absent]

theorem toList_owners_withOwners_erase (object : RoutingObject) (key : String) (owner : Owner) :
    ((object.withOwners key ((object.owners key).erase owner)).owners key).toList =
      (object.owners key).toList.erase owner := by
  rw [withOwners, RoutingObject.owners, Keyed.find?_put_self]
  exact (congrArg OwnerSet.toList (OwnerSet.parse_encode_erase _ owner)).trans
    (OwnerSet.toList_erase_parse _ owner)

/-- An object that lists an owner has the annotation. -/
theorem mem_keys_of_mem_owners (member : owner ∈ (object.owners key).toList) :
    key ∈ Keyed.keys object.annotations := by
  by_contra absent
  rw [RoutingObject.owners, Keyed.find?_eq_none_iff.2 absent] at member
  exact List.not_mem_nil member

/-- Two objects agree in all but their revisions and the value of one annotation that both have. -/
structure SameBesideOwners (key : String) (before after : RoutingObject) : Prop where
  same_fields : after =
    { before with annotations := after.annotations, revision := after.revision }
  same_keys : Keyed.keys after.annotations = Keyed.keys before.annotations
  same_values : ∀ other, other ≠ key →
    Keyed.find? other after.annotations = Keyed.find? other before.annotations

theorem sameBesideOwners_withOwners (present : key ∈ Keyed.keys object.annotations)
    (owners : OwnerSet) (revision : Option String) :
    SameBesideOwners key object { object.withOwners key owners with revision := revision } where
  same_fields := rfl
  same_keys := Keyed.keys_put_of_mem present _
  same_values _ different := Keyed.find?_put_of_ne (Ne.symm different) _ _

end RouteOverrides.RoutingObject
