import RouteOverrides.Proofs.Cluster.Manifest
import RouteOverrides.Proofs.Owner.Edits
import RouteOverrides.Watch

/-! # Manifests as snapshots

A manifest may be used as it is, as a raw object, or it may be read as a routing object first. Both forms
record the same owners. An edit of the owners comes to the same on both: reading the manifest after the
edit gives the routing object after the edit.

* `Snapshot.rawValue_of_read` — the annotation of a manifest is that of the object it is read as.
* `Snapshot.ofManifest_annotated` — how an annotated manifest is read.
* `Snapshot.Converts` — a snapshot, and the form that it may be read as.
* `Snapshot.Mirrors` — the two forms side by side; by `Snapshot.mirrors_of_read` this is how a manifest
  and the object that it is read as stand.
* `Snapshot.forms_agree` — the same of events, and of manifests that are written.
-/

namespace RouteOverrides

namespace Snapshot

variable {members metadata annotations : List (String × Json)} {object : RoutingObject}
  {key value : String} {before after : Snapshot}

/-! ## Reading and writing a manifest -/

theorem rawValue_of_read (read : RoutingObject.ofManifest (.obj members) = .ok object) (key : String) :
    rawValue members key = .ok ((Keyed.find? key object.annotations).getD "") := by
  obtain ⟨metadata, spec, subsets, readMetadata, -, made⟩ := RoutingObject.ofManifest_eq_ok_iff.1 read
  obtain ⟨-, -, -, readAnnotations, -⟩ := RoutingObject.ofParts_eq_ok_iff.1 made
  refine bind_eq_ok_iff.2 ⟨metadata, readMetadata, bind_eq_ok_iff.2
    ⟨_, RoutingObject.members_of_lenientTexts readAnnotations, ?_⟩⟩
  rw [textMembers, Keyed.find?_map]
  cases Keyed.find? key object.annotations with
  | none => rfl
  | some text => exact Lenient.text_str text

/-- An annotated manifest is read as the object with the annotation. -/
theorem ofManifest_annotated (read : RoutingObject.ofManifest (.obj members) = .ok object)
    (room : Room members metadata annotations) (key value : String) :
    RoutingObject.ofManifest (.obj (annotated members metadata annotations key value)) =
      .ok { object with annotations := Keyed.put key value object.annotations } := by
  have sameMetadata : Manifest.metadata (.obj members) = metadata := by
    rcases room.metadata_eq with found | ⟨missing, rfl⟩ <;>
      simp [Manifest.metadata, Json.member?, *]
  have sameAnnotations : annotations = textMembers object.annotations := by
    rw [← Manifest.annotations_of_read read, Manifest.annotations, sameMetadata]
    rcases room.annotations_eq with found | ⟨missing | null, rfl⟩ <;> simp [Json.members?, *]
  rw [annotated, sameAnnotations, put_textMembers, ← sameMetadata]
  exact Manifest.ofManifest_withAnnotations read _

/-! ## Both forms side by side -/

/-- A snapshot stays as it is, or a manifest is read as a routing object. -/
inductive Converts : Snapshot → Snapshot → Prop where
  | same (snapshot : Snapshot) : Converts snapshot snapshot
  | read {members : List (String × Json)} {object : RoutingObject}
      (accepted : RoutingObject.ofManifest (.obj members) = .ok object) :
      Converts (.raw members) (.model object)

theorem owners?_of_converts (converts : before.Converts after) (key : String) :
    after.owners? key = before.owners? key := by
  cases converts with
  | same => rfl
  | read accepted =>
    rw [owners?, owners?, rawValue_of_read accepted]
    rfl

theorem hasOwner?_of_converts (converts : before.Converts after) (key : String) (owner : Owner) :
    after.hasOwner? key owner = before.hasOwner? key owner := by
  rw [hasOwner?, hasOwner?, owners?_of_converts converts]

/-- A write that goes through on a manifest leaves one that is read as the written object. -/
theorem writeOwners_of_read (read : RoutingObject.ofManifest (.obj members) = .ok object)
    (owners : OwnerSet) (went : (raw members).writeOwners key owners = (.ok (), after)) :
    ∃ changed, after = .raw changed ∧
      RoutingObject.ofManifest (.obj changed) = .ok (object.withOwners key owners) := by
  rw [writeOwners] at went
  by_cases writable : ∃ metadata annotations, Room members metadata annotations
  · obtain ⟨metadata, annotations, room⟩ := writable
    rw [rawAnnotate_of_room room] at went
    cases went
    exact ⟨_, rfl, ofManifest_annotated read room key owners.encode⟩
  · obtain ⟨failure, failed⟩ := rawAnnotate_of_no_room writable key owners.encode
    rw [failed] at went
    cases went

theorem change_of_read (read : RoutingObject.ofManifest (.obj members) = .ok object)
    {step : OwnerSet → Bool × OwnerSet} {answer : Bool}
    (went : (raw members).change key step = (.ok answer, after)) :
    (object.change key step).1 = answer ∧ ∃ changed, after = .raw changed ∧
      RoutingObject.ofManifest (.obj changed) = .ok (object.change key step).2 := by
  have sameOwners : (raw members).owners? key = .ok (object.owners key) :=
    (owners?_of_converts (.read read) key).symm
  rw [change, sameOwners] at went
  rw [RoutingObject.change]
  dsimp only at went ⊢
  split
  · rename_i changes
    rw [if_pos changes] at went
    cases written : (raw members).writeOwners key (step (object.owners key)).2 with
    | mk outcome left =>
      rw [written] at went
      cases outcome with
      | ok _ =>
        cases went
        exact ⟨rfl, writeOwners_of_read read _ written⟩
      | error failure => cases went
  · rename_i keeps
    rw [if_neg keeps] at went
    cases went
    exact ⟨rfl, members, rfl, read⟩

/-- A manifest and a routing object that record the same owners, whatever is done to them. -/
structure Mirrors (members : List (String × Json)) (object : RoutingObject) : Prop where
  owners_eq : ∀ key, (raw members).owners? key = .ok (object.owners key)
  has_eq : ∀ key owner, (raw members).hasOwner? key owner = .ok ((object.owners key).contains owner)
  /-- An edit that goes through on the manifest gives the same answer on the routing object, and the
  manifest is read as the routing object again. -/
  edits : ∀ key (edit : Edit) answer after, edit.perform key (raw members) = (.ok answer, after) →
    ∃ changed edited, after = .raw changed ∧
      edit.perform key (.model object) = (.ok answer, .model edited) ∧
      RoutingObject.ofManifest (.obj changed) = .ok edited

theorem mirrors_of_read (read : RoutingObject.ofManifest (.obj members) = .ok object) :
    Mirrors members object where
  owners_eq key := (owners?_of_converts (.read read) key).symm
  has_eq key owner := (hasOwner?_of_converts (.read read) key owner).symm
  edits key edit answer after went := by
    rw [Edit.perform_eq] at went
    obtain ⟨sameAnswer, changed, left, readAgain⟩ := change_of_read read went
    rw [Edit.perform_eq, change_model, sameAnswer]
    exact ⟨changed, _, left, rfl, readAgain⟩

theorem owners?_toManifest (settings : Settings) (object : RoutingObject) :
    ∃ members, object.toManifest settings = .obj members ∧
      ∀ key, (raw members).owners? key = .ok (object.owners key) := by
  have read := object.ofManifest_toManifest settings
  -- Owners do not depend on the version, which is all that the manifest leaves out.
  exact ⟨_, rfl, (mirrors_of_read read).owners_eq⟩

end Snapshot

namespace WatchEvent

open Snapshot

variable {event other : WatchEvent} {key : String}

/-- The two events carry the same forms of an object, but for manifests that the other one carries as
routing objects. -/
structure Converts (event other : WatchEvent) : Prop where
  kind_eq : event.kind = other.kind
  object : event.object.Converts other.object
  previous : Option.Rel Snapshot.Converts event.previous other.previous

theorem fanOut_of_converts (converts : event.Converts other) : other.fanOut key = event.fanOut key := by
  have sameSets : other.snapshots.mapM (·.owners? key) = event.snapshots.mapM (·.owners? key) := by
    obtain ⟨kind, current, former⟩ := event
    obtain ⟨_, currentToo, formerToo⟩ := other
    obtain ⟨sameKind, object, previous⟩ := converts
    cases sameKind
    have sameObject := owners?_of_converts object key
    cases previous with
    | none => cases kind <;> simp [snapshots, sameObject]
    | some converts =>
      have samePrevious := owners?_of_converts converts key
      cases kind <;> simp [snapshots, sameObject, samePrevious]
  rw [fanOut, fanOut, sameSets]

end WatchEvent

namespace Snapshot

/-- A manifest may be read as a routing object, and a routing object be written as a manifest, without
any difference to the owners: to those that are listed, to what an edit makes of them, and to whom an
event asks for. -/
theorem forms_agree :
    (∀ (members : List (String × Json)) (object : RoutingObject),
      RoutingObject.ofManifest (.obj members) = .ok object → Mirrors members object) ∧
    (∀ event other : WatchEvent, event.Converts other →
      ∀ key, other.fanOut key = event.fanOut key) ∧
    ∀ (settings : Settings) (object : RoutingObject),
      ∃ members, object.toManifest settings = .obj members ∧
        ∀ key, (raw members).owners? key = .ok (object.owners key) :=
  ⟨fun _ _ => mirrors_of_read, fun _ _ converts _ => WatchEvent.fanOut_of_converts converts,
    owners?_toManifest⟩

/-! ### A manifest with a status

It has null labels and a status, which routing objects do not know, and is carried beside its form as a
routing object. -/

def sharedManifest : List (String × Json) :=
  [("metadata", .obj
      [("name", .str "cart"), ("labels", .null), ("resourceVersion", .str "7"),
        ("annotations", .obj [("owners", .str "team/web,,team/api")])]),
    ("status", .obj [("ready", .bool true)])]

def sharedObject : RoutingObject where
  name := "cart"
  ns := ""
  labels := []
  annotations := [("owners", "team/web,,team/api")]
  host := ""
  subsets := []
  revision := some "7"

def sharedUpdate (object : Snapshot) : WatchEvent where
  kind := .update
  object := object
  previous := some (.raw sharedManifest)

theorem forms_agree_shared :
    RoutingObject.ofManifest (.obj sharedManifest) = .ok sharedObject ∧
    Mirrors sharedManifest sharedObject ∧
    (∃ answer after, (raw sharedManifest).removeOwner "owners" ⟨"team", "web"⟩ =
      (.ok answer, after)) ∧
    (sharedUpdate (.model sharedObject)).fanOut "owners" =
      (sharedUpdate (.raw sharedManifest)).fanOut "owners" ∧
    (sharedUpdate (.raw sharedManifest)).fanOut "owners" = .ok [⟨"team", "web"⟩, ⟨"team", "api"⟩] := by
  have read : RoutingObject.ofManifest (.obj sharedManifest) = .ok sharedObject := by rfl
  have removed : ((raw sharedManifest).removeOwner "owners" ⟨"team", "web"⟩).1 = .ok true := by
    decide +kernel
  have converts : (sharedUpdate (.raw sharedManifest)).Converts (sharedUpdate (.model sharedObject)) :=
    ⟨rfl, .read read, .some (.same _)⟩
  exact ⟨read, forms_agree.1 _ _ read, ⟨true, _, Prod.ext removed rfl⟩,
    forms_agree.2.1 _ _ converts "owners", by decide +kernel⟩

end Snapshot

end RouteOverrides
