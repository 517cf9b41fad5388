import Mathlib.Data.List.Nodup
import RouteOverrides.Manifest
import RouteOverrides.Proofs.Json.Lenient

/-! # Manifests that are written and edited

A cluster stores the manifest that it was sent and edits its metadata later: it gives versions, and it
sets annotations key by key. Here is what a manifest is read as after that.

* `RoutingObject.ofManifest_eq_ok_iff` — what a manifest must hold to be read as an object.
* `RoutingObject.ofManifest_toManifest` — a manifest that is written is read as the object again.
* `RoutingObject.manifest_loses_nothing` — so nothing but the version is lost.
* `Manifest.versioned`, `Manifest.annotated` — the edits.
* `Manifest.ofManifest_versioned`, `Manifest.ofManifest_annotated` — how edited manifests are read.
-/

namespace RouteOverrides

/-! ## Maps -/

namespace Keyed

variable {α β : Type} {xs ys : List (String × α)} {key : String}

theorem put_map (f : α → β) (key : String) (value : α) (xs : List (String × α)) :
    put key (f value) (xs.map fun pair => (pair.1, f pair.2)) =
      (put key value xs).map fun pair => (pair.1, f pair.2) := by
  induction xs with
  | nil => rfl
  | cons pair rest inductionHypothesis =>
    rw [List.map_cons, put, put]
    split
    · rfl
    · rw [inductionHypothesis, List.map_cons]

/-- Sets keys one after the other. -/
def overlay (xs ys : List (String × α)) : List (String × α) :=
  xs.foldl (fun acc pair => put pair.1 pair.2 acc) ys

theorem put_append_of_not_mem (absent : key ∉ keys xs) (value : α) :
    put key value (xs ++ ys) = xs ++ put key value ys := by
  induction xs with
  | nil => rfl
  | cons pair rest inductionHypothesis =>
    obtain ⟨different, absentRest⟩ := not_or.1 (mt List.mem_cons.2 absent)
    rw [List.cons_append, put, if_neg (Ne.symm different), inductionHypothesis absentRest,
      List.cons_append]

/-- Setting exactly the keys that are there, in their order, leaves nothing of the old values. -/
theorem overlay_of_keys_eq (same : keys xs = keys ys) (nodup : (keys ys).Nodup) :
    overlay xs ys = xs := by
  -- The keys that were set already stand in front of those that are still to be set.
  have settled : ∀ (front rest old : List (String × α)), keys rest = keys old →
      (keys (front ++ old)).Nodup → overlay rest (front ++ old) = front ++ rest := by
    intro front rest
    induction rest generalizing front with
    | nil =>
      intro old same _
      rw [List.map_eq_nil_iff.1 same.symm]
      rfl
    | cons pair rest inductionHypothesis =>
      intro old same nodup
      obtain _ | ⟨first, old⟩ := old
      · cases same
      obtain ⟨sameKey, sameRest⟩ := List.cons_eq_cons.1 same
      have absent : pair.1 ∉ keys front := by
        rw [keys, List.map_append, List.nodup_append] at nodup
        intro member
        exact nodup.2.2 _ member first.1 List.mem_cons_self sameKey
      have keysSame : keys (front ++ [pair] ++ old) = keys (front ++ first :: old) := by
        simp [keys, sameKey]
      have next := inductionHypothesis (front ++ [pair]) old sameRest (keysSame ▸ nodup)
      have placed : put pair.1 pair.2 (front ++ first :: old) = front ++ [pair] ++ old := by
        rw [put_append_of_not_mem absent, put, if_pos sameKey.symm, List.append_assoc,
          List.singleton_append]
      rw [overlay, List.foldl_cons, placed]
      rw [overlay] at next
      rw [next, List.append_assoc, List.singleton_append]
  exact settled [] xs ys same nodup

end Keyed

/-- The members of a map of texts. -/
def textMembers (pairs : List (String × String)) : List (String × Json) :=
  pairs.map fun pair => (pair.1, .str pair.2)

theorem keys_textMembers (pairs : List (String × String)) :
    Keyed.keys (textMembers pairs) = Keyed.keys pairs := by
  rw [Keyed.keys, Keyed.keys, textMembers, List.map_map]
  rfl

theorem put_textMembers (key text : String) (pairs : List (String × String)) :
    Keyed.put key (.str text) (textMembers pairs) = textMembers (Keyed.put key text pairs) :=
  Keyed.put_map Json.str key text pairs

theorem checkTexts_eq_ok_iff {members : List (String × Json)} {pairs : List (String × String)} :
    Schema.checkTexts members = .ok pairs ↔ members = textMembers pairs := by
  induction members generalizing pairs with
  | nil => cases pairs <;> simp [Schema.checkTexts, textMembers]
  | cons member rest inductionHypothesis =>
    obtain ⟨key, value⟩ := member
    rw [Schema.checkTexts]
    constructor
    · intro read
      obtain ⟨f, tail, head, readRest, rfl⟩ := Schema.apply_eq_ok_iff.1 read
      obtain ⟨g, word, given, readWord, rfl⟩ := Schema.apply_eq_ok_iff.1 head
      cases given
      cases value <;> try cases readWord
      rw [inductionHypothesis.1 readRest]
      rfl
    · intro same
      obtain _ | ⟨pair, pairs⟩ := pairs
      · cases same
      obtain ⟨⟨rfl, rfl⟩, rfl⟩ := List.cons_eq_cons.1 same |>.imp_left Prod.mk.inj
      rw [inductionHypothesis.2 rfl]
      rfl

/-! ## What manifests are read as -/

namespace RoutingObject

theorem ofParts_eq_ok_iff {metadata spec : List (String × Json)} {subsets : List Subset}
    {object : RoutingObject} :
    ofParts metadata spec subsets = .ok object ↔
      lenientText metadata "name" "name" = .ok object.name ∧
      lenientText metadata "namespace" "namespace" = .ok object.ns ∧
      lenientTexts metadata "labels" = .ok object.labels ∧
      lenientTexts metadata "annotations" = .ok object.annotations ∧
      lenientText spec "host" "host" = .ok object.host ∧
      subsets = object.subsets ∧
      manifestRevision metadata = .ok object.revision := by
  simp only [ofParts, Schema.apply_eq_ok_iff]
  constructor
  · rintro ⟨_, revision, ⟨_, _, ⟨_, host, ⟨_, annotations, ⟨_, labels, ⟨_, ns, ⟨_, name, made,
      readName, rfl⟩, readNs, rfl⟩, readLabels, rfl⟩, readAnnotations, rfl⟩, readHost, rfl⟩,
      given, rfl⟩, readRevision, rfl⟩
    cases made
    cases given
    exact ⟨readName, readNs, readLabels, readAnnotations, readHost, rfl, readRevision⟩
  · rintro ⟨readName, readNs, readLabels, readAnnotations, readHost, rfl, readRevision⟩
    exact ⟨_, _, ⟨_, _, ⟨_, _, ⟨_, _, ⟨_, _, ⟨_, _, ⟨_, _, rfl, readName, rfl⟩, readNs, rfl⟩,
      readLabels, rfl⟩, readAnnotations, rfl⟩, readHost, rfl⟩, rfl, rfl⟩, readRevision, rfl⟩

/-- A text that is read stands there, or it is the empty one in place of a missing one. -/
theorem text_of_lenientText {members : List (String × Json)} {name label text : String}
    (read : lenientText members name label = .ok text) :
    ((Keyed.find? name members).bind Json.text?).getD "" = text := by
  rw [lenientText] at read
  cases found : Keyed.find? name members with
  | none =>
    rw [found] at read
    exact Except.ok.inj read
  | some value =>
    rw [found] at read
    cases value with
    | str text => exact Except.ok.inj read
    | _ => cases read

/-- A map of texts that is read is an object of these texts, or it holds nothing. -/
theorem members_of_lenientTexts {members : List (String × Json)} {name : String}
    {pairs : List (String × String)} (read : lenientTexts members name = .ok pairs) :
    Lenient.members (Keyed.find? name members) = .ok (textMembers pairs) := by
  rw [lenientTexts] at read
  cases found : Keyed.find? name members with
  | none =>
    rw [found] at read
    cases read
    rfl
  | some value =>
    rw [found, Option.getD_some] at read
    rw [Lenient.members]
    split at read
    · rename_i empty
      cases read
      exact if_pos empty
    · rename_i filled
      rw [if_neg filled]
      cases value with
      | obj members =>
        cases checked : Schema.checkTexts members with
        | error faults =>
          rw [Schema.texts, checked] at read
          cases read
        | ok texts =>
          rw [Schema.texts, checked] at read
          cases read
          rw [checkTexts_eq_ok_iff.1 checked]
          rfl
      | _ => cases read

/-- A revision that is read stands there; if there is none, it is missing or null. -/
theorem version_of_manifestRevision {metadata : List (String × Json)} {revision : Option String}
    (read : manifestRevision metadata = .ok revision) :
    Keyed.find? "resourceVersion" metadata = revision.map .str ∨
      Keyed.find? "resourceVersion" metadata = some .null ∧ revision = none := by
  rw [manifestRevision] at read
  cases found : Keyed.find? "resourceVersion" metadata with
  | none =>
    rw [found] at read
    cases read
    exact .inl rfl
  | some value =>
    rw [found] at read
    cases value with
    | null =>
      cases read
      exact .inr ⟨rfl, rfl⟩
    | str text =>
      cases read
      exact .inl rfl
    | _ => cases read

/-- What a manifest is read as besides its metadata. -/
def readSpec (members : List (String × Json)) :
    Except Failure (List (String × Json) × List Subset) := do
  let spec ← Lenient.members (Keyed.find? "spec" members)
  let items ← Lenient.items (Keyed.find? "subsets" spec)
  let subsets ← items.mapM Subset.ofManifest
  pure (spec, subsets)

theorem ofManifest_eq_ok_iff {members : List (String × Json)} {object : RoutingObject} :
    ofManifest (.obj members) = .ok object ↔
      ∃ metadata spec subsets, Lenient.members (Keyed.find? "metadata" members) = .ok metadata ∧
        readSpec members = .ok (spec, subsets) ∧ ofParts metadata spec subsets = .ok object := by
  simp only [ofManifest, readSpec, bind_eq_ok_iff, mapError_eq_ok_iff]
  constructor
  · rintro ⟨metadata, readMetadata, spec, readSpec, items, readItems, subsets, readSubsets, made⟩
    exact ⟨metadata, spec, subsets, readMetadata,
      ⟨spec, readSpec, items, readItems, subsets, readSubsets, rfl⟩, made⟩
  · rintro ⟨metadata, spec, subsets, readMetadata,
      ⟨_, readSpec, items, readItems, _, readSubsets, same⟩, made⟩
    cases same
    exact ⟨metadata, readMetadata, spec, readSpec, items, readItems, subsets, readSubsets, made⟩

end RoutingObject

/-! ## Manifests that are written -/

theorem texts_ofTexts (pairs : List (String × String)) :
    (if (Json.ofTexts pairs).isEmpty then .ok [] else Schema.texts (Json.ofTexts pairs)) =
      (.ok pairs : Schema.Checked (List (String × String))) := by
  cases pairs with
  | nil => rfl
  | cons pair rest => exact checkTexts_eq_ok_iff.2 rfl

theorem Subset.ofManifest_toJson (subset : Subset) : Subset.ofManifest subset.toJson = .ok subset := by
  simp only [Subset.toJson, Subset.ofManifest, Keyed.find?, if_true, if_false, Option.getD_some,
    String.reduceEq, texts_ofTexts]
  rfl

theorem mapM_ofManifest_toJson (subsets : List Subset) :
    (subsets.map Subset.toJson).mapM Subset.ofManifest = .ok subsets := by
  induction subsets with
  | nil => rfl
  | cons subset rest inductionHypothesis =>
    rw [List.map_cons, List.mapM_cons, Subset.ofManifest_toJson, inductionHypothesis]
    rfl

/-- A manifest is read as the object that it was written from, without a version. -/
theorem RoutingObject.ofManifest_toManifest (settings : Settings) (object : RoutingObject) :
    ofManifest (object.toManifest settings) = .ok { object with revision := none } := by
  rw [toManifest, ofManifest_eq_ok_iff]
  refine ⟨_, [("host", .str object.host), ("subsets", .arr (object.subsets.map Subset.toJson))],
    object.subsets, Lenient.members_obj _, ?_, ofParts_eq_ok_iff.2 ⟨rfl, rfl, ?_, ?_, rfl, rfl, rfl⟩⟩
  · simp only [readSpec, Keyed.find?, String.reduceEq, if_true, if_false, Lenient.members_obj,
      Lenient.items_arr, bind_eq_ok_iff, Except.ok.injEq, exists_eq_left', mapM_ofManifest_toJson]
    rfl
  · exact congrArg (Schema.within (.member "labels")) (texts_ofTexts object.labels)
  · exact congrArg (Schema.within (.member "annotations")) (texts_ofTexts object.annotations)

/-- A manifest holds all of an object but its version. So objects have one manifest only if they differ in
nothing else, and what has been read from any manifest is read again once it is written. -/
theorem RoutingObject.manifest_loses_nothing (settings : Settings) :
    (∀ object : RoutingObject,
      ofManifest (object.toManifest settings) = .ok { object with revision := none }) ∧
    (∀ manifest, (do ofManifest ((← ofManifest manifest).toManifest settings)) =
      (ofManifest manifest).map fun object => { object with revision := none }) ∧
    ∀ first second : RoutingObject, first.toManifest settings = second.toManifest settings ↔
      { first with revision := none } = { second with revision := none } := by
  have read := ofManifest_toManifest settings
  refine ⟨read, fun manifest => ?_, fun first second => ⟨fun same => ?_, fun same => ?_⟩⟩
  · cases ofManifest manifest with
    | ok object => exact read object
    | error failure => rfl
  · have again := congrArg ofManifest same
    rw [read, read] at again
    exact Except.ok.inj again
  · -- The version is not written.
    calc first.toManifest settings
        = { first with revision := none }.toManifest settings := rfl
      _ = { second with revision := none }.toManifest settings := by rw [same]
      _ = second.toManifest settings := rfl

/-! ## Manifests that are edited -/

namespace Manifest

def metadata (manifest : Json) : List (String × Json) :=
  ((manifest.member? "metadata").bind Json.members?).getD []

def withMetadata (manifest : Json) (metadata : List (String × Json)) : Json :=
  match manifest with
  | .obj members => .obj (Keyed.put "metadata" (.obj metadata) members)
  | other => other

def name (manifest : Json) : String :=
  ((Keyed.find? "name" (metadata manifest)).bind Json.text?).getD ""

def ns (manifest : Json) : String :=
  ((Keyed.find? "namespace" (metadata manifest)).bind Json.text?).getD ""

def version? (manifest : Json) : Option String :=
  (Keyed.find? "resourceVersion" (metadata manifest)).bind Json.text?

def annotations (manifest : Json) : List (String × Json) :=
  ((Keyed.find? "annotations" (metadata manifest)).bind Json.members?).getD []

/-- The manifest with a version. -/
def versioned (version : String) (manifest : Json) : Json :=
  withMetadata manifest (Keyed.put "resourceVersion" (.str version) (metadata manifest))

/-- The manifest with the annotations of a change set key by key. -/
def annotated (change manifest : Json) : Json :=
  withMetadata manifest (Keyed.put "annotations"
    (.obj (Keyed.overlay (annotations change) (annotations manifest))) (metadata manifest))

variable {manifest : Json} {object : RoutingObject}

theorem members_of_lenient {part : Option Json} {members : List (String × Json)}
    (read : Lenient.members part = .ok members) : (part.bind Json.members?).getD [] = members := by
  rcases Lenient.members_eq_ok_iff.1 read with rfl | ⟨vacant, rfl⟩
  · rfl
  · cases part with
    | none => rfl
    | some value =>
      have empty := vacant value rfl
      cases value with
      | obj members => exact List.isEmpty_iff.1 empty
      | _ => rfl

/-- An edit of the metadata does not touch how the rest of a manifest is read. -/
theorem ofManifest_withMetadata (read : RoutingObject.ofManifest manifest = .ok object) :
    ∃ spec subsets, RoutingObject.ofParts (metadata manifest) spec subsets = .ok object ∧
      ∀ parts edited, RoutingObject.ofParts parts spec subsets = .ok edited →
        RoutingObject.ofManifest (withMetadata manifest parts) = .ok edited := by
  cases manifest with
  | obj members =>
    obtain ⟨parts, spec, subsets, readParts, readSpec, made⟩ :=
      RoutingObject.ofManifest_eq_ok_iff.1 read
    have same : metadata (.obj members) = parts := members_of_lenient readParts
    refine ⟨spec, subsets, same ▸ made, fun parts edited made => ?_⟩
    refine RoutingObject.ofManifest_eq_ok_iff.2 ⟨parts, spec, subsets, ?_, ?_, made⟩
    · rw [Keyed.find?_put_self, Lenient.members_obj]
    · rw [RoutingObject.readSpec, Keyed.find?_put_of_ne (by decide)]
      exact readSpec
  | _ => cases read

/-- How the metadata of a manifest are read. -/
theorem metadata_of_read (read : RoutingObject.ofManifest manifest = .ok object) :
    RoutingObject.lenientText (metadata manifest) "name" "name" = .ok object.name ∧
    RoutingObject.lenientText (metadata manifest) "namespace" "namespace" = .ok object.ns ∧
    RoutingObject.lenientTexts (metadata manifest) "annotations" = .ok object.annotations ∧
    RoutingObject.manifestRevision (metadata manifest) = .ok object.revision := by
  obtain ⟨spec, subsets, made, -⟩ := ofManifest_withMetadata read
  obtain ⟨readName, readNs, -, readAnnotations, -, -, readRevision⟩ :=
    RoutingObject.ofParts_eq_ok_iff.1 made
  exact ⟨readName, readNs, readAnnotations, readRevision⟩

theorem name_of_read (read : RoutingObject.ofManifest manifest = .ok object) :
    name manifest = object.name := by
  obtain ⟨readName, -⟩ := metadata_of_read read
  exact RoutingObject.text_of_lenientText readName

theorem ns_of_read (read : RoutingObject.ofManifest manifest = .ok object) :
    ns manifest = object.ns := by
  obtain ⟨-, readNs, -⟩ := metadata_of_read read
  exact RoutingObject.text_of_lenientText readNs

theorem version?_of_read (read : RoutingObject.ofManifest manifest = .ok object) :
    version? manifest = object.revision := by
  obtain ⟨-, -, -, readRevision⟩ := metadata_of_read read
  rw [version?]
  rcases RoutingObject.version_of_manifestRevision readRevision with found | ⟨found, none⟩
  · rw [found]
    cases object.revision <;> rfl
  · rw [found, none]
    rfl

theorem annotations_of_read (read : RoutingObject.ofManifest manifest = .ok object) :
    annotations manifest = textMembers object.annotations := by
  obtain ⟨-, -, readAnnotations, -⟩ := metadata_of_read read
  exact members_of_lenient (RoutingObject.members_of_lenientTexts readAnnotations)

/-- Parts that differ in annotations and version only are read as objects that differ there only. -/
theorem ofParts_of_edited {parts metadata spec : List (String × Json)} {subsets : List Subset}
    {pairs : List (String × String)} {revision : Option String}
    (made : RoutingObject.ofParts metadata spec subsets = .ok object)
    (kept : ∀ name, name ≠ "annotations" → name ≠ "resourceVersion" →
      Keyed.find? name parts = Keyed.find? name metadata)
    (annotated : RoutingObject.lenientTexts parts "annotations" = .ok pairs)
    (versioned : RoutingObject.manifestRevision parts = .ok revision) :
    RoutingObject.ofParts parts spec subsets =
      .ok { object with annotations := pairs, revision := revision } := by
  obtain ⟨readName, readNs, readLabels, -, readHost, same, -⟩ :=
    RoutingObject.ofParts_eq_ok_iff.1 made
  refine RoutingObject.ofParts_eq_ok_iff.2 ⟨?_, ?_, ?_, annotated, readHost, same, versioned⟩
  · rw [RoutingObject.lenientText, kept _ (by decide) (by decide)]
    exact readName
  · rw [RoutingObject.lenientText, kept _ (by decide) (by decide)]
    exact readNs
  · rw [RoutingObject.lenientTexts, kept _ (by decide) (by decide)]
    exact readLabels

theorem ofManifest_versioned (read : RoutingObject.ofManifest manifest = .ok object)
    (version : String) : RoutingObject.ofManifest (versioned version manifest) =
      .ok { object with revision := some version } := by
  obtain ⟨spec, subsets, made, edit⟩ := ofManifest_withMetadata read
  obtain ⟨-, -, readAnnotations, -⟩ := metadata_of_read read
  refine edit _ _ (ofParts_of_edited made (fun name _ other => ?_) ?_ ?_)
  · rw [Keyed.find?_put_of_ne (Ne.symm other)]
  · rw [RoutingObject.lenientTexts, Keyed.find?_put_of_ne (by decide)]
    exact readAnnotations
  · rw [RoutingObject.manifestRevision, Keyed.find?_put_self]

/-- A manifest with other annotations is read as the object with these. -/
theorem ofManifest_withAnnotations (read : RoutingObject.ofManifest manifest = .ok object)
    (pairs : List (String × String)) :
    RoutingObject.ofManifest (withMetadata manifest
        (Keyed.put "annotations" (.obj (textMembers pairs)) (metadata manifest))) =
      .ok { object with annotations := pairs } := by
  obtain ⟨spec, subsets, made, edit⟩ := ofManifest_withMetadata read
  obtain ⟨-, -, -, readRevision⟩ := metadata_of_read read
  refine edit _ _ (ofParts_of_edited made (fun name other _ => ?_) ?_ ?_)
  · rw [Keyed.find?_put_of_ne (Ne.symm other)]
  · rw [RoutingObject.lenientTexts, Keyed.find?_put_self]
    exact congrArg (Schema.within (.member "annotations")) (texts_ofTexts pairs)
  · rw [RoutingObject.manifestRevision, Keyed.find?_put_of_ne (by decide)]
    exact readRevision

/-- Setting the annotations that a manifest has, and no others, replaces them. -/
theorem ofManifest_annotated {change : Json} {pairs : List (String × String)}
    (read : RoutingObject.ofManifest manifest = .ok object)
    (sent : annotations change = textMembers pairs)
    (same : Keyed.keys pairs = Keyed.keys object.annotations)
    (nodup : (Keyed.keys object.annotations).Nodup) :
    RoutingObject.ofManifest (annotated change manifest) =
      .ok { object with annotations := pairs } := by
  have overlaid : Keyed.overlay (annotations change) (annotations manifest) = textMembers pairs := by
    rw [sent, annotations_of_read read]
    apply Keyed.overlay_of_keys_eq
    · rw [keys_textMembers, keys_textMembers, same]
    · rw [keys_textMembers]
      exact nodup
  rw [annotated, overlaid]
  exact ofManifest_withAnnotations read pairs

end Manifest

end RouteOverrides
