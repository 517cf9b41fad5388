import RouteOverrides.Proofs.Cluster.Manifest
import RouteOverrides.Proofs.Cluster.Script
import RouteOverrides.Proofs.Program.Confinement
import RouteOverrides.Proofs.Release.Attempt

/-! # The patches of a release

Over a cluster, a release sends gets and patches. Each patch comes right after a get and is made from the
manifest that was the reply: it sets the annotations of that manifest, less the owner, and it is conditional
on the version of that manifest, if it has one. Whatever the cluster replies, nothing that was read before
that is ever sent.

* `Release.TakesOff` — what a patch is to a manifest.
* `Release.Sends` — a call that a release may make after some calls.
* `Release.conditional_of_reaches` — the calls of a release, wherever it stops.
-/

namespace RouteOverrides

open Program ScriptedCluster

/-! ## A manifest and its patch -/

namespace Manifest

variable {manifest : Json} {object : RoutingObject}

/-- The version of a manifest as a member, if it has one that is not null. -/
def versionMembers (manifest : Json) : List (String × Json) :=
  match Keyed.find? "resourceVersion" (metadata manifest) with
  | none | some .null => []
  | some version => [("resourceVersion", version)]

/-- An update of an object that was read carries its annotations, and the version if there was one. -/
theorem updateMetadata_of_read (read : RoutingObject.ofManifest manifest = .ok object)
    (annotations : List (String × String)) :
    ClusterCall.updateMetadata { object with annotations := annotations } =
      ("annotations", .obj (textMembers annotations)) :: versionMembers manifest := by
  obtain ⟨-, -, -, readRevision⟩ := metadata_of_read read
  rw [ClusterCall.updateMetadata, versionMembers]
  rcases RoutingObject.version_of_manifestRevision readRevision with found | ⟨found, none⟩
  · rw [found]
    cases object.revision <;> rfl
  · rw [found, none]
    rfl

end Manifest

namespace Release

variable {release : Release} {settings : Settings} {script : List (Except ClusterError Json)}
  {cluster later : ScriptedCluster} {manifest : Json} {object : RoutingObject}
  {calls : List ClusterCall} {call : ClusterCall}

/-- The body of a patch: the annotations of a manifest with the owner taken off, and its version. -/
def patchBody (release : Release) (manifest : Json) (raw : String) : Json :=
  .obj [("metadata", .obj
    (("annotations", .obj (Keyed.put release.key
        (.str ((OwnerSet.parse raw).erase release.owner).encode) (Manifest.annotations manifest))) ::
      Manifest.versionMembers manifest))]

/-- A patch takes the owner off the object of a manifest. -/
structure TakesOff (release : Release) (manifest : Json) (ns name : String) (change : Json) :
    Prop where
  accepted : ∃ object, RoutingObject.ofManifest manifest = .ok object
  ns_eq : ns = Manifest.ns manifest
  name_eq : name = Manifest.name manifest
  /-- The annotation lists the owner, and it is all that the patch changes. -/
  change_eq : ∃ raw, Keyed.find? release.key (Manifest.annotations manifest) = some (.str raw) ∧
    release.owner ∈ (OwnerSet.parse raw).toList ∧ change = release.patchBody manifest raw

theorem takesOff_of_read (read : RoutingObject.ofManifest manifest = .ok object)
    (listed : release.owner ∈ (object.owners release.key).toList) :
    release.TakesOff manifest (release.withoutOwner object).ns (release.withoutOwner object).name
      (.obj [("metadata", .obj (ClusterCall.updateMetadata (release.withoutOwner object)))]) where
  accepted := ⟨object, read⟩
  ns_eq := (Manifest.ns_of_read read).symm
  name_eq := (Manifest.name_of_read read).symm
  change_eq := by
    rw [RoutingObject.owners] at listed
    cases found : Keyed.find? release.key object.annotations with
    | none =>
      rw [found] at listed
      exact absurd listed List.not_mem_nil
    | some raw =>
      have owners : object.owners release.key = OwnerSet.parse raw := by
        rw [RoutingObject.owners, found, Option.getD_some]
      rw [found] at listed
      refine ⟨raw, ?_, listed, ?_⟩
      · rw [Manifest.annotations_of_read read, textMembers, Keyed.find?_map, found, Option.map_some]
      · rw [patchBody, Manifest.annotations_of_read read, put_textMembers, withoutOwner, owners,
          RoutingObject.withOwners, Manifest.updateMetadata_of_read read]

/-! ## Along a release -/

/-- A release makes a call after some calls: it reads the override of a host, or it patches what its last
call has just read. -/
inductive Sends (release : Release) (script : List (Except ClusterError Json)) :
    List ClusterCall → ClusterCall → Prop where
  | reads {before : List ClusterCall} {host : String} (member : host ∈ release.hosts) :
      Sends release script before (.get release.ns (overrideName release.uniqueName host))
  | writes {before : List ClusterCall} {host ns name : String} {manifest change : Json}
      (member : host ∈ release.hosts) (replied : replyAt script before.length = .ok manifest)
      (takesOff : release.TakesOff manifest ns name change) :
      Sends release script (before ++ [.get release.ns (overrideName release.uniqueName host)])
        (.patch ns name change)

/-- What a release promises of its requests to a cluster. -/
def Promises (release : Release) (settings : Settings) (script : List (Except ClusterError Json)) :
    Request → ScriptedCluster → Prop
  | .store call, cluster =>
    release.Sends script cluster.calls (ClusterCall.ofStoreCall settings call)
  | _, _ => True

theorem guarded_played (release : Release) (script : List (Except ClusterError Json)) :
    Guarded (played settings) (release.Promises settings script) (OnScript script) release
      release.hosts where
  kept onScript allowed := onScript.played allowed
  checks _ := trivial
  logs _ _ := trivial
  reads host member _ _ := .reads member
  writes host member cluster object read ready onScript answered allowed listed := by
    obtain ⟨readReply, -⟩ := onScript.answered answered
    cases allowed
    cases replied : replyAt script cluster.calls.length with
    | error error =>
      rw [replied] at readReply
      cases readReply
    | ok manifest =>
      rw [replied] at readReply
      rw [Promises, calls_of_played answered]
      exact .writes member replied (takesOff_of_read readReply.symm listed)

/-! ## All calls of a release -/

/-- Every call is one that the release may make after those before it. -/
def AllSent (release : Release) (script : List (Except ClusterError Json))
    (calls : List ClusterCall) : Prop :=
  ∀ before call, before ++ [call] <+: calls → release.Sends script before call

theorem allSent_nil : release.AllSent script [] := by
  intro before call begins
  cases before <;> cases List.prefix_nil.1 begins

theorem AllSent.append (sent : release.AllSent script calls) (sends : release.Sends script calls call) :
    release.AllSent script (calls ++ [call]) := by
  intro before other begins
  rcases List.prefix_concat_iff.1 begins with same | earlier
  · obtain ⟨rfl, rfl⟩ := List.append_singleton_inj.1 same
    exact sends
  · exact sent before other earlier

theorem AllSent.played {request : Request} {answer : request.Answer}
    (sent : release.AllSent script cluster.calls)
    (promised : release.Promises settings script request cluster)
    (allowed : played settings request cluster answer later) :
    release.AllSent script later.calls := by
  cases request with
  | store call =>
    rw [calls_of_played allowed]
    exact sent.append promised
  | log _ | record _ _ | report _ | latest _ | interrupted =>
    cases allowed
    exact sent

/-- The calls of a release to a cluster that replies by a script. -/
structure Conditional (release : Release) (script : List (Except ClusterError Json))
    (calls : List ClusterCall) : Prop where
  sent : release.AllSent script calls
  /-- Between two patches, the object is read again. -/
  rereads : ∀ before between after ns name change nsToo nameToo changeToo,
    calls = before ++ .patch ns name change :: between ++ .patch nsToo nameToo changeToo :: after →
    ∃ earlier host, between = earlier ++ [.get release.ns (overrideName release.uniqueName host)]
  creates_nothing : ∀ ns manifest, .create ns manifest ∉ calls

/-- The last call before a patch is a get. -/
theorem Sends.patched {ns name : String} {change : Json}
    (sends : release.Sends script calls (.patch ns name change)) :
    ∃ earlier host, calls = earlier ++ [.get release.ns (overrideName release.uniqueName host)] := by
  cases sends with
  | writes => exact ⟨_, _, rfl⟩

theorem AllSent.conditional (sent : release.AllSent script calls) :
    release.Conditional script calls where
  sent := sent
  rereads := by
    rintro before between after ns name change nsToo nameToo changeToo rfl
    have sends := sent (before ++ .patch ns name change :: between) (.patch nsToo nameToo changeToo)
      ⟨after, by simp⟩
    obtain ⟨earlier, host, got⟩ := sends.patched
    -- That get is not the first of the patches, so it is the last call between them.
    rcases between.eq_nil_or_concat' with rfl | ⟨others, last, rfl⟩
    · cases (List.append_singleton_inj.1 got).2
    · rw [← List.cons_append, ← List.append_assoc] at got
      exact ⟨others, host, congrArg (others ++ [·]) (List.append_singleton_inj.1 got).2⟩
  creates_nothing := by
    intro ns manifest member
    obtain ⟨before, after, rfl⟩ := List.append_of_mem member
    cases sent before (.create ns manifest) ⟨after, by simp⟩

/-- Let a cluster reply to a release as it likes, and let the release be told to stop at any time. Every
patch comes right after a get of the override of a host. It takes the owner off the object of the manifest
that was the reply, and it is conditional on the version of that manifest, if there is one. -/
theorem conditional_of_reaches {left : Program (Except Failure (List String))}
    (release : Release) (script : List (Except ClusterError Json))
    (reached : Reaches (played settings) release.perform.run ⟨script, []⟩ left later) :
    release.Conditional script later.calls := by
  have keeps : Keeps (played settings) (release.Promises settings script)
      (fun _ final => OnScript script final) release.perform.run ⟨script, []⟩ :=
    (release.guarded_played script).keeps_forHosts (onScript_start script)
  have step : ∀ request cluster answer after, release.Promises settings script request cluster →
      played settings request cluster answer after →
      release.AllSent script cluster.calls → release.AllSent script after.calls :=
    fun _ _ _ _ promised allowed sent => sent.played promised allowed
  exact (keeps.holds_of_reaches step allSent_nil reached).conditional

/-! ### A patch that is refused

The override has another version by the time of the first patch, and another owner has joined. -/

def webFromCart : Release := ⟨⟨"team", "web"⟩, "blue", "prod", ["cart"], "owners"⟩

def cartManifest (owners version : String) : Json :=
  .obj [("metadata", .obj
    [("name", .str "blue-cart"), ("namespace", .str "prod"), ("resourceVersion", .str version),
      ("annotations", .obj [("note", .str "shared"), ("owners", .str owners)])])]

def cartPatch (owners version : String) : Json :=
  .obj [("metadata", .obj
    [("annotations", .obj [("note", .str "shared"), ("owners", .str owners)]),
      ("resourceVersion", .str version)])]

def refusal : List (Except ClusterError Json) :=
  [.ok (cartManifest "team/web,team/api" "1"), .error ⟨some 409, some "Conflict"⟩,
    .ok (cartManifest "team/web,team/api,team/ops" "2")]

theorem conditional_refused : ∃ left later,
    Reaches (played {}) webFromCart.perform.run ⟨refusal, []⟩ left later ∧
    later.calls =
      [.get "prod" "blue-cart", .patch "prod" "blue-cart" (cartPatch "team/api" "1"),
        .get "prod" "blue-cart", .patch "prod" "blue-cart" (cartPatch "team/api,team/ops" "2")] ∧
    webFromCart.Conditional refusal later.calls := by
  have start : (Surroundings.ofCluster {} refusal).backend = .cluster {} ⟨refusal, []⟩ := rfl
  obtain ⟨later, backed, reached⟩ :=
    Surroundings.reaches_played start true webFromCart.perform.run
  have calls : ((Surroundings.ofCluster {} refusal).runProgram true
      webFromCart.perform.run).2.clusterCalls = later.calls := by
    rw [Surroundings.clusterCalls, backed]
  refine ⟨_, later, reached, ?_, conditional_of_reaches webFromCart refusal reached⟩
  rw [← calls]
  rfl

end Release

end RouteOverrides
