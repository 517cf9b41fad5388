import RouteOverrides.Proofs.Cluster.Lockstep
import RouteOverrides.Proofs.Handler.Errand
import RouteOverrides.Proofs.Handler.Retry
import RouteOverrides.Proofs.Release.Atomicity

/-! # Callers cannot tell the stores apart

Callers do errands over the store in a cluster, or over a store in memory that was filled with what the
cluster holds. All else that they ask for, such as the journal and the signal to stop, is answered by a
world of any kind, from what it was asked so far.

* `ApiServer.Interchangeable` — in every order of turns, the callers get the same from their errands, and
  the stores hold the same after each turn.
* `ApiServer.interchangeable` — this is so for all errands of any callers.
-/

namespace RouteOverrides

open MemoryStore

variable {ι σ τ : Type}

/-- A store serves calls, and a world answers everything else. -/
def serving (serves : (call : StoreCall) → σ → Except Failure call.Reply → σ → Prop)
    (tell : (request : Request) → τ → request.Answer × τ) : Rules (σ × τ)
  | .store call, state, reply, after => serves call state.1 reply after.1 ∧ after.2 = state.2
  | request, state, answer, after => after.1 = state.1 ∧ (answer, after.2) = tell request state.2

theorem serving_iff_of_aside {serves : (call : StoreCall) → σ → Except Failure call.Reply → σ → Prop}
    {tell : (request : Request) → τ → request.Answer × τ} {request : Request} {state after : σ × τ}
    {answer : request.Answer} (aside : ∀ call, request ≠ .store call) :
    serving serves tell request state answer after ↔
      after.1 = state.1 ∧ (answer, after.2) = tell request state.2 := by
  cases request with
  | store call => exact absurd rfl (aside call)
  | _ => rfl

theorem exists_answer_of_serving
    {serves : (call : StoreCall) → σ → Except Failure call.Reply → σ → Prop}
    (tell : (request : Request) → τ → request.Answer × τ)
    (served : ∀ call store, ∃ reply later, serves call store reply later) (request : Request)
    (state : σ × τ) : ∃ answer after, serving serves tell request state answer after := by
  cases request with
  | store call =>
    obtain ⟨reply, later, serves⟩ := served call state.1
    exact ⟨reply, (later, state.2), serves, rfl⟩
  | log _ | record _ _ | report _ | latest _ | interrupted =>
    exact ⟨(tell _ state.2).1, (state.1, (tell _ state.2).2), rfl, rfl⟩

/-- The store in memory serves calls. -/
def MemoryStore.Serves (call : StoreCall) (store : MemoryStore) (reply : Except Failure call.Reply)
    (later : MemoryStore) : Prop := store.answer call = (reply, later)

/-- The store in a cluster serves calls: the server is called, and its reply is read. -/
def ApiServer.Serves (settings : Settings) (call : StoreCall) (server : ApiServer)
    (reply : Except Failure call.Reply) (later : ApiServer) : Prop :=
  ∃ replied, server.Answers (ClusterCall.ofStoreCall settings call) replied later ∧
    reply = call.readReply replied

/-- The stores hold twins, and the worlds are the same. -/
def Beside (twins : Twins) (state : MemoryStore × τ) (stateOther : ApiServer × τ) : Prop :=
  Agree state.1 stateOther.1 twins ∧ state.2 = stateOther.2

theorem answeringAlike (settings : Settings) (tell : (request : Request) → τ → request.Answer × τ) :
    Caller.AnsweringAlike (serving MemoryStore.Serves tell)
      (serving (ApiServer.Serves settings) tell) Beside := by
  constructor
  · rintro twins state stateOther after afterOther call callOther reply replyOther beside calls
      ⟨served, keptWorld⟩ ⟨⟨replied, answers, rfl⟩, keptWorldOther⟩
    obtain ⟨agree, sameWorld⟩ := beside
    obtain ⟨more, grown, replies, agreeThen⟩ := agree.answered calls answers
    rw [served] at replies agreeThen
    exact ⟨more, grown, replies, agreeThen, keptWorld.trans (sameWorld.trans keptWorldOther.symm)⟩
  · rintro twins state stateOther after afterOther request answer answerOther aside beside allowed
      allowedOther
    obtain ⟨agree, sameWorld⟩ := beside
    obtain ⟨keptStore, told⟩ := (serving_iff_of_aside aside).1 allowed
    obtain ⟨keptServer, toldOther⟩ := (serving_iff_of_aside aside).1 allowedOther
    rw [← sameWorld] at toldOther
    obtain ⟨sameAnswer, sameWorldThen⟩ := Prod.mk.inj (told.trans toldOther.symm)
    refine ⟨sameAnswer, ?_, sameWorldThen⟩
    rw [keptStore, keptServer]
    exact agree

namespace ApiServer

variable [DecidableEq ι]

/-- Callers get the same from their errands over either store, whatever the order of their turns. -/
structure Interchangeable (settings : Settings) (server : ApiServer) (objects : List RoutingObject)
    (tell : ι → (request : Request) → τ → request.Answer × τ) (world : τ) (callers : ι → Caller) :
    Prop where
  /-- Turns can be taken in every order over the store in memory. -/
  runs_memory : ∀ order, ∃ last final,
    Caller.Runs (fun party => serving MemoryStore.Serves (tell party)) order callers
      (.ofList objects, world) last final
  /-- Turns can be taken in every order over the store in the cluster. -/
  runs_cluster : ∀ order, ∃ last final,
    Caller.Runs (fun party => serving (Serves settings) (tell party)) order callers
      (server, world) last final
  /-- After turns in the same order the callers have got the same, apart from the texts of conflicts, and
  stores and worlds are the same, apart from the revisions. -/
  same : ∀ order last lastOther store later ended endedOther,
    Caller.Runs (fun party => serving MemoryStore.Serves (tell party)) order callers
      (.ofList objects, world) last (store, ended) →
    Caller.Runs (fun party => serving (Serves settings) (tell party)) order callers
      (server, world) lastOther (later, endedOther) →
    (∀ party, (last party).SameSoFar (lastOther party)) ∧
      List.Forall₂ StandsFor later.manifests store.objects ∧ ended = endedOther

theorem interchangeable {server : ApiServer} {objects : List RoutingObject}
    (holds : server.Holds objects) (settings : Settings)
    (tell : ι → (request : Request) → τ → request.Answer × τ) (world : τ)
    (trackers : ι → List Tracker) (errands : ι → List Errand) :
    Interchangeable settings server objects tell world
      fun party => .starting (trackers party) (errands party) := by
  refine ⟨fun order => ?_, fun order => ?_, ?_⟩
  · refine Caller.exists_run (fun party => exists_answer_of_serving (tell party) ?_) order _ _
    exact fun call store => ⟨_, _, rfl⟩
  · refine Caller.exists_run (fun party => exists_answer_of_serving (tell party) ?_) order _ _
    intro call server
    obtain ⟨reply, later, answers⟩ := server.exists_answer (ClusterCall.ofStoreCall settings call)
    exact ⟨_, later, reply, answers, rfl⟩
  · intro order last lastOther store later ended endedOther run runOther
    have beside : Beside (.ofList objects) (MemoryStore.ofList objects, world) (server, world) :=
      ⟨.start holds, rfl⟩
    obtain ⟨more, alike, agree, sameWorld⟩ :=
      Caller.alike_of_runs (fun party => answeringAlike settings (tell party))
        (fun party => Caller.alike_starting (trackers party) (errands party)) beside run runOther
    exact ⟨fun party => (alike party).sameSoFar, agree.standsFor, sameWorld⟩

/-! ## A shop

The override of the cart has two owners. While one caller has a pass made, asks for statuses and has the
first owner released, another one has the second owner released. -/

def shopObjects : List RoutingObject :=
  Handler.shopStore.objects ++ [Release.cartOverride "team/web,team/api" (some "7")]

def shopSettings : Settings := {}

def shopServer : ApiServer where
  manifests := shopObjects.map fun object =>
    (object.key, Manifest.versioned (object.revision.getD "") (object.toManifest shopSettings))
  issued := shopObjects.map fun object => (object.key, object.revision.getD "")

theorem holds_shopServer : shopServer.Holds shopObjects := by
  have accepted : ∀ (object : RoutingObject) version, RoutingObject.ofManifest
      (Manifest.versioned version (object.toManifest shopSettings)) =
        .ok { object with revision := some version } := by
    intro object version
    have plain := RoutingObject.ofManifest_toManifest shopSettings object
    exact Manifest.ofManifest_versioned plain version
  constructor
  · exact .cons ⟨accepted _ "1", rfl, nofun, List.nodup_nil⟩
      (.cons ⟨accepted _ "7", rfl, nofun, List.nodup_singleton "owners"⟩ .nil)
  · have different : ("prod", "cart") ∉ [("prod", "blue-cart")] := by decide
    exact List.nodup_cons.2 ⟨different, List.nodup_singleton ("prod", "blue-cart")⟩
  · intro object member version carries
    have issued : (object.key, object.revision.getD "") ∈ shopServer.issued :=
      List.mem_map.2 ⟨object, member, rfl⟩
    rw [carries] at issued
    exact issued

def shopErrands : Bool → List Errand
  | false => [⟨Handler.ofShop, 0, .handle⟩, ⟨Handler.ofShop, 0, .statuses none⟩,
      ⟨Handler.ofShop, 0, .release⟩]
  | true => [⟨{ Handler.ofShop with owner := ⟨"team", "api"⟩ }, 0, .release⟩]

theorem interchangeable_shop : shopServer.Holds shopObjects ∧
    Interchangeable shopSettings shopServer shopObjects (fun _ => Surroundings.answerAt 0 true)
      (.ofObjects [] []) (fun party => .starting [.empty] (shopErrands party)) :=
  ⟨holds_shopServer, interchangeable holds_shopServer shopSettings _ _ (fun _ => [.empty]) shopErrands⟩

end ApiServer

end RouteOverrides
