import RouteOverrides.Proofs.Handler.Errand
import RouteOverrides.Proofs.Handler.Requests
import RouteOverrides.Proofs.Handler.Subscription
import RouteOverrides.Proofs.Release.Rewrites

/-! # What handlers may write

Errands may be broken off anywhere: by the signal to stop, by the database, or by a store call that
fails, which may have been carried out nevertheless. As long as nobody else writes, the store stays
within the bounds of the errand at every point of a run.

* `Database.shaky`, `Errand.troubled` — what may happen to the store and to the database.
* `Handler.OnlyAdds` — the objects of a store stay as they are, and overrides of the hosts come after
  them.
* `MemoryStore.Intact` — no object is lost, nor any of its parts but the values of annotations.
* `Errand.within_of_reaches` — each errand stays within its bounds.
-/

namespace RouteOverrides

open Program

/-- A write to the database may fail, whether or not it is carried out. Nobody else writes. -/
def Database.shaky : Rules Database
  | .log entry, database, _, later => later = database ∨ later = (database.log entry).2
  | .record subset status, database, _, later =>
    later = database ∨ later = (database.record subset status).2
  | .store _, database, _, later => later = database
  | .report _, database, _, later => later = database
  | .latest _, database, _, later => later = database
  | .interrupted, database, _, later => later = database

/-! ## Stores that keep their objects -/

/-- What a stored object keeps. The values of its annotations and its revision are open. -/
structure RoutingObject.Survives (before after : RoutingObject) : Prop where
  same_key : after.key = before.key
  same_host : after.host = before.host
  same_labels : after.labels = before.labels
  same_subsets : after.subsets = before.subsets
  keys_kept : ∀ key ∈ Keyed.keys before.annotations, key ∈ Keyed.keys after.annotations

theorem RoutingObject.Survives.refl (object : RoutingObject) : object.Survives object :=
  ⟨rfl, rfl, rfl, rfl, fun _ => id⟩

/-- The objects of a store have survived, each in its place, and others may come after them. -/
def MemoryStore.Intact (start later : MemoryStore) : Prop :=
  ∃ kept added, later.objects = kept ++ added ∧
    List.Forall₂ RoutingObject.Survives start.objects kept

open MemoryStore

theorem Release.Rewrites.survives {release : Release} {before after : RoutingObject}
    (rewrites : release.Rewrites before after) : before.Survives after := by
  rcases rewrites with rfl | ⟨-, same⟩
  · exact .refl _
  · have fields := same.same_fields
    exact
      { same_key := same.key_eq
        same_host := by rw [fields]
        same_labels := by rw [fields]
        same_subsets := by rw [fields]
        keys_kept := fun key present => by rwa [same.same_keys] }

theorem Release.OnlyRewrites.intact {release : Release} {start later : MemoryStore}
    (only : release.OnlyRewrites start later) : Intact start later :=
  ⟨later.objects, [], (List.append_nil _).symm, only.imp fun _ _ rewrites => rewrites.survives⟩

/-! ## Passes -/

namespace Handler

variable {handler : Handler} {late : Bool} {start store later : MemoryStore}

/-- The objects of a store stay as they are and where they are, and behind them come overrides of the
hosts of the handler. -/
def OnlyAdds (handler : Handler) (start later : MemoryStore) : Prop :=
  ∃ added, later.objects = start.objects ++ added ∧
    ∀ object ∈ added, ∃ host ∈ handler.hosts, object.key = (handler.ns, handler.nameFor host)

theorem OnlyAdds.refl (handler : Handler) (store : MemoryStore) : handler.OnlyAdds store store :=
  ⟨[], (List.append_nil _).symm, nofun⟩

theorem OnlyAdds.intact (only : handler.OnlyAdds start later) : Intact start later := by
  obtain ⟨added, grown, -⟩ := only
  exact ⟨start.objects, added, grown, List.forall₂_same.2 fun object _ => .refl object⟩

theorem OnlyAdds.create {object : RoutingObject} (only : handler.OnlyAdds start store)
    (asks : handler.Asks (.store (.create object))) :
    handler.OnlyAdds start (store.answer (.create object)).2 := by
  cases found : store.find? object.ns object.name with
  | some current =>
    rw [answer, found]
    exact only
  | none =>
    obtain ⟨added, grown, named⟩ := only
    rw [answer_create found]
    refine ⟨added ++ [store.stamp object], ?_, ?_⟩
    · rw [objects_put_of_find?_eq_none found, grown, List.append_assoc]
    · rw [List.forall_mem_append, List.forall_mem_singleton]
      exact ⟨named, asks⟩

theorem OnlyAdds.answered {request : Request} {answer : request.Answer}
    (only : handler.OnlyAdds start store) (asks : handler.Asks request)
    (allowed : faulty late request store answer later) : handler.OnlyAdds start later := by
  cases request with
  | log _ | record _ _ | report _ | latest _ | interrupted =>
    cases allowed
    exact only
  | store call =>
    cases call with
    | get ns name => rwa [of_faulty_reads (Request.reads_get ns name) allowed]
    | list ns => rwa [of_faulty_reads (Request.reads_list ns) allowed]
    | create object =>
      rcases of_faulty_call allowed with rfl | rfl
      · exact only
      · exact only.create asks
    | update object => exact asks.elim

theorem onlyAdds_of_reaches {α : Type} {good : α → Prop} {program left : Program α}
    (confined : Program.Confined handler.Asks good program)
    (reached : Reaches (faulty late) program start left later) : handler.OnlyAdds start later :=
  confined.holds_of_reaches (fun _ _ _ _ asks allowed only => only.answered asks allowed)
    (.refl handler start) reached

end Handler

/-! ## Errands -/

namespace Errand

variable {errand : Errand} {trackers : List Tracker} {start later : MemoryStore × Database}

/-- Nobody else writes to the store or to the database. Any request may fail, and one that fails may
have been carried out. Whether the program is told to stop is open at every point. -/
abbrev troubled : Rules (MemoryStore × Database) := bothRules (faulty true) Database.shaky

/-- What an errand may make of a store and a database. -/
def Within (errand : Errand) (start later : MemoryStore × Database) : Prop :=
  match errand.task with
  | .handle => errand.handler.OnlyAdds start.1 later.1
  | .statuses _ => later = start
  | .release => errand.handler.toRelease.OnlyRewrites start.1 later.1

theorem Within.intact (within : errand.Within start later) : Intact start.1 later.1 := by
  obtain ⟨handler, tracker, task⟩ := errand
  cases task with
  | handle => exact Handler.OnlyAdds.intact within
  | statuses ignored =>
    cases within
    exact (Handler.OnlyAdds.refl handler start.1).intact
  | release => exact Release.OnlyRewrites.intact within

theorem eq_of_reads {request : Request} {answer : request.Answer} (reads : request.Reads)
    (allowed : troubled request start answer later) : later = start := by
  obtain ⟨inStore, inDatabase⟩ := allowed
  refine Prod.ext (of_faulty_reads reads inStore) ?_
  cases request with
  | log _ | record _ _ => exact reads.elim
  | store _ | report _ | latest _ | interrupted => exact inDatabase

theorem confined_statuses (handler : Handler) (tracker : Nat) (ignored : Option (List String))
    (trackers : List Tracker) :
    Program.Confined Request.Reads (fun ended => ended.2 = trackers)
      (Errand.program ⟨handler, tracker, .statuses ignored⟩ trackers) :=
  Program.Confined.bind (handler.confined_statusesOf _ handler.hosts) fun _ _ => rfl

/-- Wherever an errand stops, it stays within its bounds. A pass adds overrides of its hosts and leaves
every object as it was. A report changes nothing, not even the trackers of its caller. A release changes
the owners of overrides of its hosts, and their revisions. So no errand loses an object or an annotation,
or changes the host, the labels or the subsets of an object. -/
theorem within_of_reaches (errand : Errand) (trackers : List Tracker)
    (start later : MemoryStore × Database) (left : Program Ended)
    (reached : Reaches troubled (errand.program trackers) start left later) :
    errand.Within start later ∧ Intact start.1 later.1 ∧
      ∀ ignored result after, errand.task = .statuses ignored → left = .done (result, after) →
        after = trackers := by
  have inStore : Reaches (faulty true) (errand.program trackers) start.1 left later.1 :=
    reached.map fun _ _ _ _ => And.left
  obtain ⟨handler, tracker, task⟩ := errand
  have within : Within ⟨handler, tracker, task⟩ start later := by
    cases task with
    | handle =>
      have confined : Program.Confined handler.Asks (fun _ => True)
          (Errand.program ⟨handler, tracker, .handle⟩ trackers) :=
        Program.Confined.bind (handler.confined_handle _) fun _ _ => trivial
      exact Handler.onlyAdds_of_reaches confined inStore
    | statuses ignored =>
      have step : ∀ request (state : MemoryStore × Database) answer after, Request.Reads request →
          troubled request state answer after → state = start → after = start :=
        fun _ _ _ _ reads allowed same => (eq_of_reads reads allowed).trans same
      exact (confined_statuses handler tracker ignored trackers).holds_of_reaches step rfl reached
    | release =>
      have keeps : Keeps (faulty true) handler.toRelease.Asks (fun _ _ => True)
          (Errand.program ⟨handler, tracker, .release⟩ trackers) start.1 :=
        keeps_bind.2 (handler.toRelease.keeps_perform_asks start.1)
      exact Release.onlyRewrites_of_reaches keeps inStore
  refine ⟨within, within.intact, ?_⟩
  rintro ignored result after rfl rfl
  exact (confined_statuses handler tracker ignored trackers).good_of_reaches reached

theorem troubled_pair {request : Request} {answer : request.Answer}
    {store laterStore : MemoryStore} {database laterDatabase : Database}
    (inStore : faulty true request store answer laterStore)
    (inDatabase : Database.shaky request database answer laterDatabase) :
    troubled request (store, database) answer (laterStore, laterDatabase) := ⟨inStore, inDatabase⟩

/-- The store creates an override, but the reply is lost. -/
theorem within_after_lost_create :
    ∃ later, Reaches troubled (Errand.program ⟨Handler.ofTeam "web", 0, .handle⟩ [])
        (Handler.cartStore, .fresh)
        (.done (.error (.atStore "cart" "create routing object blue-cart" (.foreign .timeout "lost")),
          [])) later ∧
      later.1.objects.map RoutingObject.key = [("prod", "cart"), ("prod", "blue-cart")] ∧
      (Handler.ofTeam "web").OnlyAdds Handler.cartStore later.1 ∧
      Intact Handler.cartStore later.1 := by
  have reached : Reaches troubled (Errand.program ⟨Handler.ofTeam "web", 0, .handle⟩ [])
      (Handler.cartStore, .fresh)
      (.done (.error (.atStore "cart" "create routing object blue-cart" (.foreign .timeout "lost")),
        []))
      ((Handler.ofTeam "web").storeAfter Handler.cartStore "cart",
        ((Database.fresh.record "blue" ⟨"blue-cart", "prod", .initializing⟩).2.log
          ((Handler.ofTeam "web").deployEntry "cart")).2) :=
    .answered false (troubled_pair rfl rfl) <|
    .answered (.error (.notFound "prod/blue-cart")) (troubled_pair (.inl ⟨rfl, rfl⟩) rfl) <|
    .answered (.ok ()) (troubled_pair rfl (.inr rfl)) <|
    .answered false (troubled_pair rfl rfl) <|
    .answered (.ok (Handler.cartStore.inNamespace "prod")) (troubled_pair (.inl ⟨rfl, rfl⟩) rfl) <|
    .answered (.ok ()) (troubled_pair rfl (.inr rfl)) <|
    .answered false (troubled_pair rfl rfl) <|
    .answered (.error (.foreign .timeout "lost"))
      (troubled_pair (.inr ⟨_, rfl, .inr ⟨rfl, rfl⟩⟩) rfl) <| .here
  have within := within_of_reaches _ _ _ _ _ reached
  exact ⟨_, reached, rfl, within.1, within.2.1⟩

end Errand

end RouteOverrides
