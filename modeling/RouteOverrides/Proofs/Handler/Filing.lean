import RouteOverrides.Proofs.Database.StatusTable
import RouteOverrides.Proofs.Handler.Requests
import RouteOverrides.Proofs.Handler.Retry
import RouteOverrides.Proofs.Handler.Subscription

/-! # What a handler writes to the status table

A pass writes a first status for each host whose override it misses, and nothing else. A report after
it finds the override of every host that was available, and the hosts that the pass has ignored are the
others. So the statuses of the report are told by the store before the pass.

* `StatusTable.filing` — the table takes every status; all else is open.
* `StatusTable.keeps_of_unfiled` — who writes nothing to the table leaves it as it is.
* `Handler.firstStatuses`, `Handler.settled` — the statuses of a pass, and of the report after it.
* `Handler.keeps_handle_filed` — a pass, its store and its table.
* `Handler.holds_storeAfterAll` — the overrides that are there after a pass.
-/

namespace RouteOverrides

open Program MemoryStore

variable {α β : Type} {table : StatusTable}

/-! ## The table alone -/

/-- The status table works. What all else answers is open. -/
def StatusTable.filing : Rules StatusTable
  | .record subset status, table, answer, later =>
    answer = .ok () ∧ later = table.record subset status
  | .report subset, table, answer, later => answer = .ok (table.report subset) ∧ later = table
  | .store _, table, _, later => later = table
  | .log _, table, _, later => later = table
  | .latest _, table, _, later => later = table
  | .interrupted, table, _, later => later = table

open StatusTable

/-- A request that writes nothing to the status table. -/
def Request.Unfiled : Request → Prop
  | .record _ _ => False
  | _ => True

theorem Request.unfiled_of_reads {request : Request} (reads : request.Reads) : request.Unfiled := by
  cases request with
  | record _ _ => exact reads.elim
  | store _ | log _ | report _ | latest _ | interrupted => trivial

/-- A program that writes nothing to the status table leaves it as it is. -/
theorem StatusTable.keeps_of_unfiled {good : α → Prop} {program : Program α}
    (confined : Confined Request.Unfiled good program) (table : StatusTable) :
    Keeps filing (fun _ _ => True) (fun _ later => later = table) program table := by
  have step : ∀ request (state : StatusTable) answer after, request.Unfiled →
      filing request state answer after → state = table → after = table := by
    rintro request state answer after unfiled allowed rfl
    cases request with
    | record _ _ => exact unfiled.elim
    | report _ => exact allowed.2
    | store _ | log _ | latest _ | interrupted => exact allowed
  exact (confined.keeps_holding step rfl).mono fun _ _ => And.right

namespace Handler

variable {handler : Handler} {store : MemoryStore} {host : String} {hosts : List String}
  {tracker : Tracker}

theorem unfiled_present (handler : Handler) (host : String) :
    (handler.present host).Confined Request.Unfiled :=
  (confined_present handler host).mono fun _ => Request.unfiled_of_reads

theorem unfiled_statusesOf (handler : Handler) (ignored hosts : List String) :
    (handler.statusesOf ignored hosts).Confined Request.Unfiled :=
  (confined_statusesOf handler ignored hosts).mono fun _ => Request.unfiled_of_reads

/-- The status that is written before the override of a host is created. -/
def firstStatus (handler : Handler) (host : String) : ResourceStatus :=
  ⟨handler.nameFor host, handler.ns, .initializing⟩

theorem files_createMissing (handler : Handler) (host : String) (tracker : Tracker)
    (table : StatusTable) : Keeps filing (fun _ _ => True)
      (fun _ later => later = table.record handler.uniqueName (handler.firstStatus host))
      ((handler.createMissing host).outcome tracker) table := by
  obtain ⟨rest, unfiled, cut⟩ := exists_createMissing_eq
    (fun _ => Request.unfiled_of_reads) (fun _ => trivial) fun _ _ => trivial
  rw [cut]
  refine Pass.keeps_ofAction_bind.2 (keeps_blaming.2 ⟨trivial, ?_⟩)
  rintro _ _ ⟨rfl, rfl⟩
  exact keeps_of_unfiled (unfiled tracker) _

/-! ## The store and the table -/

/-- The statuses that visits to some hosts write. -/
def firstStatuses (handler : Handler) : MemoryStore → List String → List ResourceStatus
  | _, [] => []
  | store, host :: rest =>
    (if handler.holds store host then [] else [handler.firstStatus host]) ++
      firstStatuses handler (handler.storeAfter store host) rest

/-- A store in memory that nobody else uses, and a status table. Both work, and no program is told to
stop. -/
abbrev desk : Rules (MemoryStore × StatusTable) := bothRules (exact true) filing

theorem keeps_visit_filed (handler : Handler) (store : MemoryStore) (table : StatusTable)
    (tracker : Tracker) (host : String) :
    Keeps desk (fun _ _ => True)
      (fun ended after => ended = (.ok (), handler.trackerAfter store tracker host) ∧
        after = (handler.storeAfter store host,
          table.recordAll handler.uniqueName (handler.firstStatuses store [host])))
      ((handler.visit host).outcome tracker) (store, table) := by
  refine Pass.keeps_ofAction_bind.2
    (((ends_present handler store host).both (keeps_of_unfiled (unfiled_present handler host) table)).mono ?_)
  rintro result ⟨ready, _⟩ ⟨ended, rfl⟩
  cases result with
  | error failure => cases ended.1
  | ok present =>
    obtain ⟨rfl, same : ready = store⟩ := ended
    subst ready
    -- What a host becomes is known of the store alone and of the table alone; both hold together.
    cases held : handler.holds store host with
    | true =>
      have noted : handler.trackerAfter store tracker host = tracker.markActive host :=
        trackerAfter_of_available (available_of_holds held)
      rw [noted, storeAfter_of_holds held, firstStatuses, held]
      exact ⟨rfl, rfl⟩
    | false =>
      refine ((keeps_createMissing held).both (files_createMissing handler host tracker _)).mono ?_
      rintro ⟨result, noted⟩ ⟨_, _⟩ ⟨visited, rfl⟩
      cases result with
      | error failure => cases visited.1
      | ok _ =>
        obtain ⟨rfl, rfl⟩ := visited
        rw [firstStatuses, held]
        exact ⟨rfl, rfl⟩

theorem keeps_visitAll_filed (handler : Handler) (store : MemoryStore) (table : StatusTable)
    (tracker : Tracker) (hosts : List String) :
    Keeps desk (fun _ _ => True)
      (fun ended after => ended = (.ok (), handler.trackerAfterAll store tracker hosts) ∧
        after = (handler.storeAfterAll store hosts,
          table.recordAll handler.uniqueName (handler.firstStatuses store hosts)))
      ((handler.visitAll hosts).outcome tracker) (store, table) := by
  induction hosts generalizing store table tracker with
  | nil => exact ⟨rfl, rfl⟩
  | cons host rest inductionHypothesis =>
    rw [visitAll, Pass.keeps_bind]
    refine (keeps_visit_filed handler store table tracker host).mono ?_
    rintro _ _ ⟨rfl, rfl⟩
    refine (inductionHypothesis _ _ _).mono ?_
    rintro _ _ ⟨rfl, rfl⟩
    -- The hosts to come are judged by the store that this visit leaves.
    have written : handler.firstStatuses store (host :: rest) =
        handler.firstStatuses store [host] ++
          handler.firstStatuses (handler.storeAfter store host) rest := by
      simp [firstStatuses]
    rw [written, recordAll_append]
    exact ⟨rfl, rfl⟩

theorem keeps_handle_filed (handler : Handler) (store : MemoryStore) (table : StatusTable)
    (tracker : Tracker) :
    Keeps desk (fun _ _ => True)
      (fun ended after =>
        ended = (handler.undisturbed store tracker, handler.trackerSeen store tracker) ∧
        after = (handler.storeAfterAll store handler.hosts,
          table.recordAll handler.uniqueName (handler.firstStatuses store handler.hosts)))
      (handler.handle.outcome tracker) (store, table) := by
  rw [handle, Pass.keeps_note_bind, Pass.keeps_bind]
  refine (keeps_visitAll_filed handler store table _ handler.hosts).mono ?_
  rintro _ _ ⟨rfl, rfl⟩
  dsimp only
  rw [Pass.keeps_tracker_bind]
  split
  · rename_i nobody
    have ended : handler.Handled true store tracker (.error (.noActiveHost handler.uniqueName
        (handler.trackerSeen store tracker).ignored), handler.trackerSeen store tracker)
        (handler.storeAfterAll store handler.hosts) := .inr ⟨List.isEmpty_iff.1 nobody, rfl, rfl⟩
    refine Pass.keeps_ofAction_bind.2 (((ends_log _).both (keeps_of_unfiled
      (Action.confined_log trivial) _)).mono ?_)
    rintro result ⟨_, _⟩ ⟨logged, rfl⟩
    cases result with
    | error failure => cases logged.1
    | ok _ =>
      cases logged.2
      rw [← (undisturbed_of_handled ended).1]
      exact ⟨rfl, rfl⟩
  · rename_i somebody
    have ended : handler.Handled true store tracker
        (.ok (handler.trackerSeen store tracker).result, handler.trackerSeen store tracker)
        (handler.storeAfterAll store handler.hosts) :=
      ⟨fun none => somebody (List.isEmpty_iff.2 none), rfl, rfl⟩
    rw [← (undisturbed_of_handled ended).1]
    exact ⟨rfl, rfl⟩

/-! ## The report after a pass -/

/-- The statuses of some hosts, as the store tells them. A host without an override is reported as
ignored if it is one of `ignored`. -/
def statusesIn (handler : Handler) (store : MemoryStore) (ignored hosts : List String) :
    List ResourceStatus :=
  hosts.map fun host => ⟨handler.nameFor host, handler.ns,
    Lifecycle.of (handler.holds store host) (ignored.contains host)⟩

theorem keeps_statusesOf_filed (handler : Handler) (store : MemoryStore) (table : StatusTable)
    (ignored hosts : List String) :
    Keeps desk (fun _ _ => True)
      (fun result after => result = .ok (handler.statusesIn store ignored hosts) ∧
        after = (store, table))
      (handler.statusesOf ignored hosts).run (store, table) := by
  have read : Keeps (exact true) (fun _ _ => True)
      (Ends true store (handler.statusesIn store ignored hosts) store)
      (handler.statusesOf ignored hosts).run store := by
    induction hosts with
    | nil => exact ⟨rfl, rfl⟩
    | cons host rest inductionHypothesis =>
      refine keeps_bind_of_ends (ends_present handler store host) nofun ?_
      refine keeps_bind_of_ends inductionHypothesis nofun ?_
      exact ⟨rfl, rfl⟩
  refine (read.both (keeps_of_unfiled (unfiled_statusesOf handler ignored hosts) table)).mono ?_
  rintro result ⟨_, _⟩ ⟨ended, rfl⟩
  cases result with
  | error failure => cases ended.1
  | ok statuses =>
    obtain ⟨rfl, same⟩ := ended
    exact ⟨rfl, Prod.ext same rfl⟩

theorem keeps_publish_filed (handler : Handler) (store : MemoryStore) (table : StatusTable)
    (statuses : List ResourceStatus) :
    Keeps desk (fun _ _ => True)
      (fun result after => result = .ok () ∧
        after = (store, table.recordAll handler.uniqueName statuses))
      (handler.publish statuses).run (store, table) := by
  induction statuses generalizing table with
  | nil => exact ⟨rfl, rfl⟩
  | cons status rest inductionHypothesis =>
    refine keeps_run_bind.2 ⟨trivial, ?_⟩
    rintro _ ⟨_, _⟩ ⟨⟨-, rfl⟩, rfl, written : _ = table.record handler.uniqueName status⟩
    cases written
    exact inductionHypothesis _

/-- A pass leaves overrides for those of its hosts that were available. -/
theorem holds_storeAfterAll (member : host ∈ hosts) :
    handler.holds (handler.storeAfterAll store hosts) host = handler.available store host := by
  cases available : handler.available store host with
  | true =>
    obtain ⟨object, found⟩ := exists_find?_storeAfterAll member available
    rw [holds, found, Option.isSome_some]
  | false =>
    rw [Bool.eq_false_iff]
    intro held
    have availableLater := available_of_holds held
    rw [available_storeAfterAll, available] at availableLater
    cases availableLater

/-- The status of a host that has an override or is ignored. -/
def settled (handler : Handler) (store : MemoryStore) (host : String) : ResourceStatus :=
  ⟨handler.nameFor host, handler.ns,
    if handler.holds store host then .running else .ignoredMissing⟩

theorem status_settled (handler : Handler) (store : MemoryStore) (host : String) :
    ((handler.settled store host).status = .running ↔ handler.holds store host = true) ∧
    ((handler.settled store host).status = .ignoredMissing ↔ handler.holds store host = false) := by
  rw [settled]
  cases handler.holds store host <;> simp

theorem statusesIn_eq_settled {ignored : List String}
    (noted : ∀ host ∈ hosts, handler.holds store host = false → host ∈ ignored) :
    handler.statusesIn store ignored hosts = hosts.map (handler.settled store) := by
  refine List.map_congr_left fun host member => ?_
  rw [settled]
  cases held : handler.holds store host with
  | true => rfl
  | false =>
    rw [List.contains_iff_mem.2 (noted host member held)]
    rfl

/-- A pass with a new tracker ignores those of its hosts that were not available. -/
theorem mem_ignored_trackerSeen : host ∈ (handler.trackerSeen store .empty).ignored ↔
    host ∈ handler.hosts ∧ handler.available store host = false := by
  rw [ignored_trackerSeen, newlyIgnored, Tracker.empty, List.nil_append, List.mem_eraseDups,
    List.mem_filter, ignoresAnew]
  simp [Tracker.isIgnored]

theorem mem_reported : host ∈ handler.reported store .empty ↔
    host ∈ handler.hosts ∧ handler.available store host = false := by
  rw [reported, List.mem_filter, ← ignored_trackerSeen, mem_ignored_trackerSeen]
  refine and_iff_left_of_imp ?_
  rintro ⟨-, missing⟩
  simp [missing]

/-! ## The same pass again -/

theorem storeAfterAll_of_fixed (fixed : ∀ host ∈ hosts, handler.storeAfter store host = store) :
    handler.storeAfterAll store hosts = store := by
  induction hosts with
  | nil => rfl
  | cons host rest inductionHypothesis =>
    rw [List.forall_mem_cons] at fixed
    rw [storeAfterAll, List.foldl_cons, fixed.1]
    exact inductionHypothesis fixed.2

/-- A second pass finds nothing to create. -/
theorem storeAfterAll_storeAfterAll (handler : Handler) (store : MemoryStore)
    (hosts : List String) :
    handler.storeAfterAll (handler.storeAfterAll store hosts) hosts =
      handler.storeAfterAll store hosts := by
  refine storeAfterAll_of_fixed fun host member => ?_
  -- A host that was available has its override by now; for any other there is still no baseline.
  have held : handler.holds (handler.storeAfterAll store hosts) host = handler.available store host :=
    holds_storeAfterAll member
  cases available : handler.available store host with
  | true => exact storeAfter_of_holds (held.trans available)
  | false =>
    have unavailable : handler.available (handler.storeAfterAll store hosts) host = false := by
      rw [available_storeAfterAll, available]
    rw [available_of_missing (held.trans available)] at unavailable
    exact storeAfter_of_no_baseline (Option.isSome_eq_false_iff.1 unavailable |>
      Option.isNone_iff_eq_none.1)

/-- A pass writes about its own hosts only. -/
theorem name_of_mem_firstStatuses {status : ResourceStatus}
    (member : status ∈ handler.firstStatuses store hosts) :
    ∃ host ∈ hosts, status.name = handler.nameFor host := by
  induction hosts generalizing store with
  | nil => cases member
  | cons host rest inductionHypothesis =>
    rw [firstStatuses, List.mem_append] at member
    rcases member with here | later
    · split at here
      · cases here
      · cases List.mem_singleton.1 here
        exact ⟨host, List.mem_cons_self, rfl⟩
    · obtain ⟨other, there, same⟩ := inductionHypothesis later
      exact ⟨other, List.mem_cons_of_mem _ there, same⟩

end Handler

end RouteOverrides
