import RouteOverrides.Proofs.Api.Reconcile
import RouteOverrides.Proofs.Handler.Filing

/-! # What a request to see to overrides publishes

Over a store in memory that nobody else uses, a pass, the report after it and the statuses that are
published are told by the store before the request. So is the response, and a second request finds
everything settled.

* `Api.keeps_reconcile_filed` — the response, the store and the table.
* `Surroundings.run_desk` — the same of a run in quiet surroundings; only the journal grows.
* `Api.Published` — what the table says after a request, and what the response says of it.
* `App.published_after_reconcile` — it says so after every request that is answered 200 or 409.
* `App.reconcile_again` — a second request changes nothing but the journal.
-/

namespace RouteOverrides

open Program MemoryStore

/-! ## What is done and answered -/

namespace Api

open Handler

variable {settings : Settings} {handler : Handler} {store : MemoryStore} {table : StatusTable}
  {form : OverrideForm} {user host : String} {status : ResourceStatus}

/-- The statuses that are published for the hosts of a handler. -/
def statusesAfter (handler : Handler) (store : MemoryStore) : List ResourceStatus :=
  handler.hosts.map (handler.settled (handler.storeAfterAll store handler.hosts))

/-- The status table after a request: a pass has written its statuses, and then all are published. -/
def tableAfter (handler : Handler) (store : MemoryStore) (table : StatusTable) : StatusTable :=
  table.recordAll handler.uniqueName
    (handler.firstStatuses store handler.hosts ++ statusesAfter handler store)

/-- The response to a request. -/
def answerTo (handler : Handler) (store : MemoryStore) : HttpResponse :=
  match handler.undisturbed store .empty with
  | .ok result => .ok (reconciled handler result (statusesAfter handler store))
  | .error failure => .detail 409 failure.message

/-- The statuses that are reported after a pass, whichever hosts are ignored besides. -/
theorem keeps_report_filed {ignored : List String}
    (noted : ∀ host ∈ handler.hosts, handler.available store host = false → host ∈ ignored)
    (table : StatusTable) :
    Keeps desk (fun _ _ => True)
      (fun result after => result = .ok (statusesAfter handler store) ∧
        after = (handler.storeAfterAll store handler.hosts, table))
      (handler.statuses ignored).run (handler.storeAfterAll store handler.hosts, table) := by
  have same : handler.statusesIn (handler.storeAfterAll store handler.hosts) ignored handler.hosts =
      statusesAfter handler store := by
    refine statusesIn_eq_settled fun host member missing => noted host member ?_
    rw [← holds_storeAfterAll member, missing]
  rw [← same]
  exact handler.keeps_statusesOf_filed _ table ignored handler.hosts

theorem keeps_finish_filed {result : PassResult}
    (ignored : result.ignored = handler.reported store .empty) (table : StatusTable) :
    Keeps desk (fun _ _ => True)
      (fun answer after =>
        answer = .ok (.ok (reconciled handler result (statusesAfter handler store))) ∧
        after = (handler.storeAfterAll store handler.hosts,
          table.recordAll handler.uniqueName (statusesAfter handler store)))
      (finish handler result).run (handler.storeAfterAll store handler.hosts, table) := by
  have noted : ∀ host ∈ handler.hosts, handler.available store host = false →
      host ∈ result.ignored := by
    intro host member missing
    rw [ignored, mem_reported]
    exact ⟨member, missing⟩
  refine keeps_settle_bind.2 ((keeps_report_filed noted table).mono ?_)
  rintro _ _ ⟨rfl, rfl⟩
  refine keeps_run_bind.2 ((handler.keeps_publish_filed _ _ _).mono ?_)
  rintro _ _ ⟨rfl, rfl⟩
  exact ⟨rfl, rfl⟩

theorem keeps_finishWithout_filed (store : MemoryStore) (table : StatusTable) (failure : Failure) :
    Keeps desk (fun _ _ => True)
      (fun answer after => answer = .ok (.detail 409 failure.message) ∧
        after = (handler.storeAfterAll store handler.hosts,
          table.recordAll handler.uniqueName (statusesAfter handler store)))
      (finishWithout handler (handler.trackerSeen store .empty) failure).run
      (handler.storeAfterAll store handler.hosts, table) := by
  have noted : ∀ host ∈ handler.hosts, handler.available store host = false →
      host ∈ (handler.trackerSeen store .empty).ignored :=
    fun host member missing => mem_ignored_trackerSeen.2 ⟨member, missing⟩
  refine keeps_settle_bind.2 (keeps_run_bind.2 ((keeps_report_filed noted table).mono ?_))
  rintro _ _ ⟨rfl, rfl⟩
  refine (handler.keeps_publish_filed _ _ _).mono ?_
  rintro _ _ ⟨rfl, rfl⟩
  exact ⟨rfl, rfl⟩

theorem keeps_reconcile_filed (created : Handler.create? settings form.options = .ok handler)
    (store : MemoryStore) (table : StatusTable) (user : String) :
    Keeps desk (fun _ _ => True)
      (fun answer after => answer = .ok (answerTo handler store) ∧
        after = (handler.storeAfterAll store handler.hosts, tableAfter handler store table))
      (reconcile settings user form).run (store, table) := by
  rw [reconcile, created, tableAfter, StatusTable.recordAll_append]
  refine keeps_log.2 ⟨trivial, ?_⟩
  rintro answer after ⟨⟨works, sameStore⟩, sameTable⟩
  obtain rfl : after = (store, table) := Prod.ext sameStore sameTable
  cases works rfl
  refine keeps_ofProgram_bind.2 ((handler.keeps_handle_filed store table .empty).mono ?_)
  rintro _ _ ⟨rfl, rfl⟩
  dsimp only
  by_cases nobody : handler.hosts.filter (handler.available store) = []
  · have outcome : handler.undisturbed store .empty =
        .error (.noActiveHost handler.uniqueName (handler.reported store .empty)) := if_pos nobody
    rw [answerTo, outcome]
    exact keeps_finishWithout_filed store _ _
  · have outcome : handler.undisturbed store .empty =
        .ok ⟨handler.hosts.filter (handler.available store), handler.reported store .empty⟩ :=
      if_neg nobody
    rw [answerTo, outcome]
    exact keeps_finish_filed rfl _

/-! ### What the table says -/

/-- Whether the record of a name under a subset is about a host of a handler. -/
def concerns (handler : Handler) (key : String × String) : Bool :=
  key.1 == handler.uniqueName && handler.hosts.any fun host => handler.nameFor host == key.2

theorem concerns_iff {key : String × String} : concerns handler key = true ↔
    key.1 = handler.uniqueName ∧ ∃ host ∈ handler.hosts, handler.nameFor host = key.2 := by
  simp only [concerns, Bool.and_eq_true, beq_iff_eq, List.any_eq_true]

/-- What the status table says after a request, and what the response says of it. -/
structure Published (handler : Handler) (response : HttpResponse) (final : MemoryStore)
    (table later : StatusTable) : Prop where
  /-- Each host has one record. It is running if its override is there, and otherwise ignored. -/
  recorded : ∀ host ∈ handler.hosts, ∃ place,
    later.recordsOf handler.uniqueName (handler.nameFor host) =
      [⟨handler.uniqueName, handler.settled final host, place⟩]
  /-- All other records are as they were, in their order. -/
  others : (later.records.filter fun record => !concerns handler record.key) =
    table.records.filter fun record => !concerns handler record.key
  /-- A response without an error sends these statuses, host by host, and says the same by the hosts
  that are active and those that are ignored. -/
  answered : response.status = 200 → ∃ result,
    response = .ok (reconciled handler result (handler.hosts.map (handler.settled final))) ∧
    ∀ host ∈ handler.hosts,
      (host ∈ result.active ↔ (handler.settled final host).status = .running) ∧
      (host ∈ result.ignored ↔ (handler.settled final host).status = .ignoredMissing)
  /-- After a conflict all hosts are ignored. -/
  refused : response.status = 409 →
    ∀ host ∈ handler.hosts, (handler.settled final host).status = .ignoredMissing

theorem eq_of_mem_statusesAfter {other : ResourceStatus}
    (member : status ∈ statusesAfter handler store)
    (there : other ∈ statusesAfter handler store) (sameName : other.name = status.name) :
    other = status := by
  obtain ⟨host, -, rfl⟩ := List.mem_map.1 member
  obtain ⟨another, -, rfl⟩ := List.mem_map.1 there
  rw [nameFor_inj.1 sameName]

/-- What is published is what the table says afterwards. -/
theorem shows_tableAfter (table : StatusTable) (member : status ∈ statusesAfter handler store) :
    (tableAfter handler store table).Shows handler.uniqueName status := by
  -- What a pass has written before does not count any more.
  rw [tableAfter, StatusTable.recordAll_append]
  exact StatusTable.shows_recordAll member (fun _ => eq_of_mem_statusesAfter member) _ _

theorem name_of_mem_written (member : status ∈
    handler.firstStatuses store handler.hosts ++ statusesAfter handler store) :
    ∃ host ∈ handler.hosts, status.name = handler.nameFor host := by
  rcases List.mem_append.1 member with first | published
  · exact name_of_mem_firstStatuses first
  · obtain ⟨host, there, rfl⟩ := List.mem_map.1 published
    exact ⟨host, there, rfl⟩

theorem concerns_of_mem_written (member : status ∈
    handler.firstStatuses store handler.hosts ++ statusesAfter handler store) :
    concerns handler (handler.uniqueName, status.name) = true := by
  obtain ⟨host, there, same⟩ := name_of_mem_written member
  exact concerns_iff.2 ⟨rfl, host, there, same.symm⟩

theorem status_of_available (member : host ∈ handler.hosts) :
    ((handler.settled (handler.storeAfterAll store handler.hosts) host).status = .running ↔
      handler.available store host = true) ∧
    ((handler.settled (handler.storeAfterAll store handler.hosts) host).status = .ignoredMissing ↔
      handler.available store host = false) := by
  rw [← holds_storeAfterAll member]
  exact status_settled handler _ host

theorem published_tableAfter (handler : Handler) (store : MemoryStore) (distinct : table.Distinct) :
    Published handler (answerTo handler store) (handler.storeAfterAll store handler.hosts) table
      (tableAfter handler store table) := by
  have alone : (tableAfter handler store table).Distinct :=
    StatusTable.distinct_recordAll distinct _ _
  have others : ∀ status ∈ handler.firstStatuses store handler.hosts ++ statusesAfter handler store,
      (!concerns handler (handler.uniqueName, status.name)) = false := by
    intro status member
    rw [concerns_of_mem_written member, Bool.not_true]
  have recorded : ∀ host ∈ handler.hosts, ∃ place,
      (tableAfter handler store table).recordsOf handler.uniqueName (handler.nameFor host) =
        [⟨handler.uniqueName, handler.settled (handler.storeAfterAll store handler.hosts) host,
          place⟩] :=
    fun host member => (shows_tableAfter table (List.mem_map_of_mem member)).eq_singleton alone
  have unchanged := StatusTable.filter_recordAll table (fun key => !concerns handler key) others
  -- The response is a conflict if no host was available, and without an error otherwise.
  by_cases nobody : handler.hosts.filter (handler.available store) = []
  · have answer : answerTo handler store = .detail 409 (Failure.noActiveHost handler.uniqueName
        (handler.reported store .empty)).message := by
      rw [answerTo, undisturbed, if_pos nobody]
    refine ⟨recorded, unchanged, fun status => ?_, fun _ host member => ?_⟩
    · rw [answer] at status
      cases status
    · have missing := List.filter_eq_nil_iff.1 nobody host member
      exact (status_of_available member).2.2 (Bool.not_eq_true _ ▸ missing)
  · have answer : answerTo handler store = .ok (reconciled handler
        ⟨handler.hosts.filter (handler.available store), handler.reported store .empty⟩
        (statusesAfter handler store)) := by
      rw [answerTo, undisturbed, if_neg nobody]
    refine ⟨recorded, unchanged, fun _ => ⟨_, answer, fun host member => ⟨?_, ?_⟩⟩, fun status => ?_⟩
    · rw [(status_of_available member).1, List.mem_filter]
      exact and_iff_right member
    · rw [(status_of_available member).2, mem_reported]
      exact and_iff_right member
    · rw [answer] at status
      cases status

/-! ### The same request again -/

theorem statusesAfter_again (handler : Handler) (store : MemoryStore) :
    statusesAfter handler (handler.storeAfterAll store handler.hosts) =
      statusesAfter handler store := by
  rw [statusesAfter, storeAfterAll_storeAfterAll, statusesAfter]

theorem answerTo_again (handler : Handler) (store : MemoryStore) :
    answerTo handler (handler.storeAfterAll store handler.hosts) = answerTo handler store := by
  have available := funext (available_storeAfterAll handler store handler.hosts)
  rw [answerTo, undisturbed_congr available, statusesAfter_again, answerTo]

/-- Overrides that are not there pass through their first status once more, and end where they were. -/
theorem tableAfter_again (handler : Handler) (store : MemoryStore) (table : StatusTable) :
    tableAfter handler (handler.storeAfterAll store handler.hosts) (tableAfter handler store table) =
      tableAfter handler store table := by
  rw [tableAfter, statusesAfter_again]
  refine StatusTable.recordAll_overwritten (fun status => shows_tableAfter table) ?_
  intro status member
  obtain ⟨host, there, same⟩ := name_of_mem_firstStatuses member
  exact ⟨_, List.mem_map_of_mem there, same.symm⟩

end Api

/-! ## Runs -/

/-- What is told of the store and of the table holds of a run in quiet surroundings, in which nothing
else changes but the journal. -/
theorem Surroundings.run_desk {α : Type} {program : Program α} {value : α} {store later : MemoryStore}
    {table tableLater : StatusTable}
    (keeps : Keeps Handler.desk (fun _ _ => True)
      (fun result after => result = value ∧ after = (later, tableLater)) program (store, table))
    (journal : Journal) (listens : Bool) :
    ∃ journalLater, journal.entries <+: journalLater.entries ∧
      (quiet store journal table).runProgram listens program =
        (value, quiet later journalLater tableLater) := by
  obtain ⟨releaser, answered⟩ := exists_answerWith maxNesting listens
  -- The invariant of the run: the surroundings are quiet, and the journal has only grown.
  have obeys : ∀ request surroundings (beside : MemoryStore × StatusTable),
      (∃ current, journal.entries <+: current.entries ∧
        surroundings = quiet beside.1 current beside.2) →
      ∃ after, Handler.desk request beside (answerAt maxNesting listens request surroundings).1 after ∧
        ∃ current, journal.entries <+: current.entries ∧
          (answerAt maxNesting listens request surroundings).2 = quiet after.1 current after.2 := by
    rintro request _ ⟨store, table⟩ ⟨current, grown, rfl⟩
    rw [answered]
    cases request with
    | store call =>
      have undisturbed : (quiet store current table).disturbances = [] := rfl
      rw [answerWith, callDisturbed_of_undisturbed undisturbed]
      exact ⟨(_, table), ⟨⟨rfl, rfl⟩, rfl⟩, current, grown, rfl⟩
    | log entry =>
      exact ⟨(store, table), ⟨⟨fun _ => rfl, rfl⟩, rfl⟩, current.append entry,
        grown.trans (List.prefix_append _ _), rfl⟩
    | record subset status =>
      exact ⟨(store, table.record subset status), ⟨⟨fun _ => rfl, rfl⟩, rfl, rfl⟩, current, grown,
        rfl⟩
    | report subset => exact ⟨(store, table), ⟨rfl, rfl, rfl⟩, current, grown, rfl⟩
    | latest limit => exact ⟨(store, table), ⟨rfl, rfl⟩, current, grown, rfl⟩
    | interrupted =>
      exact ⟨(store, table), ⟨⟨fun _ => Bool.and_false listens, rfl⟩, rfl⟩, current, grown, rfl⟩
  obtain ⟨_, ⟨returned, rfl⟩, current, grown, ends⟩ :=
    keeps.post_run obeys ⟨journal, List.prefix_rfl, rfl⟩
  exact ⟨current, grown, Prod.ext returned ends⟩

/-! ## Requests -/

namespace App

variable {app : App} {store : MemoryStore} {journal : Journal} {table : StatusTable}
  {request : HttpRequest}

theorem handle_of_reconciled {user : String} {form : OverrideForm} {handler : Handler}
    (quiet : app.surroundings = .quiet store journal table)
    (created : Handler.create? app.settings form.options = .ok handler)
    (responds : Api.respond app.settings request =
      Api.deliver (Api.reconcile app.settings user form)) :
    ∃ journalLater, journal.entries <+: journalLater.entries ∧
      app.handle request = (Api.answerTo handler store,
        ⟨app.settings, .quiet (handler.storeAfterAll store handler.hosts) journalLater
          (Api.tableAfter handler store table)⟩) := by
  have delivered : Keeps Handler.desk (fun _ _ => True)
      (fun response after => response = Api.answerTo handler store ∧
        after = (handler.storeAfterAll store handler.hosts, Api.tableAfter handler store table))
      (Api.respond app.settings request) (store, table) := by
    rw [responds]
    refine keeps_bind.2 ((Api.keeps_reconcile_filed created store table user).mono ?_)
    rintro _ _ ⟨rfl, rfl⟩
    exact ⟨rfl, rfl⟩
  obtain ⟨journalLater, grown, ran⟩ := Surroundings.run_desk delivered journal false
  refine ⟨journalLater, grown, ?_⟩
  rw [handle, quiet, ran]

/-- Let a request to see to overrides come in in quiet surroundings, with any objects in the store, and
be answered 200 or 409. Afterwards the status table has one record for each host that the request
names. It agrees with the store after the request and with the response; all other records are as they
were. The table has a record at most once for each name under a subset, which are its key. -/
theorem published_after_reconcile (quiet : app.surroundings = .quiet store journal table)
    (distinct : table.Distinct) (asked : Route.dispatch request = .ok .overrides)
    (answered : (app.handle request).1.status = 200 ∨ (app.handle request).1.status = 409) :
    ∃ form handler final journalLater later,
      Api.readBody OverrideForm.check request = .ok form ∧
      Handler.create? app.settings form.options = .ok handler ∧
      (handler.uniqueName = form.uniqueName ∧ handler.ns = form.ns ∧ handler.hosts = form.hosts) ∧
      (app.handle request).2.surroundings = .quiet final journalLater later ∧
      Api.Published handler (app.handle request).1 final table later := by
  rcases Api.respond_overrides app.settings asked with
    ⟨response, status, refused⟩ | ⟨user, form, handler, admitted, created, responds⟩
  · -- Whatever keeps a request out answers with another status.
    rw [handle_of_refused refused] at answered
    have other : ∀ number ∈ Api.refusals, ¬ (number = 200 ∨ number = 409) := by decide
    exact absurd answered (other _ status)
  · obtain ⟨journalLater, -, handled⟩ := handle_of_reconciled quiet created responds
    have made := OverrideForm.eq_of_create? created
    rw [handled]
    exact ⟨form, handler, _, journalLater, _, admitted.read, created, by simp [made], rfl,
      Api.published_tableAfter handler store distinct⟩

/-- Any request to see to overrides gets the same response when it is sent twice in quiet surroundings.
The second time it leaves the store, with the revisions of its objects, and the status table as they
are; the journal may get more rows. -/
theorem reconcile_again (quiet : app.surroundings = .quiet store journal table)
    (asked : Route.dispatch request = .ok .overrides) :
    let once := app.handle request
    let again := once.2.handle request
    again.1 = once.1 ∧ ∃ final later journalOnce journalAgain,
      once.2.surroundings = .quiet final journalOnce later ∧
      again.2.surroundings = .quiet final journalAgain later ∧
      journalOnce.entries <+: journalAgain.entries := by
  dsimp only
  rcases Api.respond_overrides app.settings asked with
    ⟨response, -, refused⟩ | ⟨user, form, handler, -, created, responds⟩
  · rw [handle_of_refused refused]
    dsimp only
    rw [handle_of_refused refused]
    exact ⟨rfl, store, table, journal, journal, quiet, quiet, List.prefix_rfl⟩
  · obtain ⟨journalOnce, -, handled⟩ := handle_of_reconciled quiet created responds
    -- The second request starts where the first one ends.
    have quietThen : (⟨app.settings, .quiet (handler.storeAfterAll store handler.hosts) journalOnce
        (Api.tableAfter handler store table)⟩ : App).surroundings =
        .quiet (handler.storeAfterAll store handler.hosts) journalOnce
          (Api.tableAfter handler store table) := rfl
    obtain ⟨journalAgain, grown, handledAgain⟩ := handle_of_reconciled quietThen created responds
    rw [Api.answerTo_again, Handler.storeAfterAll_storeAfterAll, Api.tableAfter_again] at handledAgain
    rw [handled]
    dsimp only
    rw [handledAgain]
    exact ⟨rfl, _, _, journalOnce, journalAgain, rfl, rfl, grown⟩

/-! ## A shop

Statuses are there from before: the search was running once, and another subset has records of its
own. The search has no baseline any more. -/

def shopTable : StatusTable where
  records :=
    [⟨"green", ⟨"green-cart", "prod", .running⟩, 1⟩, ⟨"blue", ⟨"blue-search", "prod", .running⟩, 2⟩,
      ⟨"blue", ⟨"blue-news", "prod", .missing⟩, 3⟩]

def askedShop : App := ⟨{}, .quiet Handler.shopStore .empty shopTable⟩

def shopRequest : HttpRequest :=
  { cartRequest "web" with
    body := some (.json { cartForm "web" with hosts := ["search", "cart", "search"] }.toJson) }

theorem published_after_reconcile_shop : (askedShop.handle shopRequest).1.status = 200 ∧
    ∃ form handler final journalLater later,
      Api.readBody OverrideForm.check shopRequest = .ok form ∧
      Handler.create? askedShop.settings form.options = .ok handler ∧
      (handler.uniqueName = form.uniqueName ∧ handler.ns = form.ns ∧ handler.hosts = form.hosts) ∧
      (askedShop.handle shopRequest).2.surroundings = .quiet final journalLater later ∧
      Api.Published handler (askedShop.handle shopRequest).1 final shopTable later :=
  have answered : (askedShop.handle shopRequest).1.status = 200 := by decide +kernel
  ⟨answered, published_after_reconcile rfl (by decide) rfl (.inl answered)⟩

theorem reconcile_again_shop : (askedShop.handle shopRequest).1.status = 200 ∧
    let once := askedShop.handle shopRequest
    let again := once.2.handle shopRequest
    again.1 = once.1 ∧ ∃ final later journalOnce journalAgain,
      once.2.surroundings = .quiet final journalOnce later ∧
      again.2.surroundings = .quiet final journalAgain later ∧
      journalOnce.entries <+: journalAgain.entries :=
  have quiet : askedShop.surroundings = .quiet Handler.shopStore .empty shopTable := rfl
  ⟨by decide +kernel, reconcile_again quiet rfl⟩

end App

end RouteOverrides
