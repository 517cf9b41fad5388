import RouteOverrides.Proofs.Api.Published
import RouteOverrides.Proofs.Database.Readback
import RouteOverrides.Proofs.Handler.Grammar

/-! # The order of the stored report

A pass writes a first status for each host whose override it misses. The others get their first status
when all statuses are published, after the pass. So the stored report of a new unique name begins with the
hosts whose overrides were missing, and it has the order of the request only if these come first there,
too.

* `Handler.firstStatuses_eq` — the statuses that a pass writes.
* `Handler.missingFirst` — the order of the report.
* `Route.dispatch_status`, `App.handle_status` — asking for the report.
* `App.reported_after_reconcile` — the report after a request to see to overrides.
-/

namespace RouteOverrides

open Program MemoryStore

/-! ## The statuses of a pass -/

namespace Handler

variable {handler : Handler} {store : MemoryStore} {host other : String} {hosts : List String}

theorem holds_storeAfter_of_ne (apart : other ≠ host) :
    handler.holds (handler.storeAfter store host) other = handler.holds store other := by
  rcases handler.storeAfter_cases store host with ⟨kept, -⟩ | ⟨baseline, written, missing, -⟩
  · rw [kept]
  · rw [written, holds_put_override missing, beq_eq_false_iff_ne.2 apart, Bool.or_false]

theorem firstStatuses_eq (distinct : hosts.Nodup) (store : MemoryStore) :
    handler.firstStatuses store hosts =
      (hosts.filter fun host => !handler.holds store host).map handler.firstStatus := by
  induction hosts generalizing store with
  | nil => rfl
  | cons host rest inductionHypothesis =>
    obtain ⟨new, distinctRest⟩ := List.nodup_cons.1 distinct
    -- The visit of a host does not change what the pass finds for the others.
    have same : rest.filter (fun other => !handler.holds (handler.storeAfter store host) other) =
        rest.filter fun other => !handler.holds store other := by
      refine List.filter_congr fun other member => ?_
      rw [holds_storeAfter_of_ne (ne_of_mem_of_not_mem member new)]
    rw [firstStatuses, inductionHypothesis distinctRest, same]
    cases held : handler.holds store host <;> simp [held]

/-- Hosts without an override, and behind them those that have one. -/
def missingFirst (handler : Handler) (store : MemoryStore) (hosts : List String) : List String :=
  hosts.filter (fun host => !handler.holds store host) ++ hosts.filter (handler.holds store)

theorem missingFirst_eq_self_iff : handler.missingFirst store hosts = hosts ↔
    hosts.Pairwise fun first second =>
      handler.holds store first = true → handler.holds store second = true :=
  filter_not_append_filter_iff (handler.holds store) hosts

theorem mem_of_mem_missingFirst (member : host ∈ handler.missingFirst store hosts) :
    host ∈ hosts := by
  rcases List.mem_append.1 member with missing | held
  · exact List.mem_of_mem_filter missing
  · exact List.mem_of_mem_filter held

end Handler

/-! ## The report of the table -/

namespace Api

open Handler ResourceStatus

variable {handler : Handler} {store final : MemoryStore} {table : StatusTable}
  {hosts others : List String}

/-- Each host is named where it comes first: before the others if its override was missing. -/
theorem eraseDups_names (distinct : hosts.Nodup) :
    ((hosts.filter fun host => !handler.holds store host).map handler.nameFor ++
      hosts.map handler.nameFor).eraseDups = (handler.missingFirst store hosts).map handler.nameFor := by
  have injective : Function.Injective handler.nameFor := fun _ _ => nameFor_inj.1
  rw [eraseDups_append_of_nodup ((distinct.filter _).map injective) (distinct.map injective),
    missingFirst, List.map_append, List.filter_map]
  congr 2
  refine List.filter_congr fun host member => ?_
  simp [injective.eq_iff, member]

theorem newestOf?_written {host : String} (member : host ∈ handler.hosts) :
    newestOf? (handler.firstStatuses store handler.hosts ++ statusesAfter handler store)
        (handler.nameFor host) =
      some (handler.settled (handler.storeAfterAll store handler.hosts) host) := by
  have published : handler.settled (handler.storeAfterAll store handler.hosts) host ∈
      statusesAfter handler store := List.mem_map_of_mem member
  obtain ⟨status, found⟩ := exists_newestOf? (List.mem_map_of_mem (f := (·.name)) published)
  have same := eq_of_mem_statusesAfter published (mem_of_newestOf? found) (name_of_newestOf? found)
  -- What is published comes last, so a first status does not count.
  rw [same] at found
  rw [newestOf?_append, show handler.nameFor host = (handler.settled
    (handler.storeAfterAll store handler.hosts) host).name from rfl, found, Option.some_or]

theorem report_tableAfter (distinct : handler.hosts.Nodup)
    (vacant : table.under handler.uniqueName = []) :
    (tableAfter handler store table).report handler.uniqueName =
      (handler.missingFirst store handler.hosts).map
        (handler.settled (handler.storeAfterAll store handler.hosts)) := by
  have names : (handler.firstStatuses store handler.hosts ++ statusesAfter handler store).map
      (·.name) = (handler.hosts.filter fun host => !handler.holds store host).map handler.nameFor ++
        handler.hosts.map handler.nameFor := by
    rw [firstStatuses_eq distinct, statusesAfter, List.map_append, List.map_map, List.map_map]
    rfl
  rw [tableAfter, StatusTable.report_recordAll_of_vacant vacant, newest, names,
    eraseDups_names distinct, List.filterMap_map, ← List.filterMap_eq_map]
  exact List.filterMap_congr fun host member =>
    newestOf?_written (mem_of_mem_missingFirst member)

/-- The answer to a request for a report. -/
def reported (statuses : List ResourceStatus) : HttpResponse :=
  .ok (.arr (statuses.map ResourceStatus.toJson))

/-- A report tells the order of its hosts. -/
theorem reported_inj : reported (hosts.map (handler.settled final)) =
    reported (others.map (handler.settled final)) ↔ hosts = others := by
  refine ⟨fun same => ?_, fun same => by rw [same]⟩
  have injective : Function.Injective (ResourceStatus.toJson ∘ handler.settled final) := by
    intro host other same
    simp only [Function.comp_apply, ResourceStatus.toJson, Json.obj.injEq, List.cons.injEq,
      Prod.mk.injEq, Json.str.injEq, true_and] at same
    exact nameFor_inj.1 same.1
  simp only [reported, HttpResponse.ok, HttpResponse.mk.injEq, Content.json.injEq, Json.arr.injEq,
    List.map_map, true_and, and_true] at same
  exact injective.list_map same

theorem succeeded_answerTo (succeeded : (answerTo handler store).status = 200) : ∃ result,
    answerTo handler store = .ok (reconciled handler result (statusesAfter handler store)) := by
  rw [answerTo] at succeeded ⊢
  cases outcome : handler.undisturbed store .empty with
  | ok result => exact ⟨result, rfl⟩
  | error failure =>
    rw [outcome] at succeeded
    cases succeeded

end Api

/-! ## Asking for the report -/

namespace Route

/-- The path of a status holds its subset behind its start, also where a line break is left out. -/
theorem ofPath?_status {path : List Char} {subset : String}
    (written : path = statusStart ++ subset.toList) (letters : subset.toList ≠ [])
    (whole : '/' ∉ subset.toList) : ofPath? path = some (.status subset) := by
  have others : ∀ entry ∈ fixedPaths, statusStart.isPrefixOf entry.1.toList = false := by decide
  have notFixed : ∀ rest, Keyed.find? (String.ofList (statusStart ++ rest)) fixedPaths = none := by
    intro rest
    rw [Keyed.find?_eq_none_iff]
    intro fixed
    obtain ⟨entry, member, same⟩ := List.mem_map.1 fixed
    have start := others entry member
    rw [same, String.toList_ofList, List.isPrefixOf_iff_prefix.2 (List.prefix_append _ _)] at start
    cases start
  have line : ∃ rest, (if path.getLast? = some '\n' then path.dropLast else path) =
      statusStart ++ rest := by
    split
    · exact ⟨_, by rw [written, List.dropLast_append_of_ne_nil letters]⟩
    · exact ⟨_, written⟩
  have found : subsetOfPath? path = some subset := by
    rw [subsetOfPath?, written, if_pos (List.isPrefixOf_iff_prefix.2 (List.prefix_append _ _)),
      List.drop_left, if_neg (not_or.2 ⟨letters, whole⟩), String.ofList_toList]
  obtain ⟨rest, line⟩ := line
  rw [ofPath?, line, notFixed, found]
  rfl

theorem dispatch_status {subset : String} (accepted : NameRule.uniqueName.accepts subset = true)
    {request : HttpRequest} (asks : request.method = "GET")
    (path : request.target.path = "/status/" ++ subset) :
    dispatch request = .ok (.status subset) := by
  have spells := (NameRule.accepts_iff NameRule.follows_uniqueName subset).1 accepted
  obtain ⟨c, rest, letters, -⟩ := spells.head
  have whole : '/' ∉ subset.toList := by
    intro slash
    rcases spells.letters '/' slash with inside | same
    · exact absurd inside (by decide)
    · exact absurd same (by decide)
  have found : ofPath? request.target.path.toList = some (.status subset) :=
    ofPath?_status (by rw [path, String.toList_append]; rfl) (by simp [letters]) whole
  simp [dispatch, found, takes, verb, asks]

end Route

namespace App

variable {app : App} {store : MemoryStore} {journal : Journal} {table : StatusTable}
  {request inquiry : HttpRequest} {form : OverrideForm} {subset : String}

theorem handle_status (quiet : app.surroundings = .quiet store journal table)
    (inquired : Route.dispatch inquiry = .ok (.status subset)) :
    (app.handle inquiry).1 = Api.reported (table.report subset) := by
  have answers : Keeps Handler.desk (fun _ _ => True)
      (fun response after => response = Api.reported (table.report subset) ∧ after = (store, table))
      (Api.respond app.settings inquiry) (store, table) := by
    rw [Api.respond_of_allowed inquired rfl]
    refine ⟨trivial, ?_⟩
    rintro _ ⟨_, _⟩ ⟨rfl, rfl, rfl⟩
    exact ⟨rfl, rfl⟩
  obtain ⟨_, -, ran⟩ := Surroundings.run_desk answers journal false
  rw [handle, quiet, ran]

theorem reported_of_succeeded (quiet : app.surroundings = .quiet store journal table)
    (asked : Route.dispatch request = .ok .overrides)
    (read : Api.readBody OverrideForm.check request = .ok form) (distinct : form.hosts.Nodup)
    (unreported : ∀ record ∈ table.records, record.subset ≠ form.uniqueName)
    (succeeded : (app.handle request).1.status = 200) (inquires : inquiry.method = "GET")
    (path : inquiry.target.path = "/status/" ++ form.uniqueName) :
    ∃ handler result final, Handler.create? app.settings form.options = .ok handler ∧
      (app.handle request).1 =
        .ok (Api.reconciled handler result (form.hosts.map (handler.settled final))) ∧
      ((app.handle request).2.handle inquiry).1 =
        Api.reported ((handler.missingFirst store form.hosts).map (handler.settled final)) := by
  rcases Api.respond_overrides app.settings asked with
    ⟨response, status, refused⟩ | ⟨user, known, handler, admitted, created, responds⟩
  · rw [handle_of_refused refused] at succeeded
    exact absurd (succeeded ▸ status) (by decide)
  · obtain rfl : known = form := Except.ok.inj (admitted.read.symm.trans read)
    obtain ⟨journalLater, -, handled⟩ := handle_of_reconciled quiet created responds
    have accepted : NameRule.uniqueName.accepts known.uniqueName = true :=
      (Handler.accepted_of_create? created).1
    have made := OverrideForm.eq_of_create? created
    have sameName : handler.uniqueName = known.uniqueName := by rw [made]
    have sameHosts : handler.hosts = known.hosts := by rw [made]
    rw [handled] at succeeded ⊢
    rw [← sameName] at unreported
    rw [← sameHosts] at distinct ⊢
    have vacant : table.under handler.uniqueName = [] := by
      simpa [StatusTable.under] using unreported
    obtain ⟨result, answer⟩ := Api.succeeded_answerTo succeeded
    have inquired : Route.dispatch inquiry = .ok (.status handler.uniqueName) :=
      sameName ▸ Route.dispatch_status accepted inquires path
    refine ⟨handler, result, _, created, answer, ?_⟩
    rw [handle_status rfl inquired, Api.report_tableAfter distinct vacant]

/-- Let a request to see to overrides come in in quiet surroundings, for different hosts and for a unique
name without records, and be answered 200. Then the stored report has the statuses of the response, those
of the hosts first whose overrides were not in the store before. It is the list of the response exactly if
the request names no host whose override was there in front of one whose override was not. -/
theorem reported_after_reconcile (quiet : app.surroundings = .quiet store journal table)
    (asked : Route.dispatch request = .ok .overrides)
    (read : Api.readBody OverrideForm.check request = .ok form) (distinct : form.hosts.Nodup)
    (unreported : ∀ record ∈ table.records, record.subset ≠ form.uniqueName)
    (succeeded : (app.handle request).1.status = 200) (inquires : inquiry.method = "GET")
    (path : inquiry.target.path = "/status/" ++ form.uniqueName) :
    ∃ handler result final, Handler.create? app.settings form.options = .ok handler ∧
      (app.handle request).1 =
        .ok (Api.reconciled handler result (form.hosts.map (handler.settled final))) ∧
      let report := ((app.handle request).2.handle inquiry).1
      report = Api.reported ((handler.missingFirst store form.hosts).map (handler.settled final)) ∧
        (report = Api.reported (form.hosts.map (handler.settled final)) ↔
          form.hosts.Pairwise fun first second =>
            handler.holds store first = true → handler.holds store second = true) := by
  obtain ⟨handler, result, final, created, answer, report⟩ :=
    reported_of_succeeded quiet asked read distinct unreported succeeded inquires path
  refine ⟨handler, result, final, created, answer, report, ?_⟩
  rw [report, Api.reported_inj, Handler.missingFirst_eq_self_iff]

/-! ## A shop in which one override is there

The news have their override from before, and the cart gets one. -/

def newsStore : MemoryStore where
  objects :=
    [{ name := "cart"
       ns := "prod"
       labels := []
       annotations := []
       host := "cart"
       subsets := [⟨"v1", [("version", "shared")]⟩]
       revision := some "1" },
     { name := "red-news"
       ns := "prod"
       labels := [("version", "v2")]
       annotations := []
       host := "news"
       subsets := [⟨"v2", [("version", "v2")]⟩]
       revision := some "2" }]
  writes := 2

def newsShop : App := ⟨{}, .quiet newsStore .empty shopTable⟩

def newsForm : OverrideForm := { cartForm "web" with uniqueName := "red", hosts := ["news", "cart"] }

def newsRequest : HttpRequest := { cartRequest "web" with body := some (.json newsForm.toJson) }

def newsInquiry : HttpRequest := { method := "GET", target := ⟨"/status/red", [], ""⟩ }

theorem succeeded_newsRequest : (newsShop.handle newsRequest).1.status = 200 := by decide +kernel

theorem reported_newsRequest : ∃ handler result final,
    Handler.create? newsShop.settings newsForm.options = .ok handler ∧
    (newsShop.handle newsRequest).1 =
      .ok (Api.reconciled handler result (newsForm.hosts.map (handler.settled final))) ∧
    ((newsShop.handle newsRequest).2.handle newsInquiry).1 =
      Api.reported ((handler.missingFirst newsStore newsForm.hosts).map (handler.settled final)) :=
  reported_of_succeeded rfl rfl rfl (by decide) (by decide) succeeded_newsRequest rfl rfl

theorem reported_after_reconcile_news :
    (newsShop.handle newsRequest).1.status = 200 ∧
    ∃ handler result final, Handler.create? newsShop.settings newsForm.options = .ok handler ∧
      (newsShop.handle newsRequest).1 =
        .ok (Api.reconciled handler result (newsForm.hosts.map (handler.settled final))) ∧
      let report := ((newsShop.handle newsRequest).2.handle newsInquiry).1
      report =
          Api.reported ((handler.missingFirst newsStore newsForm.hosts).map (handler.settled final)) ∧
        (report = Api.reported (newsForm.hosts.map (handler.settled final)) ↔
          newsForm.hosts.Pairwise fun first second =>
            handler.holds newsStore first = true → handler.holds newsStore second = true) :=
  ⟨succeeded_newsRequest, reported_after_reconcile rfl rfl rfl (by decide) (by decide)
    succeeded_newsRequest rfl rfl⟩

/-- The stored report may have another order than the statuses of the response. -/
theorem not_reported_in_order : ¬ ∀ (app : App) (store : MemoryStore) (journal : Journal)
    (table : StatusTable) (request inquiry : HttpRequest) (form : OverrideForm) (handler : Handler)
    (result : PassResult) (statuses : List ResourceStatus),
      app.surroundings = .quiet store journal table → Route.dispatch request = .ok .overrides →
      Api.readBody OverrideForm.check request = .ok form → form.hosts.Nodup →
      (∀ record ∈ table.records, record.subset ≠ form.uniqueName) →
      (app.handle request).1.status = 200 →
      (app.handle request).1 = .ok (Api.reconciled handler result statuses) →
      inquiry.method = "GET" → inquiry.target.path = "/status/" ++ form.uniqueName →
      ((app.handle request).2.handle inquiry).1 = Api.reported statuses := by
  intro allInOrder
  obtain ⟨handler, result, final, created, answer, report⟩ := reported_newsRequest
  have inOrder := allInOrder newsShop newsStore .empty shopTable newsRequest newsInquiry newsForm handler
    result _ rfl rfl rfl (by decide) (by decide) succeeded_newsRequest answer rfl rfl
  rw [report, Api.reported_inj] at inOrder
  cases created
  exact absurd inOrder (by decide +kernel)

end App

end RouteOverrides
