import Mathlib.Data.List.Induction
import RouteOverrides.Database.Basic
import RouteOverrides.Proofs.Database.StatusTable
import RouteOverrides.Proofs.Repetition

/-! # Reading the status table back

A new record gets a higher place than all others, and a record that is written again keeps its place. So
a subset reads back as an ordered map from names: each name stands where it was first written, and shows
the status that was written last.

* `ResourceStatus.noting`, `ResourceStatus.newest` — a report with one more status, and what becomes of
  many.
* `StatusTable.Ascending` — places grow from each record to the next, and stay so.
* `StatusTable.report_record`, `StatusTable.report_recordEach` — reports after writes.
* `Database.readsBack_recordEach` — what a database reads back after any writes.
-/

namespace RouteOverrides

/-! ## Reports as ordered maps -/

namespace ResourceStatus

variable {status : ResourceStatus} {statuses front : List ResourceStatus} {name : String}

/-- A report with one more status: in the place of the one of its name if there is one, else at the end. -/
def noting (statuses : List ResourceStatus) (status : ResourceStatus) : List ResourceStatus :=
  if status.name ∈ statuses.map (·.name) then
    statuses.map fun other => if other.name = status.name then status else other
  else statuses ++ [status]

/-- The last status of a name. -/
def newestOf? (statuses : List ResourceStatus) (name : String) : Option ResourceStatus :=
  (statuses.filter fun status => status.name == name).getLast?

/-- The last status of each name, in the order in which the names come first. -/
def newest (statuses : List ResourceStatus) : List ResourceStatus :=
  (statuses.map (·.name)).eraseDups.filterMap (newestOf? statuses)

theorem name_of_newestOf? (found : newestOf? statuses name = some status) : status.name = name := by
  have member := List.mem_of_getLast? found
  simpa using (List.mem_filter.1 member).2

theorem exists_newestOf? (known : name ∈ statuses.map (·.name)) :
    ∃ status, newestOf? statuses name = some status := by
  obtain ⟨status, member, same⟩ := List.mem_map.1 known
  have there : status ∈ statuses.filter fun status => status.name == name :=
    List.mem_filter.2 ⟨member, by simpa using same⟩
  exact ⟨_, List.getLast?_eq_some_getLast (List.ne_nil_of_mem there)⟩

theorem mem_of_newestOf? (found : newestOf? statuses name = some status) : status ∈ statuses :=
  (List.mem_filter.1 (List.mem_of_getLast? found)).1

theorem newestOf?_append (front later : List ResourceStatus) (name : String) :
    newestOf? (front ++ later) name = (newestOf? later name).or (newestOf? front name) := by
  simp only [newestOf?, List.filter_append, List.getLast?_append]

theorem newestOf?_concat (front : List ResourceStatus) (status : ResourceStatus) (name : String) :
    newestOf? (front ++ [status]) name =
      if status.name = name then some status else newestOf? front name := by
  rw [newestOf?_append]
  by_cases same : status.name = name <;> simp [newestOf?, same]

theorem names_newest (statuses : List ResourceStatus) :
    (newest statuses).map (·.name) = (statuses.map (·.name)).eraseDups := by
  have named : ∀ name ∈ (statuses.map (·.name)).eraseDups,
      (newestOf? statuses name).map (·.name) = some name := by
    intro name member
    obtain ⟨status, found⟩ := exists_newestOf? (List.mem_eraseDups.1 member)
    rw [found, Option.map_some, name_of_newestOf? found]
  rw [newest, List.map_filterMap, List.filterMap_congr named, List.filterMap_some]

theorem newestOf?_of_mem_newest (member : status ∈ newest statuses) :
    newestOf? statuses status.name = some status := by
  obtain ⟨name, -, found⟩ := List.mem_filterMap.1 member
  rwa [name_of_newestOf? found]

/-- What is read of a status under another name does not depend on it. -/
theorem newestOf?_concat_of_mem (new : status.name ∉ front.map (·.name))
    (member : name ∈ front.map (·.name)) :
    newestOf? (front ++ [status]) name = newestOf? front name := by
  rw [newestOf?_concat, if_neg fun same : status.name = name => new (same ▸ member)]

theorem noting_newest (front : List ResourceStatus) (status : ResourceStatus) :
    noting (newest front) status = newest (front ++ [status]) := by
  have names : (newest (front ++ [status])) =
      ((front.map (·.name) ++ [status.name]).eraseDups.filterMap
        (newestOf? (front ++ [status]))) := by
    rw [newest, List.map_append, List.map_singleton]
  have listed : status.name ∈ (newest front).map (·.name) ↔ status.name ∈ front.map (·.name) := by
    rw [names_newest, List.mem_eraseDups]
  rw [names, eraseDups_concat]
  by_cases known : status.name ∈ front.map (·.name)
  · -- The name is there, and only what it shows is new.
    rw [noting, if_pos (listed.2 known), if_pos known, newest, List.map_filterMap]
    refine List.filterMap_congr fun name member => ?_
    obtain ⟨other, found⟩ := exists_newestOf? (List.mem_eraseDups.1 member)
    rw [newestOf?_concat, found, Option.map_some, name_of_newestOf? found]
    by_cases same : status.name = name
    · rw [if_pos same, if_pos same.symm]
    · rw [if_neg same, if_neg (Ne.symm same)]
  · have kept : (front.map (·.name)).eraseDups.filterMap (newestOf? (front ++ [status])) =
        newest front :=
      List.filterMap_congr fun name member =>
        newestOf?_concat_of_mem known (List.mem_eraseDups.1 member)
    rw [noting, if_neg (mt listed.1 known), if_neg known, List.filterMap_append, kept]
    simp [newestOf?_concat]

theorem foldl_noting (statuses : List ResourceStatus) : statuses.foldl noting [] = newest statuses := by
  induction statuses using List.reverseRecOn with
  | nil => rfl
  | append_singleton front status inductionHypothesis =>
    rw [List.foldl_concat, inductionHypothesis, noting_newest]

end ResourceStatus

/-! ## Places -/

namespace StatusTable

open StatusRecord ResourceStatus

variable {table : StatusTable} {subset other : String} {status : ResourceStatus}
  {statuses : List ResourceStatus} {records : List StatusRecord} {record : StatusRecord}

/-- Places grow from each record to the next. -/
def Ascending (records : List StatusRecord) : Prop :=
  records.Pairwise fun first second => first.place < second.place

theorem le_highest (records : List StatusRecord) (start : Nat) :
    start ≤ records.foldl (fun highest record => max highest record.place) start ∧
    ∀ record ∈ records,
      record.place ≤ records.foldl (fun highest record => max highest record.place) start := by
  induction records generalizing start with
  | nil => exact ⟨Nat.le_refl _, nofun⟩
  | cons first rest inductionHypothesis =>
    obtain ⟨above, others⟩ := inductionHypothesis (max start first.place)
    rw [List.foldl_cons, List.forall_mem_cons]
    exact ⟨Nat.le_trans (Nat.le_max_left _ _) above, Nat.le_trans (Nat.le_max_right _ _) above, others⟩

theorem lt_nextPlace (member : record ∈ table.records) : record.place < table.nextPlace :=
  Nat.lt_succ_of_le ((le_highest table.records 0).2 record member)

/-- Whichever records are looked at, a write keeps their places ascending. -/
theorem ascending_record (keep : String × String → Bool)
    (ascending : Ascending (table.records.filter fun record => keep record.key)) (subset : String)
    (status : ResourceStatus) :
    Ascending ((table.record subset status).records.filter fun record => keep record.key) := by
  by_cases known : (subset, status.name) ∈ table.records.map StatusRecord.key
  · rw [record_of_known known, List.filter_map]
    simpa [Ascending, List.pairwise_map, Function.comp_def] using ascending
  · rw [record_of_new known, List.filter_append]
    refine List.pairwise_append.2 ⟨ascending, (List.pairwise_singleton _ _).filter _, ?_⟩
    intro old member new isNew
    obtain rfl := List.mem_singleton.1 (List.mem_filter.1 isNew).1
    exact lt_nextPlace (List.mem_filter.1 member).1

/-! ## Reports -/

/-- The records of a subset, in the order in which they were first written. -/
def under (table : StatusTable) (subset : String) : List StatusRecord :=
  table.records.filter fun record => record.subset == subset

theorem ascending_under_record (ascending : Ascending (table.under subset)) (other : String)
    (status : ResourceStatus) : Ascending ((table.record other status).under subset) :=
  ascending_record (fun key => key.1 == subset) ascending other status

theorem report_of_ascending (ascending : Ascending (table.under subset)) :
    table.report subset = (table.under subset).map (·.status) := by
  have sorted : (table.under subset).mergeSort (fun first second => first.place ≤ second.place) =
      table.under subset :=
    List.mergeSort_of_pairwise (ascending.imp fun less => decide_eq_true (Nat.le_of_lt less))
  exact congrArg (List.map (·.status)) sorted

theorem mem_names_report_iff {name : String} (ascending : Ascending (table.under subset)) :
    name ∈ (table.report subset).map (·.name) ↔
      (subset, name) ∈ table.records.map StatusRecord.key := by
  simp [report_of_ascending ascending, under, StatusRecord.key, and_assoc]

theorem under_record_of_known
    (known : (subset, status.name) ∈ table.records.map StatusRecord.key) :
    (table.record subset status).under subset =
      (table.under subset).map fun record => record.taking subset status := by
  have sameSubset : ∀ record : StatusRecord,
      (record.taking subset status).subset = record.subset :=
    fun record => congrArg Prod.fst (key_taking record subset status)
  simp only [under, record_of_known known, List.filter_map, Function.comp_def, sameSubset]

theorem under_record_of_new
    (new : (subset, status.name) ∉ table.records.map StatusRecord.key) :
    (table.record subset status).under subset =
      table.under subset ++ [⟨subset, status, table.nextPlace⟩] := by
  simp [under, record_of_new new]

theorem status_taking (member : record ∈ table.under subset) (status : ResourceStatus) :
    (record.taking subset status).status =
      if record.status.name = status.name then status else record.status := by
  have here : record.subset = subset := by simpa using (List.mem_filter.1 member).2
  have same : record.key = (subset, status.name) ↔ record.status.name = status.name := by
    simp [StatusRecord.key, here]
  rw [taking]
  split <;> simp_all

/-- One more status under a subset shows in the report of the subset. -/
theorem report_record (ascending : Ascending (table.under subset)) (status : ResourceStatus) :
    (table.record subset status).report subset = noting (table.report subset) status := by
  have names : status.name ∈ (table.report subset).map (·.name) ↔
      (subset, status.name) ∈ table.records.map StatusRecord.key := mem_names_report_iff ascending
  rw [report_of_ascending (ascending_under_record ascending subset status), noting]
  by_cases known : (subset, status.name) ∈ table.records.map StatusRecord.key
  · rw [if_pos (names.2 known), under_record_of_known known, report_of_ascending ascending,
      List.map_map, List.map_map]
    exact List.map_congr_left fun record member => status_taking member status
  · rw [if_neg (mt names.1 known), under_record_of_new known, report_of_ascending ascending,
      List.map_append, List.map_singleton]

/-- A status under another subset does not. -/
theorem report_record_of_ne (apart : other ≠ subset) (table : StatusTable) (status : ResourceStatus) :
    (table.record other status).report subset = table.report subset := by
  have same : (table.record other status).under subset = table.under subset :=
    filter_record table (fun key => key.1 == subset) (beq_eq_false_iff_ne.2 apart)
  exact congrArg (fun records : List StatusRecord => (records.mergeSort
    fun first second => first.place ≤ second.place).map (·.status)) same

/-! ## Several writes -/

/-- Writes statuses under subsets, one after the other. -/
def recordEach (table : StatusTable) (writes : List (String × ResourceStatus)) : StatusTable :=
  writes.foldl (fun table write => table.record write.1 write.2) table

/-- The statuses that are written under a subset. -/
def writtenUnder (subset : String) (writes : List (String × ResourceStatus)) : List ResourceStatus :=
  (writes.filter fun write => write.1 == subset).map (·.2)

theorem ascending_recordEach (ascending : Ascending table.records)
    (writes : List (String × ResourceStatus)) : Ascending (table.recordEach writes).records := by
  induction writes generalizing table with
  | nil => exact ascending
  | cons write rest inductionHypothesis =>
    have next := ascending_record (fun _ => true) (by rwa [List.filter_true]) write.1 write.2
    rw [List.filter_true] at next
    exact inductionHypothesis next

/-- What is reported of writes, if they are added to those under a subset. -/
theorem report_recordEach (ascending : Ascending (table.under subset))
    (writes : List (String × ResourceStatus)) :
    (table.recordEach writes).report subset =
      (writtenUnder subset writes).foldl noting (table.report subset) := by
  induction writes generalizing table with
  | nil => rfl
  | cons write rest inductionHypothesis =>
    obtain ⟨other, status⟩ := write
    have next := inductionHypothesis (ascending_under_record ascending other status)
    refine next.trans ?_
    by_cases same : other = subset
    · subst same
      rw [report_record ascending]
      simp [writtenUnder]
    · rw [report_record_of_ne same]
      simp [writtenUnder, same]

/-- Under a subset without records, only the writes show. -/
theorem report_recordEach_of_vacant (vacant : table.under subset = [])
    (writes : List (String × ResourceStatus)) :
    (table.recordEach writes).report subset = newest (writtenUnder subset writes) := by
  have ascending : Ascending (table.under subset) := vacant ▸ List.Pairwise.nil
  have nothing : table.report subset = [] := by
    rw [report_of_ascending ascending, vacant, List.map_nil]
  rw [report_recordEach ascending, nothing, foldl_noting]

theorem recordAll_eq_recordEach (table : StatusTable) (subset : String)
    (statuses : List ResourceStatus) :
    table.recordAll subset statuses = table.recordEach (statuses.map (Prod.mk subset)) := by
  rw [recordAll, recordEach, List.foldl_map]

theorem writtenUnder_map (subset : String) (statuses : List ResourceStatus) :
    writtenUnder subset (statuses.map (Prod.mk subset)) = statuses := by
  simp [writtenUnder, List.filter_map, Function.comp_def]

theorem report_recordAll_of_vacant (vacant : table.under subset = [])
    (statuses : List ResourceStatus) :
    (table.recordAll subset statuses).report subset = newest statuses := by
  rw [recordAll_eq_recordEach, report_recordEach_of_vacant vacant, writtenUnder_map]

end StatusTable

/-! ## The database -/

namespace Database

open ResourceStatus StatusTable

/-- Writes statuses under subsets, one after the other. -/
def recordEach (database : Database) (writes : List (String × ResourceStatus)) : Database :=
  writes.foldl (fun database write => (database.record write.1 write.2).2) database

/-- What a database reads back after some writes to its status table. -/
structure ReadsBack (writes : List (String × ResourceStatus)) (database : Database) : Prop where
  /-- Each name that was written under a subset has one record there, where it was first written and with
  the status that was written last. -/
  reports : ∀ subset, ∃ statuses, database.report subset = .ok statuses ∧
    statuses.map (·.name) = ((writtenUnder subset writes).map (·.name)).eraseDups ∧
    ∀ status ∈ statuses, newestOf? (writtenUnder subset writes) status.name = some status
  /-- One more write is carried out, and shows under no other subset. -/
  apart : ∀ subset status, (database.record subset status).1 = .ok () ∧ ∀ other ≠ subset,
    (database.record subset status).2.report other = database.report other
  /-- No two records have the same place, whatever their subsets. -/
  places : ∃ table, database.statuses = some table ∧ (table.records.map (·.place)).Nodup

theorem recordEach_eq (journal : Option Journal) (table : StatusTable)
    (writes : List (String × ResourceStatus)) :
    recordEach ⟨journal, some table⟩ writes = ⟨journal, some (table.recordEach writes)⟩ := by
  induction writes generalizing table with
  | nil => rfl
  | cons write rest inductionHypothesis => exact inductionHypothesis (table.record write.1 write.2)

/-- From an empty status table, whatever is written under whichever subsets reads back as an ordered map
in which the last write of a name counts. -/
theorem readsBack_recordEach (journal : Option Journal) (writes : List (String × ResourceStatus)) :
    ReadsBack writes (recordEach ⟨journal, some .empty⟩ writes) := by
  have ascending : Ascending (StatusTable.empty.recordEach writes).records :=
    ascending_recordEach .nil writes
  rw [recordEach_eq]
  refine ⟨fun subset => ?_, fun subset status => ⟨rfl, fun other apart => ?_⟩, _, rfl, ?_⟩
  · have report : (StatusTable.empty.recordEach writes).report subset =
        newest (writtenUnder subset writes) := report_recordEach_of_vacant rfl writes
    exact ⟨_, congrArg Except.ok report, names_newest _, fun _ => newestOf?_of_mem_newest⟩
  · exact congrArg Except.ok (report_record_of_ne apart.symm _ status)
  · exact List.pairwise_map.2 (ascending.imp Nat.ne_of_lt)

end Database

end RouteOverrides
