import Mathlib.Data.List.Nodup
import RouteOverrides.Database.StatusTable

/-! # Writing to the status table

A record belongs to a name under a subset. Writing a status changes the records of its own name and
subset and no others. So of several statuses that are written one after the other the last of each name
counts, and writing once more what the table shows already leaves no trace of what was written in
between.

* `StatusTable.Distinct` — no two records belong to the same name and subset.
* `StatusTable.Shows` — what the table says of a name.
* `StatusTable.filter_recordAll` — the records of other names and subsets.
* `StatusTable.shows_recordAll` — what the table says after several statuses were written.
* `StatusTable.recordAll_overwritten` — statuses that are overwritten by those that were there.
-/

namespace RouteOverrides

namespace StatusRecord

variable {record : StatusRecord} {subset : String} {status : ResourceStatus}
  {statuses writes : List ResourceStatus}

/-- What a record belongs to: a subset and a name. -/
def key (record : StatusRecord) : String × String := (record.subset, record.status.name)

/-- A record with a status written into it, if it is the one of the status. -/
def taking (record : StatusRecord) (subset : String) (status : ResourceStatus) : StatusRecord :=
  if record.key = (subset, status.name) then { record with status := status } else record

theorem taking_of_eq (same : record.key = (subset, status.name)) :
    record.taking subset status = { record with status := status } := if_pos same

theorem taking_of_ne (apart : record.key ≠ (subset, status.name)) :
    record.taking subset status = record := if_neg apart

@[simp] theorem place_taking (record : StatusRecord) (subset : String) (status : ResourceStatus) :
    (record.taking subset status).place = record.place := by
  rw [taking]
  split <;> rfl

@[simp] theorem key_taking (record : StatusRecord) (subset : String) (status : ResourceStatus) :
    (record.taking subset status).key = record.key := by
  by_cases same : record.key = (subset, status.name)
  · rw [taking_of_eq same]
    exact Prod.ext rfl (congrArg Prod.snd same).symm
  · rw [taking_of_ne same]

/-- A record with statuses written into it, one after the other. -/
def takingAll (record : StatusRecord) (subset : String) (statuses : List ResourceStatus) :
    StatusRecord :=
  statuses.foldl (fun record status => record.taking subset status) record

@[simp] theorem place_takingAll (record : StatusRecord) (subset : String)
    (statuses : List ResourceStatus) : (record.takingAll subset statuses).place = record.place := by
  induction statuses generalizing record with
  | nil => rfl
  | cons status rest inductionHypothesis =>
    exact (inductionHypothesis _).trans (place_taking record subset status)

@[simp] theorem key_takingAll (record : StatusRecord) (subset : String)
    (statuses : List ResourceStatus) : (record.takingAll subset statuses).key = record.key := by
  induction statuses generalizing record with
  | nil => rfl
  | cons status rest inductionHypothesis =>
    exact (inductionHypothesis _).trans (key_taking record subset status)

/-- Statuses that say what the record says already, or are of other names, change nothing. -/
theorem takingAll_of_agree
    (agree : ∀ status ∈ statuses, record.key = (subset, status.name) → record.status = status) :
    record.takingAll subset statuses = record := by
  induction statuses with
  | nil => rfl
  | cons status rest inductionHypothesis =>
    rw [List.forall_mem_cons] at agree
    have unchanged : record.taking subset status = record := by
      by_cases same : record.key = (subset, status.name)
      · rw [taking_of_eq same, ← agree.1 same]
      · exact taking_of_ne same
    rw [takingAll, List.foldl_cons, unchanged]
    exact inductionHypothesis agree.2

theorem takingAll_of_mem (member : status ∈ statuses) (same : record.key = (subset, status.name))
    (agree : ∀ other ∈ statuses, other.name = status.name → other = status) :
    record.takingAll subset statuses = ⟨record.subset, status, record.place⟩ := by
  obtain ⟨before, after, rfl⟩ := List.append_of_mem member
  have sameThen : (record.takingAll subset before).key = (subset, status.name) := by
    rw [key_takingAll, same]
  have written : (record.takingAll subset before).taking subset status =
      ⟨record.subset, status, record.place⟩ := by
    have sameSubset : (record.takingAll subset before).subset = record.subset :=
      congrArg Prod.fst (key_takingAll record subset before)
    rw [taking_of_eq sameThen, sameSubset, place_takingAll]
  have split : record.takingAll subset (before ++ status :: after) =
      ((record.takingAll subset before).taking subset status).takingAll subset after :=
    List.foldl_append
  rw [split, written]
  refine takingAll_of_agree fun other later sameKey => ?_
  have sameName : status.name = other.name := congrArg Prod.snd sameKey
  refine (agree other ?_ sameName.symm).symm
  simp [later]

/-- What is written in between leaves no trace, if all of it is overwritten by what the record says
already. -/
theorem takingAll_overwritten
    (agree : ∀ status ∈ statuses, record.key = (subset, status.name) → record.status = status)
    (covered : ∀ status ∈ writes, ∃ other ∈ statuses, other.name = status.name) :
    (record.takingAll subset writes).takingAll subset statuses = record := by
  by_cases touched : ∃ status ∈ writes, record.key = (subset, status.name)
  · obtain ⟨status, written, same⟩ := touched
    obtain ⟨other, member, sameName⟩ := covered status written
    rw [← sameName] at same
    have kept : record.status = other := agree other member same
    have sameThen : (record.takingAll subset writes).key = (subset, other.name) := by
      rw [key_takingAll, same]
    have sameSubset : (record.takingAll subset writes).subset = record.subset :=
      congrArg Prod.fst (key_takingAll record subset writes)
    rw [takingAll_of_mem member sameThen, sameSubset, place_takingAll, ← kept]
    intro third thirdMember thirdName
    rw [← agree third thirdMember (by rw [same, thirdName]), kept]
  · have untouched : record.takingAll subset writes = record :=
      takingAll_of_agree fun status written same => absurd ⟨status, written, same⟩ touched
    rw [untouched, takingAll_of_agree agree]

end StatusRecord

namespace StatusTable

open StatusRecord

variable {table : StatusTable} {subset name : String} {status other : ResourceStatus}
  {statuses writes : List ResourceStatus} {record : StatusRecord}

theorem isOf_iff : isOf subset name record = true ↔ record.key = (subset, name) := by
  simp [isOf, StatusRecord.key]

theorem any_isOf_iff : table.records.any (isOf subset name) = true ↔
    (subset, name) ∈ table.records.map StatusRecord.key := by
  simp only [List.any_eq_true, isOf_iff, List.mem_map]

/-! ## One status -/

theorem record_of_known (known : (subset, status.name) ∈ table.records.map StatusRecord.key) :
    (table.record subset status).records = table.records.map fun record =>
      record.taking subset status := by
  rw [StatusTable.record, if_pos (any_isOf_iff.2 known)]
  refine List.map_congr_left fun record _ => ?_
  by_cases same : record.key = (subset, status.name)
  · rw [taking_of_eq same, if_pos (isOf_iff.2 same)]
  · rw [taking_of_ne same, if_neg (mt isOf_iff.1 same)]

theorem record_of_new (new : (subset, status.name) ∉ table.records.map StatusRecord.key) :
    (table.record subset status).records =
      table.records ++ [⟨subset, status, table.nextPlace⟩] := by
  rw [StatusTable.record, if_neg (mt any_isOf_iff.1 new)]

/-- The records of other names and subsets stay as they are and in their order. -/
theorem filter_record (table : StatusTable) (keep : String × String → Bool)
    (apart : keep (subset, status.name) = false) :
    ((table.record subset status).records.filter fun record => keep record.key) =
      table.records.filter fun record => keep record.key := by
  by_cases known : (subset, status.name) ∈ table.records.map StatusRecord.key
  · rw [record_of_known known, List.filter_map]
    simp only [Function.comp_def, key_taking]
    -- None of the records that are kept has been written.
    refine (List.map_congr_left fun record member => ?_).trans (List.map_id _)
    refine taking_of_ne fun same => ?_
    have kept := (List.mem_filter.1 member).2
    rw [same, apart] at kept
    cases kept
  · have left : keep (⟨subset, status, table.nextPlace⟩ : StatusRecord).key = false := apart
    simp [record_of_new known, left]

/-- No two records belong to the same name and subset. -/
def Distinct (table : StatusTable) : Prop := (table.records.map StatusRecord.key).Nodup

instance (table : StatusTable) : Decidable table.Distinct :=
  inferInstanceAs (Decidable (table.records.map StatusRecord.key).Nodup)

theorem distinct_record (distinct : table.Distinct) (subset : String) (status : ResourceStatus) :
    (table.record subset status).Distinct := by
  rw [Distinct]
  by_cases known : (subset, status.name) ∈ table.records.map StatusRecord.key
  · rw [record_of_known known, List.map_map]
    simp only [Function.comp_def, key_taking]
    exact distinct
  · rw [record_of_new known, List.map_append, List.map_singleton, List.nodup_append]
    refine ⟨distinct, List.nodup_singleton _, ?_⟩
    rintro _ there _ isNew rfl
    rw [List.mem_singleton.1 isNew] at there
    exact known there

/-! ## What the table says of a name -/

/-- The table has a record of a status, and no record of its name says anything else. -/
structure Shows (table : StatusTable) (subset : String) (status : ResourceStatus) : Prop where
  recorded : (subset, status.name) ∈ table.records.map StatusRecord.key
  alone : ∀ record ∈ table.records, record.key = (subset, status.name) → record.status = status

theorem shows_record (table : StatusTable) (subset : String) (status : ResourceStatus) :
    (table.record subset status).Shows subset status := by
  by_cases known : (subset, status.name) ∈ table.records.map StatusRecord.key
  · constructor
    · rw [record_of_known known, List.map_map]
      simp only [Function.comp_def, key_taking]
      exact known
    · intro record member same
      rw [record_of_known known, List.mem_map] at member
      obtain ⟨before, -, rfl⟩ := member
      rw [key_taking] at same
      rw [taking_of_eq same]
  · constructor
    · simp [record_of_new known, StatusRecord.key]
    · intro record member same
      rw [record_of_new known, List.mem_append, List.mem_singleton] at member
      rcases member with old | rfl
      · exact absurd (List.mem_map.2 ⟨record, old, same⟩) known
      · rfl

/-- The records of a name under a subset. -/
def recordsOf (table : StatusTable) (subset name : String) : List StatusRecord :=
  table.records.filter fun record => record.key == (subset, name)

theorem mem_recordsOf :
    record ∈ table.recordsOf subset name ↔ record ∈ table.records ∧ record.key = (subset, name) := by
  simp [recordsOf]

theorem shows_iff : table.Shows subset status ↔ table.recordsOf subset status.name ≠ [] ∧
    ∀ record ∈ table.recordsOf subset status.name, record.status = status := by
  constructor
  · rintro ⟨recorded, alone⟩
    obtain ⟨record, member, same⟩ := List.mem_map.1 recorded
    refine ⟨List.ne_nil_of_mem (mem_recordsOf.2 ⟨member, same⟩), fun record member => ?_⟩
    obtain ⟨there, same⟩ := mem_recordsOf.1 member
    exact alone record there same
  · rintro ⟨recorded, alone⟩
    obtain ⟨record, member⟩ := List.exists_mem_of_ne_nil _ recorded
    obtain ⟨there, same⟩ := mem_recordsOf.1 member
    exact ⟨List.mem_map.2 ⟨record, there, same⟩,
      fun record there same => alone record (mem_recordsOf.2 ⟨there, same⟩)⟩

theorem shows_record_of_ne (shows : table.Shows subset status) (apart : other.name ≠ status.name) :
    (table.record subset other).Shows subset status := by
  have elsewhere : (subset, other.name) ≠ (subset, status.name) :=
    fun same => apart (congrArg Prod.snd same)
  have same : (table.record subset other).recordsOf subset status.name =
      table.recordsOf subset status.name :=
    filter_record table (· == (subset, status.name)) (beq_eq_false_iff_ne.2 elsewhere)
  rw [shows_iff, same]
  exact shows_iff.1 shows

/-- Where no two records belong together, what is said of a name is said by one record. -/
theorem Shows.eq_singleton (shows : table.Shows subset status) (distinct : table.Distinct) :
    ∃ place, table.recordsOf subset status.name = [⟨subset, status, place⟩] := by
  obtain ⟨recorded, alone⟩ := shows_iff.1 shows
  have keys : (table.recordsOf subset status.name).map StatusRecord.key =
      (table.recordsOf subset status.name).map fun _ => (subset, status.name) :=
    List.map_congr_left fun _ member => (mem_recordsOf.1 member).2
  have once : ((table.recordsOf subset status.name).map StatusRecord.key).Nodup :=
    distinct.sublist (List.filter_sublist.map _)
  have same : ∀ record ∈ table.recordsOf subset status.name, record.subset = subset :=
    fun record member => congrArg Prod.fst (mem_recordsOf.1 member).2
  revert recorded alone same
  rw [keys] at once
  cases found : table.recordsOf subset status.name with
  | nil => exact fun recorded => absurd rfl recorded
  | cons first rest =>
    intro _ alone same
    cases rest with
    | cons second rest => simp [found] at once
    | nil =>
      obtain ⟨_, _, place⟩ := first
      have sameSubset := same _ List.mem_cons_self
      have sameStatus := alone _ List.mem_cons_self
      cases sameSubset
      cases sameStatus
      exact ⟨place, rfl⟩

/-! ## Several statuses -/

/-- Writes statuses, one after the other. -/
def recordAll (table : StatusTable) (subset : String) (statuses : List ResourceStatus) :
    StatusTable :=
  statuses.foldl (fun table status => table.record subset status) table

theorem recordAll_append (table : StatusTable) (subset : String)
    (statuses more : List ResourceStatus) :
    table.recordAll subset (statuses ++ more) =
      (table.recordAll subset statuses).recordAll subset more := List.foldl_append

theorem filter_recordAll (table : StatusTable) (keep : String × String → Bool)
    (apart : ∀ status ∈ statuses, keep (subset, status.name) = false) :
    ((table.recordAll subset statuses).records.filter fun record => keep record.key) =
      table.records.filter fun record => keep record.key := by
  induction statuses generalizing table with
  | nil => rfl
  | cons status rest inductionHypothesis =>
    rw [List.forall_mem_cons] at apart
    exact (inductionHypothesis _ apart.2).trans (filter_record table keep apart.1)

theorem distinct_recordAll (distinct : table.Distinct) (subset : String)
    (statuses : List ResourceStatus) : (table.recordAll subset statuses).Distinct := by
  induction statuses generalizing table with
  | nil => exact distinct
  | cons status rest inductionHypothesis =>
    exact inductionHypothesis (distinct_record distinct subset status)

theorem Shows.recordAll (shows : table.Shows subset status)
    (agree : ∀ other ∈ statuses, other.name = status.name → other = status) :
    (table.recordAll subset statuses).Shows subset status := by
  induction statuses generalizing table with
  | nil => exact shows
  | cons first rest inductionHypothesis =>
    rw [List.forall_mem_cons] at agree
    refine inductionHypothesis ?_ agree.2
    by_cases same : first.name = status.name
    · rw [agree.1 same]
      exact shows_record table subset status
    · exact shows_record_of_ne shows same

/-- A status that is written is shown, unless something else is written under its name. -/
theorem shows_recordAll (member : status ∈ statuses)
    (agree : ∀ other ∈ statuses, other.name = status.name → other = status)
    (table : StatusTable) (subset : String) :
    (table.recordAll subset statuses).Shows subset status := by
  obtain ⟨before, after, rfl⟩ := List.append_of_mem member
  rw [recordAll_append]
  change (((table.recordAll subset before).record subset status).recordAll subset after).Shows
    subset status
  refine (shows_record _ subset status).recordAll fun other later => agree other ?_
  simp [later]

/-! ## Statuses that are overwritten -/

theorem recordAll_of_known
    (known : ∀ status ∈ statuses, (subset, status.name) ∈ table.records.map StatusRecord.key) :
    (table.recordAll subset statuses).records = table.records.map fun record =>
      record.takingAll subset statuses := by
  induction statuses generalizing table with
  | nil => exact (List.map_id _).symm
  | cons status rest inductionHypothesis =>
    rw [List.forall_mem_cons] at known
    have written := record_of_known known.1
    have knownLater : ∀ other ∈ rest,
        (subset, other.name) ∈ (table.record subset status).records.map StatusRecord.key := by
      rw [written, List.map_map]
      simp only [Function.comp_def, key_taking]
      exact known.2
    refine (inductionHypothesis knownLater).trans ?_
    rw [written, List.map_map]
    rfl

/-- What is written in between leaves no trace, if all of it is overwritten by what the table shows
already. -/
theorem recordAll_overwritten (shows : ∀ status ∈ statuses, table.Shows subset status)
    (covered : ∀ status ∈ writes, ∃ other ∈ statuses, other.name = status.name) :
    (table.recordAll subset (writes ++ statuses)) = table := by
  have known : ∀ status ∈ writes ++ statuses,
      (subset, status.name) ∈ table.records.map StatusRecord.key := by
    intro status member
    rcases List.mem_append.1 member with written | shown
    · obtain ⟨other, shown, same⟩ := covered status written
      exact same ▸ (shows other shown).recorded
    · exact (shows status shown).recorded
  have same : (table.recordAll subset (writes ++ statuses)).records = table.records := by
    refine (recordAll_of_known known).trans ?_
    refine (List.map_congr_left fun record member => ?_).trans (List.map_id _)
    rw [takingAll, List.foldl_append]
    exact takingAll_overwritten (fun status shown => (shows status shown).alone record member) covered
  exact congrArg StatusTable.mk same

end StatusTable

end RouteOverrides
