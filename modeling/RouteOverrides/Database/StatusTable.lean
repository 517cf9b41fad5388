import RouteOverrides.Status

/-! # The status table

The status table keeps one record for each name under each subset. A record gets its place in the
order when it is first written, and keeps it when it is written again.

* `StatusTable.record`: writes a status.
* `StatusTable.report`: the statuses of a subset, in their order. -/

namespace RouteOverrides

/-- A status with the subset that it belongs to and its place in the order. -/
structure StatusRecord where
  subset : String
  status : ResourceStatus
  place : Nat
  deriving DecidableEq, Repr, Inhabited

/-- The status records of all subsets. -/
structure StatusTable where
  records : List StatusRecord
  deriving DecidableEq, Repr, Inhabited

namespace StatusTable

/-- The table without records. -/
def empty : StatusTable := ⟨[]⟩

/-- Whether a record is the one of a name under a subset. -/
def isOf (subset name : String) (record : StatusRecord) : Bool :=
  record.subset == subset && record.status.name == name

/-- The place of the next new record: one more than the highest place in use. -/
def nextPlace (table : StatusTable) : Nat :=
  table.records.foldl (fun highest record => max highest record.place) 0 + 1

/-- Writes a status: into the record of its name if there is one, else into a new record. -/
def record (table : StatusTable) (subset : String) (status : ResourceStatus) : StatusTable :=
  -- A record that is there keeps its place in the order.
  if table.records.any (isOf subset status.name) then
    ⟨table.records.map fun other =>
      if isOf subset status.name other then { other with status := status } else other⟩
  else ⟨table.records ++ [⟨subset, status, table.nextPlace⟩]⟩

/-- The statuses of a subset, by their places. -/
def report (table : StatusTable) (subset : String) : List ResourceStatus :=
  ((table.records.filter fun record => record.subset == subset).mergeSort
    fun first second => first.place ≤ second.place).map (·.status)

end StatusTable

end RouteOverrides
