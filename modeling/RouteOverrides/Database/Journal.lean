import RouteOverrides.Json.Basic
import RouteOverrides.Text.UpperCase

/-! # The event journal

What the reconciler did is written to a journal. Rows get the numbers 1, 2, 3, … in the order in
which they are written, and none is ever taken out.

* `Journal.append`: a journal with one more row. Its level is written in upper case.
* `Journal.latest`: the newest rows first, as many as asked for; a negative number asks for all. -/

namespace RouteOverrides

/-- Something to write to the journal. -/
structure Entry where
  level : String
  message : String
  subset : Option String := none
  host : Option String := none
  deriving DecidableEq, Repr, Inhabited

/-- Entries in the order in which they were written. -/
structure Journal where
  entries : List Entry
  deriving DecidableEq, Repr, Inhabited

namespace Journal

/-- The journal without rows. -/
def empty : Journal := ⟨[]⟩

def append (journal : Journal) (entry : Entry) : Journal :=
  ⟨journal.entries ++ [{ entry with level := Text.upper entry.level }]⟩

/-- The rows with their numbers, oldest first. -/
def rows (journal : Journal) : List (Nat × Entry) :=
  journal.entries.zipIdx.map fun pair => (pair.2 + 1, pair.1)

/-- The newest rows, newest first. -/
def latest (journal : Journal) (limit : Int) : List (Nat × Entry) :=
  if limit < 0 then journal.rows.reverse else journal.rows.reverse.take limit.toNat

/-- The rows that were written after row number `seen`, oldest first. -/
def since (journal : Journal) (seen : Nat) : List (Nat × Entry) :=
  journal.rows.filter fun row => seen < row.1

@[simp] theorem entries_append (journal : Journal) (entry : Entry) :
    (journal.append entry).entries =
      journal.entries ++ [{ entry with level := Text.upper entry.level }] := rfl

end Journal

end RouteOverrides
