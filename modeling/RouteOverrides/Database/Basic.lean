import RouteOverrides.Database.Journal
import RouteOverrides.Database.StatusTable
import RouteOverrides.Failure

/-! # The database

The database holds the event journal and the status table. Either table may be missing, and then
whatever needs it fails.

* `Database.prepare`: makes the tables that are missing.
* `Database.drop`: takes a table away with all that is in it.
* `Database.log`, `Database.latest`: the journal.
* `Database.record`, `Database.report`: the status table. -/

namespace RouteOverrides

/-- The two tables, as far as they are there. -/
structure Database where
  journal : Option Journal
  statuses : Option StatusTable
  deriving DecidableEq, Repr, Inhabited

/-- The tables of the database. -/
inductive TableName where
  | journal
  | statuses
  deriving DecidableEq, Repr

namespace TableName

def word : TableName → String
  | journal => "events"
  | statuses => "resource_status"

/-- The failure of an operation on a table that is not there. -/
def missing (table : TableName) : Failure := .missingTable table.word

end TableName

namespace Database

/-- A database without tables. -/
def blank : Database := ⟨none, none⟩

/-- Makes the tables that are missing. -/
def prepare (database : Database) : Database where
  journal := some (database.journal.getD .empty)
  statuses := some (database.statuses.getD .empty)

/-- A database with both tables empty. -/
def fresh : Database := blank.prepare

def drop (database : Database) : TableName → Except Failure Database
  | .journal =>
    match database.journal with
    | some _ => .ok { database with journal := none }
    | none => .error TableName.journal.missing
  | .statuses =>
    match database.statuses with
    | some _ => .ok { database with statuses := none }
    | none => .error TableName.statuses.missing

def log (database : Database) (entry : Entry) : Except Failure Unit × Database :=
  match database.journal with
  | some journal => (.ok (), { database with journal := some (journal.append entry) })
  | none => (.error TableName.journal.missing, database)

def record (database : Database) (subset : String) (status : ResourceStatus) :
    Except Failure Unit × Database :=
  match database.statuses with
  | some table => (.ok (), { database with statuses := some (table.record subset status) })
  | none => (.error TableName.statuses.missing, database)

def report (database : Database) (subset : String) : Except Failure (List ResourceStatus) :=
  match database.statuses with
  | some table => .ok (table.report subset)
  | none => .error TableName.statuses.missing

def holds (n : Int) : Bool := -9223372036854775808 ≤ n && n ≤ 9223372036854775807

/-- The newest rows of the journal. -/
def latest (database : Database) (limit : Int) : Except Failure (List (Nat × Entry)) :=
  match database.journal with
  | some journal => if holds limit then .ok (journal.latest limit) else .error .outOfRange
  | none => .error TableName.journal.missing

end Database

end RouteOverrides
