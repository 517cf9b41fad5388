import RouteOverrides.Schema
import RouteOverrides.Text.Quoted

/-! # Failures

Every way in which an operation can fail, by its cause. The wording is in two functions:
`Failure.label` is the word for the kind of failure, and `Failure.message` is the text.

A failure at the store (`atStore`) names the service host that was being processed, the operation,
and the failure that the store reported. -/

namespace RouteOverrides

/-- Kinds of failure that come from the surroundings of a store. -/
inductive ForeignKind where
  | runtime
  | timeout
  | connection
  | key
  | value
  | reconcile
  deriving DecidableEq, Repr

/-- Why an operation failed. -/
inductive Failure where
  | invalidUniqueName
  | invalidVersion
  | unknownEventKind (word : String)
  | notFound (detail : String)
  | alreadyExists (detail : String)
  | conflict (detail : String)
  | cancelled (detail : String)
  /-- A pass left no host active; the hosts that are ignored. -/
  | noActiveHost (subset : String) (ignored : List String)
  /-- A store call failed for a service host. -/
  | atStore (host operation : String) (cause : Failure)
  /-- A store call failed for a service host, and nothing more is known. -/
  | atStoreUnexplained (host operation : String)
  | missingTable (table : String)
  | databaseUnavailable
  /-- The database file cannot be read or written. -/
  | databaseUnreadable
  /-- The cluster answered with an error status. -/
  | clusterStatus (status : Int) (reason : Option String)
  /-- The cluster answered with an error that has no status. -/
  | clusterUnstated (reason : Option String)
  | invalidRecord (faults : List Schema.Fault)
  /-- A member or a part was asked of a value that has none. -/
  | misread
  /-- A value that holds no members was written into, or one that holds no items was listed. -/
  | misplaced
  /-- A number is too large for the database. -/
  | outOfRange
  /-- Values stand in each other too deep to be written out. -/
  | tooDeep
  | foreign (kind : ForeignKind) (detail : String)
  deriving DecidableEq, Repr, Inhabited

namespace ForeignKind

/-- The word for a kind of failure of the surroundings. -/
def label : ForeignKind → String
  | runtime => "RuntimeError"
  | timeout => "TimeoutError"
  | connection => "ConnectionError"
  | key => "KeyError"
  | value => "ValueError"
  | reconcile => "ReconcileError"

end ForeignKind

namespace Failure

def label : Failure → String
  | invalidUniqueName | invalidVersion | unknownEventKind _ | tooDeep => "ValueError"
  | notFound _ => "NotFound"
  | alreadyExists _ => "AlreadyExists"
  | conflict _ => "Conflict"
  | cancelled _ => "Cancelled"
  | noActiveHost _ _ => "InvariantViolation"
  | atStore _ _ _ | atStoreUnexplained _ _ => "StoreFailure"
  | missingTable _ | databaseUnavailable | databaseUnreadable => "OperationalError"
  | clusterStatus _ _ | clusterUnstated _ => "ApiException"
  | invalidRecord _ => "ValidationError"
  | misread => "AttributeError"
  | misplaced => "TypeError"
  | outOfRange => "OverflowError"
  | foreign kind _ => kind.label

/-- The hosts that are ignored, as an ending of the message that no host is active. -/
def ignoredNote : List String → String
  | [] => ""
  | hosts => " (ignored missing hosts: " ++ String.intercalate ", " hosts ++ ")"

def storeNote (host operation : String) : String :=
  operation ++ " failed for host '" ++ host ++ "'"

/-- The text of an error of the cluster. -/
def clusterNote (status : String) (reason : Option String) : String :=
  "(" ++ status ++ ")\nReason: " ++ reason.getD "None" ++ "\n"

/-- The text of a failure. A failure over the shape of a value has no text of its own. -/
def message : Failure → String
  | invalidUniqueName =>
    "Invalid unique name. Use lowercase letters/numbers, '-' and '.', starting alphanumeric."
  | invalidVersion => "Invalid version string. Use letters/numbers and -._ (max 63 chars)."
  | unknownEventKind word => Text.quoted word ++ " is not a valid EventType"
  | notFound detail | alreadyExists detail | conflict detail | cancelled detail => detail
  | noActiveHost subset ignored =>
    "no base routing objects were found for subset: " ++ subset ++ ignoredNote ignored
  | atStore host operation cause =>
    storeNote host operation ++ ": " ++ cause.label ++ ": " ++ cause.message
  | atStoreUnexplained host operation => storeNote host operation
  | missingTable table => "no such table: " ++ table
  | databaseUnavailable => "unable to open database file"
  | databaseUnreadable => "disk I/O error"
  | clusterStatus status reason => clusterNote (toString status) reason
  | clusterUnstated reason => clusterNote "None" reason
  | tooDeep => "Maximum serialization depth exceeded"
  | invalidRecord _ | misread | misplaced | outOfRange => ""
  | foreign .key detail => Text.quoted detail
  | foreign _ detail => detail

/-- Whether the text of a failure is part of its report. The failures over the shape of a value are
reported by their kind alone, and so is a failure at the store that one of them caused. -/
def hasMessage : Failure → Bool
  | clusterStatus _ _ | clusterUnstated _ => false
  | invalidRecord _ | misread | misplaced | outOfRange => false
  | atStore _ _ (invalidRecord _) | atStore _ _ misread | atStore _ _ misplaced => false
  | atStore _ _ outOfRange => false
  | _ => true

def interrupted : Failure := .cancelled "reconciliation cancelled"

end Failure

end RouteOverrides
