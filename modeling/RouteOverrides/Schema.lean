import RouteOverrides.Json.Basic

/-! # Checking JSON against a shape

A check turns a JSON value into a value of a domain type, or lists every fault that it finds. A
fault says where it is (`path`, from the outside in) and what is wrong there (`defect`).

* `text`, `texts`, `listOf`, `oneOf`: checks of single values.
* `required`, `optional`, `nullable`: the check of a member of an object.
* `apply`: a constructor applied to a further checked argument; the faults of all arguments are
  listed, in the order of the arguments.
* `Fault.subject`: the part of a value that a fault is about.

Members that a shape does not mention are ignored. A list of faults has a written form of its own
(`Fault.toJson`). -/

namespace RouteOverrides.Schema

/-- One step into a value. -/
inductive Step where
  | member (name : String)
  | item (index : Nat)
  deriving DecidableEq, Repr

/-- What is wrong with a value. -/
inductive Defect where
  | missing
  | notText
  | notObject
  | notList
  /-- A value that is no object stands where a record is expected. -/
  | notRecord
  /-- A value is none of the words of an enumeration. -/
  | notListedWord
  | tooShort
  | notInteger
  /-- An integer has more digits than are read. -/
  | hugeInteger
  /-- A text spells no value; the fault says at which of its characters. -/
  | malformed
  deriving DecidableEq, Repr

/-- One thing wrong with a value. -/
structure Fault where
  path : List Step
  defect : Defect
  deriving DecidableEq, Repr

/-- A value of a domain type, or everything that is wrong. -/
abbrev Checked (α : Type) := Except (List Fault) α

variable {α β : Type}

def refuse (defect : Defect) : Checked α := .error [⟨[], defect⟩]

/-- The same outcome, with the faults one step further in. -/
def within (step : Step) : Checked α → Checked α
  | .ok value => .ok value
  | .error faults => .error (faults.map fun fault => { fault with path := step :: fault.path })

/-- Applies a checked function to a checked argument; the faults of the function come first. -/
def apply (f : Checked (α → β)) (x : Checked α) : Checked β :=
  match f, x with
  | .ok f, .ok x => .ok (f x)
  | .ok _, .error faults => .error faults
  | .error faults, .ok _ => .error faults
  | .error first, .error second => .error (first ++ second)

@[simp] theorem apply_ok_ok (f : α → β) (x : α) :
    apply (.ok f) (.ok x) = (.ok (f x) : Checked β) := rfl

@[simp] theorem within_ok (step : Step) (x : α) : within step (.ok x) = (.ok x : Checked α) := rfl

/-- A checked application succeeds exactly if both sides do. -/
theorem apply_eq_ok_iff {f : Checked (α → β)} {x : Checked α} {y : β} :
    apply f x = .ok y ↔ ∃ g z, f = .ok g ∧ x = .ok z ∧ g z = y := by
  cases f <;> cases x <;> simp [apply]

/-! ## Single values -/

def text : Json → Checked String
  | .str value => .ok value
  | _ => refuse .notText

/-- Every item of a list, each under its index. -/
def checkItems (check : Json → Checked α) : Nat → List Json → Checked (List α)
  | _, [] => .ok []
  | index, item :: items =>
    apply (apply (.ok List.cons) (within (.item index) (check item)))
      (checkItems check (index + 1) items)

def listOf (check : Json → Checked α) : Json → Checked (List α)
  | .arr items => checkItems check 0 items
  | _ => refuse .notList

/-- An array with at least one item. -/
def nonEmptyListOf (check : Json → Checked α) : Json → Checked (List α)
  | .arr [] => refuse .tooShort
  | value => listOf check value

/-- Every member of a map, each under its name. -/
def checkTexts : List (String × Json) → Checked (List (String × String))
  | [] => .ok []
  | (key, value) :: members =>
    apply (apply (.ok fun word rest => (key, word) :: rest) (within (.member key) (text value)))
      (checkTexts members)

def texts : Json → Checked (List (String × String))
  | .obj members => checkTexts members
  | _ => refuse .notObject

def oneOf (words : List (String × α)) : Json → Checked α
  | .str word =>
    match Keyed.find? word words with
    | some value => .ok value
    | none => refuse .notListedWord
  | _ => refuse .notListedWord

/-! ## Members of records -/

def record (check : List (String × Json) → Checked α) : Json → Checked α
  | .obj members => check members
  | _ => refuse .notRecord

def required (members : List (String × Json)) (name : String) (check : Json → Checked α) :
    Checked α :=
  within (.member name) <|
    match Keyed.find? name members with
    | some value => check value
    | none => refuse .missing

/-- A member with a value to take when it is missing. -/
def optional (members : List (String × Json)) (name : String) (fallback : α)
    (check : Json → Checked α) : Checked α :=
  match Keyed.find? name members with
  | some value => within (.member name) (check value)
  | none => .ok fallback

/-- A member that may be missing or null. -/
def nullable (members : List (String × Json)) (name : String) (check : Json → Checked α) :
    Checked (Option α) :=
  match Keyed.find? name members with
  | none | some .null => .ok none
  | some value => within (.member name) (match check value with
    | .ok value => .ok (some value)
    | .error faults => .error faults)

/-! ## Faults as records -/

/-- The word for a defect. Where a record is built from the body of a request, a value that is no
object is told apart by a word of its own. -/
def Defect.word (inBody : Bool) : Defect → String
  | missing => "missing"
  | notText => "string_type"
  | notObject => "dict_type"
  | notList => "list_type"
  | notRecord => if inBody then "model_attributes_type" else "model_type"
  | notListedWord => "enum"
  | tooShort => "too_short"
  | notInteger => "int_parsing"
  | hugeInteger => "int_parsing_size"
  | malformed => "json_invalid"

/-- The value one step further in, if there is one. -/
def Step.into? (value : Json) : Step → Option Json
  | member name => value.member? name
  | item index => value.items?.bind (·[index]?)

/-- The value at the end of a path, or in front of the first step that leads nowhere. -/
def follow (value : Json) : List Step → Json
  | [] => value
  | step :: path =>
    match step.into? value with
    | some inner => follow inner path
    | none => value

/-- The part of a value that a fault is about. Where a member is missing, that is the object. -/
def Fault.subject (value : Json) (fault : Fault) : Json := follow value fault.path

/-- A step as a name or an index. -/
def Step.toJson : Step → Json
  | member name => .str name
  | item index => .int index

/-- A fault as a record. -/
def Fault.toJson (inBody : Bool) (fault : Fault) : Json :=
  .obj [("loc", .arr (fault.path.map Step.toJson)), ("type", .str (fault.defect.word inBody))]

end RouteOverrides.Schema
