import RouteOverrides.Keyed

/-! # JSON values

A number in a JSON value is an integer of any size, or a float if it is written with a point or an
exponent. An object is a keyed list, so the members keep the order in which they were written.

* `Json.isEmpty`: the values that count as "nothing there": null, false, zero as an integer or a
  float of either sign, and the empty string, array and object. A field that holds one is read like
  a missing field wherever a raw object is treated leniently.
* `Json.members?`, `Json.items?`, `Json.text?`: the shallow recognisers. -/

namespace RouteOverrides

/-- A JSON value. -/
inductive Json where
  | null
  | bool (value : Bool)
  | int (value : Int)
  | float (value : Float)
  | str (value : String)
  | arr (items : List Json)
  | obj (members : List (String × Json))
  deriving Inhabited

namespace Json

/-! ## Shallow recognisers -/

def members? : Json → Option (List (String × Json))
  | .obj members => some members
  | _ => none

def items? : Json → Option (List Json)
  | .arr items => some items
  | _ => none

def text? : Json → Option String
  | .str value => some value
  | _ => none

def int? : Json → Option Int
  | .int value => some value
  | _ => none

def bool? : Json → Option Bool
  | .bool value => some value
  | _ => none

def isEmpty : Json → Bool
  | .null => true
  | .bool value => !value
  | .int value => value == 0
  -- Compared as a number, so that both zeros count, and a float that is no number does not.
  | .float value => value == 0
  | .str value => value == ""
  | .arr items => items.isEmpty
  | .obj members => members.isEmpty

@[simp] theorem members?_obj (members : List (String × Json)) :
    members? (.obj members) = some members := rfl
@[simp] theorem items?_arr (items : List Json) : items? (.arr items) = some items := rfl
@[simp] theorem text?_str (value : String) : text? (.str value) = some value := rfl
@[simp] theorem isEmpty_null : isEmpty .null = true := rfl

theorem members?_eq_some_iff {value : Json} {members : List (String × Json)} :
    value.members? = some members ↔ value = .obj members := by
  cases value <;> simp [members?]

theorem text?_eq_some_iff {value : Json} {text : String} :
    value.text? = some text ↔ value = .str text := by
  cases value <;> simp [text?]

theorem items?_eq_some_iff {value : Json} {items : List Json} :
    value.items? = some items ↔ value = .arr items := by
  cases value <;> simp [items?]

/-! ## Building and reading members -/

/-- The value of a member; none when the value is no object or has no such member. -/
def member? (value : Json) (key : String) : Option Json :=
  value.members?.bind (Keyed.find? key)

def ofTexts (pairs : List (String × String)) : Json :=
  .obj (pairs.map fun pair => (pair.1, .str pair.2))

/-- A text, or null where there is none. -/
def ofText? : Option String → Json
  | some text => .str text
  | none => .null

def ofTextList (texts : List String) : Json := .arr (texts.map .str)

end Json

end RouteOverrides
