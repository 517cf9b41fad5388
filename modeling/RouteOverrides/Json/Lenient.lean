import RouteOverrides.Failure
import RouteOverrides.Json.Basic

/-! # Reading raw objects leniently

A raw object comes from outside and may lack any part. A part that is missing or empty, of whatever
kind, is read as if it held nothing. A part that holds something of the wrong kind is `misread`.

* `Lenient.members`: the members of a part.
* `Lenient.text`: the text of a part.
* `Lenient.items`: the items of a part. Going through the characters of a text is possible, and
  so is going through the names of an object; only a boolean or a number cannot be listed. -/

namespace RouteOverrides.Lenient

def members (part : Option Json) : Except Failure (List (String × Json)) :=
  match part with
  | none => .ok []
  | some value =>
    if value.isEmpty then .ok []
    else
      match value.members? with
      | some members => .ok members
      | none => .error .misread

def text (part : Option Json) : Except Failure String :=
  match part with
  | none => .ok ""
  | some value =>
    if value.isEmpty then .ok ""
    else
      match value.text? with
      | some text => .ok text
      | none => .error .misread

/-- What a value lists: the items of an array, the characters of a text, the names of an object. -/
def listed (value : Json) : Except Failure (List Json) :=
  match value with
  | .arr items => .ok items
  | .str text => .ok (text.toList.map fun c => .str (String.singleton c))
  | .obj members => .ok (members.map fun member => .str member.1)
  | .null | .bool _ | .int _ | .float _ => .error .misplaced

def items (part : Option Json) : Except Failure (List Json) :=
  match part with
  | none => .ok []
  | some value => if value.isEmpty then .ok [] else listed value

@[simp] theorem members_none : members none = .ok [] := rfl
@[simp] theorem text_none : text none = .ok "" := rfl
@[simp] theorem items_none : items none = .ok [] := rfl

/-- The members of an object are read as they are. -/
@[simp] theorem members_obj (xs : List (String × Json)) : members (some (.obj xs)) = .ok xs := by
  cases xs <;> rfl

/-- A text is read as it is. -/
@[simp] theorem text_str (s : String) : text (some (.str s)) = .ok s := by
  by_cases h : s = "" <;> simp [text, Json.isEmpty, h]

/-- The items of an array are read as they are. -/
@[simp] theorem items_arr (xs : List Json) : items (some (.arr xs)) = .ok xs := by
  cases xs <;> rfl

end RouteOverrides.Lenient
