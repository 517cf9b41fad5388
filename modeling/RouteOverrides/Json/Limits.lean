import RouteOverrides.Json.Basic
import RouteOverrides.Text.Decimal
import RouteOverrides.Text.Integer

/-! # What a JSON text can carry

Not every value can be written and read back as JSON. An integer must not have too many digits, and
a strict writer refuses a float that is no finite number.

* `Json.isReadable`: whether every integer somewhere in a value is short enough.
* `Json.isFinite`: whether every float somewhere in a value is a finite number. -/

namespace RouteOverrides.Json

mutual

/-- Whether every value without parts that stands somewhere in a value passes a test. -/
def allScalars (test : Json → Bool) : Json → Bool
  | .arr items => allScalarsOfItems test items
  | .obj members => allScalarsOfMembers test members
  | value => test value

def allScalarsOfItems (test : Json → Bool) : List Json → Bool
  | [] => true
  | item :: items => allScalars test item && allScalarsOfItems test items

def allScalarsOfMembers (test : Json → Bool) : List (String × Json) → Bool
  | [] => true
  | (_, value) :: members => allScalars test value && allScalarsOfMembers test members

end

def isReadable : Json → Bool :=
  allScalars fun
    | .int value => Text.Decimal.digitCount value.natAbs ≤ Text.maxDigits
    | _ => true

def isFinite : Json → Bool :=
  allScalars fun
    | .float value => value.isFinite
    | _ => true

end RouteOverrides.Json
