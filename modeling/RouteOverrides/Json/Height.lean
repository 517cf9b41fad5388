import RouteOverrides.Json.Basic

/-! # The height of a JSON value

The height says how many values stand in each other: a scalar or an empty array counts as one, and
every array or object around it as one more. Whatever follows a value step by step into its parts
may give up at some height. -/

namespace RouteOverrides.Json

mutual

/-- The number of values on the longest way into a value. -/
def height : Json → Nat
  | .arr items => heightOfItems items + 1
  | .obj members => heightOfMembers members + 1
  | _ => 1

def heightOfItems : List Json → Nat
  | [] => 0
  | item :: items => max (height item) (heightOfItems items)

def heightOfMembers : List (String × Json) → Nat
  | [] => 0
  | (_, value) :: members => max (height value) (heightOfMembers members)

end

example : height (.arr []) = 1 := by decide +kernel
example : height (.arr [.null, .obj [("a", .int 1)]]) = 3 := by decide +kernel

end RouteOverrides.Json
