import RouteOverrides.Json.Basic
import RouteOverrides.Text.Decimal
import RouteOverrides.Text.Hex

/-! # Writing JSON

* `Json.compact`: everything on one line, without spaces.
* `Json.pretty`: one item or member a line, two spaces further in at each level, a blank after the
  colon; empty arrays and objects stay closed.

Both write a string in the same way: the quote, the backslash and the control characters are
escaped, and every other character stands as it is. A float is written as the shortest decimal that
is read as it, with a point or an exponent; what is no finite number is written as a word. -/

namespace RouteOverrides.Json

def escapedChar (c : Char) : List Char :=
  if c = '"' ∨ c = '\\' then ['\\', c]
  else if c = '\n' then ['\\', 'n']
  else if c = '\r' then ['\\', 'r']
  else if c = '\t' then ['\\', 't']
  else if c.toNat = 8 then ['\\', 'b']
  else if c.toNat = 12 then ['\\', 'f']
  else if c.toNat < 32 then ['\\', 'u'] ++ Text.hexDigits 4 c.toNat
  else [c]

def stringLiteral (s : String) : String :=
  "\"" ++ String.ofList (s.toList.flatMap escapedChar) ++ "\""

def floatText (x : Float) : String :=
  let sign := if Text.Decimal.isNegative x then "-" else ""
  if x.isNaN then "NaN"
  else if x.isInf then sign ++ "Infinity"
  else if x == 0 then sign ++ "0.0"
  else sign ++ String.ofList (Text.Decimal.shortest x).written

/-- The text of a value without parts. -/
def scalarText : Json → String
  | .null => "null"
  | .bool true => "true"
  | .bool false => "false"
  | .int value => toString value
  | .float value => floatText value
  | .str value => stringLiteral value
  | .arr _ => "[]"
  | .obj _ => "\x7b\x7d"

mutual

def compact : Json → String
  | .arr items => "[" ++ String.intercalate "," (compactItems items) ++ "]"
  | .obj members => "\x7b" ++ String.intercalate "," (compactMembers members) ++ "\x7d"
  | value => scalarText value

def compactItems : List Json → List String
  | [] => []
  | item :: items => compact item :: compactItems items

def compactMembers : List (String × Json) → List String
  | [] => []
  | (key, value) :: members =>
    (stringLiteral key ++ ":" ++ compact value) :: compactMembers members

end

def lineBreak (depth : Nat) : String := "\n" ++ String.ofList (List.replicate (2 * depth) ' ')

/-- Parts between brackets, one a line. -/
def block (left right : String) (depth : Nat) (parts : List String) : String :=
  left ++ lineBreak (depth + 1) ++ String.intercalate ("," ++ lineBreak (depth + 1)) parts
    ++ lineBreak depth ++ right

mutual

/-- The value over several lines, starting at a depth of nesting. -/
def prettyAt (depth : Nat) : Json → String
  | .arr (item :: items) => block "[" "]" depth (prettyItems (depth + 1) (item :: items))
  | .obj (member :: members) =>
    block "\x7b" "\x7d" depth (prettyMembers (depth + 1) (member :: members))
  | value => scalarText value

def prettyItems (depth : Nat) : List Json → List String
  | [] => []
  | item :: items => prettyAt depth item :: prettyItems depth items

def prettyMembers (depth : Nat) : List (String × Json) → List String
  | [] => []
  | (key, value) :: members =>
    (stringLiteral key ++ ": " ++ prettyAt depth value) :: prettyMembers depth members

end

def pretty (value : Json) : String := prettyAt 0 value

end RouteOverrides.Json
