import RouteOverrides.Text.Blank
import RouteOverrides.Text.Digit
import RouteOverrides.Text.Split

/-! # Reading an integer

An integer is written with decimal digits of any script. It may have a sign, single underscores
between digits, and margins of white space:

    margin* (+ | -)? digit+ (_ digit+)* margin*

A text of more than `maxDigits` digits is refused, so that reading stays cheap. The four information
separators are blank but no margin. -/

namespace RouteOverrides.Text

/-- The most digits that an integer may have, leading zeros included. -/
def maxDigits : Nat := 4300

/-- White space that may stand around an integer. -/
def isMargin (c : Char) : Bool := isBlank c && !(0x1C ≤ c.toNat && c.toNat ≤ 0x1F)

/-- A text without the margins at its two ends. -/
def trimMargins (s : List Char) : List Char :=
  ((s.dropWhile isMargin).reverse.dropWhile isMargin).reverse

/-- The digits of a magnitude: groups of digits with an underscore between neighbours. -/
def magnitudeDigits? (s : List Char) : Option (List Nat) := do
  let groups ← (split '_' s).mapM fun group => if group = [] then none else group.mapM digit?
  pure groups.flatten

/-- The number that digits spell, the most significant first. -/
def ofDigits (digits : List Nat) : Nat := digits.foldl (fun n d => 10 * n + d) 0

/-- The magnitude that a text of digits spells, within the limit on their count. -/
def magnitude? (s : List Char) : Option Nat := do
  let digits ← magnitudeDigits? s
  if digits.length ≤ maxDigits then some (ofDigits digits) else none

def integer? (s : List Char) : Option Int :=
  match trimMargins s with
  | '-' :: rest => (magnitude? rest).map fun n => -(n : Int)
  | '+' :: rest => (magnitude? rest).map Int.ofNat
  | rest => (magnitude? rest).map Int.ofNat

example : integer? [' ', '-', '1', '_', '0', '\n'] = some (-10) := by decide
example : integer? ['1', '_', '_', '0'] = none := by decide
example : integer? ['_', '1'] = none := by decide
example : integer? ['+', ' ', '1'] = none := by decide
example : integer? [] = none := by decide

end RouteOverrides.Text
