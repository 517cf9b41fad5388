import RouteOverrides.Json.Parser
import RouteOverrides.Schema
import RouteOverrides.Text.Integer

/-! # Numbers in a query

A field of a query is text. A number in it is a plain integer as JSON writes it, once what does not
count has been taken away:

* the margins, and a plus sign,
* leading zeros, with the underscores that stand among them,
* a point with nothing but zeros behind it,
* underscores, if each stands alone between two other characters.

Taking away the leading zeros ends at the next digit that counts, or at a minus sign, which then is
the sign of the number. A text that starts as a plain integer of more than `Text.maxDigits` digits
is refused with a fault of its own.

* `QueryNumber.read`: the number in a field. -/

namespace RouteOverrides.QueryNumber

/-- The characters from the first one on that counts, behind a zero; `last` is the character in
front of them. Of zeros only, the last character counts. -/
def skipZeros (last : Char) : List Char → Option (List Char)
  | [] => some [last]
  | c :: rest =>
    if c = '0' ∨ c = '_' then skipZeros c rest
    else if c.isDigit ∨ c = '-' then some (c :: rest)
    else if c = '.' then some (last :: c :: rest)
    else none

/-- A text without leading zeros. It has to start with a digit or a minus sign. -/
def withoutLeadingZeros? : List Char → Option (List Char)
  | [] => none
  | c :: rest =>
    if c = '0' then skipZeros c rest
    else if c.isDigit ∨ c = '-' then some (c :: rest)
    else none

/-- A text without the zeros behind its point. -/
def withoutFraction (s : List Char) : List Char :=
  match Text.cut? '.' s with
  | some (whole, zeros) => if zeros ≠ [] ∧ zeros.all (· == '0') then whole else s
  | none => s

/-- A text without its underscores, provided that each stands between two other characters. -/
def withoutUnderscores (s : List Char) : List Char :=
  let groups := Text.split '_' s
  if groups.all (· ≠ []) then groups.flatten else s

/-- The characters that count, of a text without margins and sign. -/
def significant? (s : List Char) : Option (List Char) :=
  (withoutLeadingZeros? s).map fun s => withoutUnderscores (withoutFraction s)

def plain? (s : List Char) : Option (List Char) :=
  match Text.trimMargins s with
  | '-' :: rest => (significant? rest).map ('-' :: ·)
  | '+' :: '-' :: _ => none
  | '+' :: rest => significant? rest
  | rest => significant? rest

/-- The digits that a plain integer starts with, behind its sign. -/
def leadingDigits (s : List Char) : List Char :=
  (if s.head? = some '-' then s.tail else s).takeWhile Char.isDigit

/-- Whether a text starts as a plain integer of too many digits, whatever stands behind it. -/
def isHuge (s : List Char) : Bool :=
  (leadingDigits s).head? ≠ some '0' && (leadingDigits s).length > Text.maxDigits

/-- The number of a plain integer, unless it has too many digits. -/
def ofPlain? (s : List Char) : Option Int :=
  match Json.readNumber s with
  | .ok (.int number, []) => some number
  | _ => none

def read (text : String) : Schema.Checked Int :=
  if isHuge text.toList then Schema.refuse .hugeInteger
  else
    match plain? text.toList >>= ofPlain? with
    | some number => .ok number
    | none => Schema.refuse .notInteger

example : significant? "0__5.00".toList = some ['5'] := by decide +kernel
example : significant? "1_0".toList = some ['1', '0'] := by decide +kernel
example : significant? "_5".toList = none := by decide +kernel
example : significant? "5.".toList = some ['5', '.'] := by decide +kernel
example : plain? "+0_-5".toList = some ['-', '5'] := by decide +kernel
example : (plain? "-0-5".toList >>= ofPlain?) = none := by decide +kernel

end RouteOverrides.QueryNumber
