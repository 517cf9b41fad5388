import RouteOverrides.Text.Hex
import RouteOverrides.Text.Printable

/-! # A text in quotes, as messages show it

A message shows a text between quotes so that blanks and controls in it can be seen.

* The quotes are single, unless the text holds a single quote and no double one.
* The quote in use, the backslash and the three common controls get a backslash in front.
* Any other character that is not printable is written by its code point in hexadecimal: two digits
  after `\x`, four after `\u`, eight after `\U`, whichever fits first. -/

namespace RouteOverrides.Text

/-- The code point of a hidden character, in the shortest of the three forms that holds it. -/
def codePointEscape (n : Nat) : List Char :=
  if n < 0x100 then ['\\', 'x'] ++ hexDigits 2 n
  else if n < 0x10000 then ['\\', 'u'] ++ hexDigits 4 n
  else ['\\', 'U'] ++ hexDigits 8 n

/-- One character between quotes of the kind `quote`. -/
def quotedChar (quote c : Char) : List Char :=
  if c = quote ∨ c = '\\' then ['\\', c]
  else if c = '\n' then ['\\', 'n']
  else if c = '\r' then ['\\', 'r']
  else if c = '\t' then ['\\', 't']
  else if isPrintable c then [c]
  else codePointEscape c.toNat

/-- One code point between quotes. Half of a surrogate pair is no character and never printable. -/
def quotedPoint (quote : Char) (n : Nat) : List Char :=
  if n.isValidChar then quotedChar quote (Char.ofNat n) else codePointEscape n

def quoteFor (s : List Char) : Char := if '\'' ∈ s ∧ '"' ∉ s then '"' else '\''

def quotedPoints (points : List Nat) : String :=
  let quote := quoteFor (points.map Char.ofNat)
  String.ofList (quote :: points.flatMap (quotedPoint quote) ++ [quote])

def quoted (s : String) : String := quotedPoints (s.toList.map Char.toNat)

example : codePointEscape 0x1F = ['\\', 'x', '1', 'f'] := by decide
example : codePointEscape 0x200B = ['\\', 'u', '2', '0', '0', 'b'] := by decide
example : quotedChar '\'' '\'' = ['\\', '\''] := by decide
example : quotedChar '"' '\'' = ['\''] := by decide +kernel
example : quotedPoint '\'' 0xD800 = ['\\', 'u', 'd', '8', '0', '0'] := by decide +kernel

end RouteOverrides.Text
