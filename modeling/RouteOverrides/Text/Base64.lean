import RouteOverrides.Text.Utf8

/-! # Base 64

Three bytes are written as four characters of an alphabet of 64, and the last group is filled up
with `=` signs.

* `base64`: the written form of bytes.
* `ofBase64?`: the bytes of a written form. Characters outside the alphabet are skipped, and enough
  `=` signs end the text; without them every group has to be complete. -/

namespace RouteOverrides.Text

def sextetChar (n : Nat) : Char :=
  if n < 26 then Char.ofNat (65 + n)
  else if n < 52 then Char.ofNat (97 + (n - 26))
  else if n < 62 then Char.ofNat (48 + (n - 52))
  else if n = 62 then '+'
  else '/'

def sextet? (c : Char) : Option Nat :=
  if 'A' ≤ c ∧ c ≤ 'Z' then some (c.toNat - 65)
  else if 'a' ≤ c ∧ c ≤ 'z' then some (c.toNat - 97 + 26)
  else if '0' ≤ c ∧ c ≤ '9' then some (c.toNat - 48 + 52)
  else if c = '+' then some 62
  else if c = '/' then some 63
  else none

def base64 : List Nat → List Char
  | [] => []
  | [a] => [sextetChar (a / 4), sextetChar (a % 4 * 16), '=', '=']
  | [a, b] =>
    [sextetChar (a / 4), sextetChar (a % 4 * 16 + b / 16), sextetChar (b % 16 * 4), '=']
  | a :: b :: c :: rest =>
    sextetChar (a / 4) :: sextetChar (a % 4 * 16 + b / 16) :: sextetChar (b % 16 * 4 + c / 64)
      :: sextetChar (c % 64) :: base64 rest

/-- The bytes of what follows in a group: `filled` characters of it have been read, `left` holds the
bits that are not yet part of a byte, and `fills` counts the `=` signs since. -/
def ofBase64From (filled left fills : Nat) : List Char → Option (List Nat)
  | [] => if filled = 0 then some [] else none
  | c :: rest =>
    if c = '=' then
      if filled < 2 then ofBase64From filled left fills rest
      else if filled + fills + 1 ≥ 4 then some []
      else ofBase64From filled left (fills + 1) rest
    else
      match sextet? c with
      | none => ofBase64From filled left fills rest
      | some v =>
        match filled with
        | 0 => ofBase64From 1 v 0 rest
        | 1 => (ofBase64From 2 (v % 16) 0 rest).map ((left * 4 + v / 16) :: ·)
        | 2 => (ofBase64From 3 (v % 4) 0 rest).map ((left * 16 + v / 4) :: ·)
        | _ => (ofBase64From 0 0 0 rest).map ((left * 64 + v) :: ·)

def ofBase64? (s : List Char) : Option (List Nat) := ofBase64From 0 0 0 s

example : base64 [97, 58, 98] = ['Y', 'T', 'p', 'i'] := by decide
example : ofBase64? ['Y', 'T', '!', 'o', '='] = some [97, 58] := by decide
example : ofBase64? ['Y', 'T', 'o'] = none := by decide

end RouteOverrides.Text
