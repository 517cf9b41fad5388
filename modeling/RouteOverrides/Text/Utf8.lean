/-! # UTF-8

* `utf8Bytes`: the bytes of a character.
* `ofUtf8`: the characters of any bytes. A byte sequence that is no character, or that breaks off,
  becomes the replacement character U+FFFD, once for each longest part that could have become one.
* `isUtf8`: whether bytes are the characters of a text.

The decoder carries the character that it is in the middle of (`Partial`), so it looks at each byte
once. -/

namespace RouteOverrides.Text

/-- Whether every character is of ASCII, which takes one byte each. -/
def isAscii (s : List Char) : Bool := s.all fun c => c.toNat < 128

def utf8Bytes (c : Char) : List Nat :=
  let n := c.toNat
  if n < 0x80 then [n]
  else if n < 0x800 then [0xC0 + n / 0x40, 0x80 + n % 0x40]
  else if n < 0x10000 then [0xE0 + n / 0x1000, 0x80 + n / 0x40 % 0x40, 0x80 + n % 0x40]
  else
    [0xF0 + n / 0x40000, 0x80 + n / 0x1000 % 0x40, 0x80 + n / 0x40 % 0x40, 0x80 + n % 0x40]

/-- A character that has begun: its bits so far, how many more bytes it takes, and the range of the
next one. -/
structure Partial where
  bits : Nat
  remaining : Nat
  low : Nat
  high : Nat
  deriving DecidableEq, Repr

def replacement : Char := Char.ofNat 0xFFFD

/-- What a first byte gives: characters, and a character that begins. -/
def firstByte (b : Nat) : List Char × Option Partial :=
  if b < 0x80 then ([Char.ofNat b], none)
  else if 0xC2 ≤ b ∧ b ≤ 0xDF then ([], some ⟨b - 0xC0, 1, 0x80, 0xBF⟩)
  else if b = 0xE0 then ([], some ⟨0, 2, 0xA0, 0xBF⟩)
  else if b = 0xED then ([], some ⟨0xD, 2, 0x80, 0x9F⟩)
  else if 0xE1 ≤ b ∧ b ≤ 0xEF then ([], some ⟨b - 0xE0, 2, 0x80, 0xBF⟩)
  else if b = 0xF0 then ([], some ⟨0, 3, 0x90, 0xBF⟩)
  else if 0xF1 ≤ b ∧ b ≤ 0xF3 then ([], some ⟨b - 0xF0, 3, 0x80, 0xBF⟩)
  else if b = 0xF4 then ([], some ⟨4, 3, 0x80, 0x8F⟩)
  else ([replacement], none)

/-- What one more byte gives, in the middle of a character or not. -/
def nextByte (pending : Option Partial) (b : Nat) : List Char × Option Partial :=
  match pending with
  | none => firstByte b
  | some char =>
    if char.low ≤ b ∧ b ≤ char.high then
      let bits := char.bits * 0x40 + b % 0x40
      if char.remaining ≤ 1 then ([Char.ofNat bits], none)
      else ([], some ⟨bits, char.remaining - 1, 0x80, 0xBF⟩)
    else
      let first := firstByte b
      (replacement :: first.1, first.2)

/-- The characters of bytes that follow a character that has begun. -/
def ofUtf8From (pending : Option Partial) : List Nat → List Char
  | [] => if pending.isSome then [replacement] else []
  | b :: bytes =>
    let next := nextByte pending b
    next.1 ++ ofUtf8From next.2 bytes

def ofUtf8 (bytes : List Nat) : List Char := ofUtf8From none bytes

/-- Whether bytes are the bytes of characters. They are if no character stands in for them. -/
def isUtf8 (bytes : List Nat) : Bool := (ofUtf8 bytes).flatMap utf8Bytes == bytes

example : ofUtf8 (utf8Bytes 'é' ++ utf8Bytes '東' ++ utf8Bytes '😀') = ['é', '東', '😀'] := by decide
example : ofUtf8 [0xC3, 0x41] = [replacement, 'A'] := by decide
example : ofUtf8 [0xE6, 0x9D] = [replacement] := by decide

end RouteOverrides.Text
