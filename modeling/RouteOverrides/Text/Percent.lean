import RouteOverrides.Text.Hex
import RouteOverrides.Text.Utf8

/-! # Percent escapes

In the path of a request a byte may be written as a percent sign and two hexadecimal digits. A
percent sign without them stands for itself.

* `percentDecode`: the text that a text with escapes stands for.
* `percentEncode`: a text with escapes for all characters that are not to be kept. -/

namespace RouteOverrides.Text

def percentBytes : List Char → List Nat
  | '%' :: a :: b :: rest =>
    match hexValue? a, hexValue? b with
    | some high, some low => (high * 16 + low) :: percentBytes rest
    | _, _ => 0x25 :: percentBytes (a :: b :: rest)
  | c :: rest => utf8Bytes c ++ percentBytes rest
  | [] => []

def percentDecode (s : List Char) : List Char := ofUtf8 (percentBytes s)

def byteEscape (b : Nat) : List Char := '%' :: (hexDigits 2 b).map Char.toUpper

/-- A text with escapes in place of the characters that are not kept. -/
def percentEncode (keeps : Char → Bool) (s : List Char) : List Char :=
  s.flatMap fun c => if keeps c then [c] else (utf8Bytes c).flatMap byteEscape

/-- Whether a character never needs an escape. -/
def isUnreserved (c : Char) : Bool := c.isAlphanum || c == '-' || c == '.' || c == '_' || c == '~'

example : percentEncode isUnreserved ['a', ' ', 'é'] = "a%20%C3%A9".toList := by decide +kernel
example : percentDecode ['a', '%', '2', '0', 'b', '%', 'z'] = ['a', ' ', 'b', '%', 'z'] := by decide

end RouteOverrides.Text
