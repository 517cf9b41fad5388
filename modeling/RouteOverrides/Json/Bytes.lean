import RouteOverrides.Json.Parser
import RouteOverrides.Text.Utf8

/-! # JSON as bytes

Bytes may spell a JSON text in UTF-8, or in units of two or four bytes in either order. A mark at
their start says in which; without a mark the zeros among the first bytes do, since a JSON text
starts with a character of ASCII.

* `Json.decode?`: the characters that bytes spell, if they spell any.
* `Json.parseBytes?`: the value that bytes spell, or what is wrong with their characters.

Half a surrogate pair alone becomes the replacement character, as it does behind an escape. -/

namespace RouteOverrides.Json

/-- How characters are written as bytes. Of the bytes of a unit the first one counts most, or the
last one. -/
inductive Encoding where
  | utf8
  | utf16 (bigEndian : Bool)
  | utf32 (bigEndian : Bool)
  deriving DecidableEq, Repr

namespace Encoding

/-- The encoding of bytes without a mark. -/
def guess : List Nat → Encoding
  | 0 :: 0 :: _ :: _ :: _ => .utf32 true
  | 0 :: _ :: _ :: _ :: _ => .utf16 true
  | _ :: 0 :: 0 :: 0 :: _ => .utf32 false
  | _ :: 0 :: _ :: _ :: _ => .utf16 false
  | [0, _] => .utf16 true
  | [_, 0] => .utf16 false
  | _ => .utf8

/-- The encoding of bytes, with the bytes behind the mark. -/
def detect : List Nat → Encoding × List Nat
  | 0x00 :: 0x00 :: 0xFE :: 0xFF :: rest => (.utf32 true, rest)
  | 0xFF :: 0xFE :: 0x00 :: 0x00 :: rest => (.utf32 false, rest)
  | 0xFE :: 0xFF :: rest => (.utf16 true, rest)
  | 0xFF :: 0xFE :: rest => (.utf16 false, rest)
  | 0xEF :: 0xBB :: 0xBF :: rest => (.utf8, rest)
  | bytes => (guess bytes, bytes)

/-- Parts below some base, two to a unit. None may be left over. -/
def units? (base : Nat) (bigEndian : Bool) : List Nat → Option (List Nat)
  | [] => some []
  | [_] => none
  | first :: second :: rest =>
    let unit := if bigEndian then first * base + second else second * base + first
    (units? base bigEndian rest).map (unit :: ·)

/-- Bytes in which no half of a surrogate pair is written. -/
def withoutHalves : List Nat → List Nat
  | 0xED :: second :: third :: rest =>
    -- A byte of this value starts a character, so no other character is torn apart.
    if 0xA0 ≤ second ∧ second ≤ 0xBF ∧ 0x80 ≤ third ∧ third ≤ 0xBF then
      Text.utf8Bytes Text.replacement ++ withoutHalves rest
    else 0xED :: withoutHalves (second :: third :: rest)
  | byte :: rest => byte :: withoutHalves rest
  | [] => []

def decode? : Encoding → List Nat → Option (List Char)
  | utf8, bytes =>
    let whole := withoutHalves bytes
    if Text.isUtf8 whole then some (Text.ofUtf8 whole) else none
  | utf16 bigEndian, bytes => (units? 256 bigEndian bytes).map joinUnits
  | utf32 bigEndian, bytes =>
    match (units? 256 bigEndian bytes).bind (units? 0x10000 bigEndian) with
    | some units => if units.all (· ≤ 0x10FFFF) then some (units.map unitChar) else none
    | none => none

end Encoding

/-- The characters that bytes spell in the encoding that they seem to have. -/
def decode? (bytes : List UInt8) : Option (List Char) :=
  let detected := Encoding.detect (bytes.map UInt8.toNat)
  detected.1.decode? detected.2

/-- The value that bytes spell, or what is wrong with the characters that they spell, where arrays
and objects may stand in each other up to some depth. -/
def parseBytes? (depth : Nat) (bytes : List UInt8) : Option (Except Fault Json) :=
  (decode? bytes).map (parseCharacters depth)

example : decode? [0xEF, 0xBB, 0xBF, 0x31] = some ['1'] := by decide +kernel
example : decode? [0x31, 0x00] = some ['1'] := by decide +kernel
example : decode? [0xFF] = none := by decide +kernel

end RouteOverrides.Json
