import RouteOverrides.Json.Basic
import RouteOverrides.Text.Decimal
import RouteOverrides.Text.Hex
import RouteOverrides.Text.Integer

/-! # Reading JSON

The reader takes the rest of the text and gives a value with what follows it, or the first thing
that is wrong, with the text from there on. Of two steps one at least consumes a character, so the
number of characters bounds the steps: it gives the `fuel` of the mutual functions, and `parse`
hides it.

* A number is an integer of up to `Text.maxDigits` digits, or a float if it has a point or an
  exponent. Three words stand for the floats that are no finite numbers.
* A string is read as a list of code units first. Two escapes that form a surrogate pair are then
  joined to one character, and half a pair alone becomes the replacement character.
* Of two members with one name the later value counts, at the place of the first.
* Arrays and objects may stand in each other up to `maxDepth` levels deep. -/

namespace RouteOverrides.Json

/-! ## Faults -/

/-- What is wrong with a text. -/
inductive FaultKind where
  | byteOrderMark
  | noValue
  | openString
  /-- A control character in a string is not escaped. -/
  | bareControl
  | unknownEscape
  | malformedUnit
  | noName
  | noColon
  | noComma
  /-- Something follows the value. -/
  | extraData
  /-- A number has too many digits. -/
  | hugeNumber (digits : Nat)
  /-- An array stands too deep in others. -/
  | deepArray
  /-- An object stands too deep in others. -/
  | deepObject
  deriving DecidableEq, Repr

/-- What is wrong, and the text from there on. -/
structure Snag where
  kind : FaultKind
  rest : List Char
  deriving DecidableEq, Repr

/-- What is read of a text, or the first thing that is wrong. -/
abbrev Reading := Except Snag

def FaultKind.message : FaultKind → String
  | byteOrderMark => "Unexpected UTF-8 BOM (decode using utf-8-sig)"
  | noValue => "Expecting value"
  | openString => "Unterminated string starting at"
  | bareControl => "Invalid control character at"
  | unknownEscape => "Invalid \\escape"
  | malformedUnit => "Invalid \\uXXXX escape"
  | noName => "Expecting property name enclosed in double quotes"
  | noColon => "Expecting ':' delimiter"
  | noComma => "Expecting ',' delimiter"
  | extraData => "Extra data"
  | hugeNumber digits =>
    "Exceeds the limit (" ++ toString Text.maxDigits
      ++ " digits) for integer string conversion: value has " ++ toString digits
      ++ " digits; use sys.set_int_max_str_digits() to increase the limit"
  | deepArray =>
    "maximum recursion depth exceeded while decoding a JSON array from a unicode string"
  | deepObject =>
    "maximum recursion depth exceeded while decoding a JSON object from a unicode string"

/-- Whether the place of a fault belongs to its text. It does not where a limit is exceeded. -/
def FaultKind.isPlaced : FaultKind → Bool
  | hugeNumber _ | deepArray | deepObject => false
  | _ => true

/-- What is wrong with a text, and where: lines and columns count from one, characters from zero. -/
structure Fault where
  kind : FaultKind
  line : Nat
  column : Nat
  position : Nat
  deriving DecidableEq, Repr

/-- What is wrong, with its place in the whole text. -/
def Snag.placeIn (whole : List Char) (snag : Snag) : Fault :=
  let before := whole.take (whole.length - snag.rest.length)
  { kind := snag.kind
    line := before.count '\n' + 1
    column := (before.reverse.takeWhile (· ≠ '\n')).length + 1
    position := before.length }

def Fault.message (fault : Fault) : String :=
  if fault.kind.isPlaced then
    fault.kind.message ++ ": line " ++ toString fault.line ++ " column " ++ toString fault.column
      ++ " (char " ++ toString fault.position ++ ")"
  else fault.kind.message

/-! ## White space -/

def isSpace (c : Char) : Bool := c == ' ' || c == '\n' || c == '\r' || c == '\t'

def skipSpace (s : List Char) : List Char := s.dropWhile isSpace

/-! ## Strings -/

def codeUnit? (a b c d : Char) : Option Nat := do
  let high := (← Text.hexValue? a) * 16 + (← Text.hexValue? b)
  let low := (← Text.hexValue? c) * 16 + (← Text.hexValue? d)
  pure (high * 256 + low)

def shortEscape? : Char → Option Char
  | '"' => some '"'
  | '\\' => some '\\'
  | '/' => some '/'
  | 'b' => some (Char.ofNat 8)
  | 'f' => some (Char.ofNat 12)
  | 'n' => some '\n'
  | 'r' => some '\r'
  | 't' => some '\t'
  | _ => none

/-- The code units up to the closing quote, and the text after it. The text from the opening quote
on comes first. -/
def scanString (opening : List Char) : List Char → Reading (List Nat × List Char)
  | [] => .error ⟨.openString, opening⟩
  | '"' :: rest => .ok ([], rest)
  -- Something has to follow the four digits, be it the closing quote.
  | '\\' :: 'u' :: a :: b :: c :: d :: next :: rest =>
    match codeUnit? a b c d with
    | none => .error ⟨.malformedUnit, 'u' :: a :: b :: c :: d :: next :: rest⟩
    | some unit => do
      let (units, after) ← scanString opening (next :: rest)
      pure (unit :: units, after)
  | '\\' :: 'u' :: rest => .error ⟨.malformedUnit, 'u' :: rest⟩
  | '\\' :: c :: rest =>
    match shortEscape? c with
    | none => .error ⟨.unknownEscape, '\\' :: c :: rest⟩
    | some plain => do
      let (units, after) ← scanString opening rest
      pure (plain.toNat :: units, after)
  | ['\\'] => .error ⟨.openString, opening⟩
  | c :: rest =>
    if c.toNat < 32 then .error ⟨.bareControl, c :: rest⟩
    else do
      let (units, after) ← scanString opening rest
      pure (c.toNat :: units, after)

/-- The first half of a surrogate pair. -/
def isHighSurrogate (n : Nat) : Bool := 0xD800 ≤ n && n < 0xDC00

def isLowSurrogate (n : Nat) : Bool := 0xDC00 ≤ n && n < 0xE000

/-- The character of a code unit that is not half of a pair. -/
def unitChar (n : Nat) : Char :=
  if isHighSurrogate n || isLowSurrogate n then Char.ofNat 0xFFFD else Char.ofNat n

def joinUnits : List Nat → List Char
  | [] => []
  | [unit] => [unitChar unit]
  | high :: low :: rest =>
    -- Two halves in a row are one character beyond the first 65536.
    if isHighSurrogate high && isLowSurrogate low then
      Char.ofNat (0x10000 + (high - 0xD800) * 0x400 + (low - 0xDC00)) :: joinUnits rest
    else unitChar high :: joinUnits (low :: rest)

def readString (s : List Char) : Reading (String × List Char) :=
  (scanString ('"' :: s) s).map fun scanned => (String.ofList (joinUnits scanned.1), scanned.2)

/-! ## Numbers -/

/-- The digits of a number without a sign at the front of the text: zero, or digits that do not
start with zero. -/
def scanDigits (s : List Char) : List Char × List Char :=
  match s with
  | '0' :: rest => (['0'], rest)
  | _ => (s.takeWhile Char.isDigit, s.dropWhile Char.isDigit)

/-- The digits behind a point. A point without digits does not belong to the number. -/
def scanPlaces : List Char → List Char × List Char
  | '.' :: rest =>
    match rest.span Char.isDigit with
    | ([], _) => ([], '.' :: rest)
    | scanned => scanned
  | s => ([], s)

/-- The number that digits spell, the most significant first. -/
def ofDigits (digits : List Char) : Nat := Text.ofDigits (digits.map fun c => c.toNat - 48)

/-- The exponent behind its letter. A letter without digits does not belong to the number. -/
def scanExponent (s : List Char) : Option Int × List Char :=
  match s with
  | letter :: rest =>
    if letter = 'e' ∨ letter = 'E' then
      let signed := rest.head? = some '+' ∨ rest.head? = some '-'
      match (if signed then rest.tail else rest).span Char.isDigit with
      | ([], _) => (none, s)
      | (digits, after) =>
        let size : Int := ofDigits digits
        (some (if rest.head? = some '-' then -size else size), after)
    else (none, s)
  | [] => (none, s)

/-- The number at the front of the text. Only a number with neither a point nor an exponent is an
integer. -/
def readNumber (s : List Char) : Reading (Json × List Char) :=
  let negative := s.head? = some '-'
  let (whole, afterWhole) := scanDigits (if negative then s.tail else s)
  let (places, afterPlaces) := scanPlaces afterWhole
  let (exponent?, after) := scanExponent afterPlaces
  if whole = [] then .error ⟨.noValue, s⟩
  else if places = [] ∧ exponent? = none then
    if whole.length > Text.maxDigits then .error ⟨.hugeNumber whole.length, s⟩
    else
      let magnitude : Int := ofDigits whole
      .ok (.int (if negative then -magnitude else magnitude), after)
  else
    let decimal : Text.Decimal := ⟨ofDigits (whole ++ places), exponent?.getD 0 - places.length⟩
    .ok (.float (if negative then -decimal.toFloat else decimal.toFloat), after)

example : (readNumber "-0-".toList).toOption.map (·.2) = some ['-'] := by decide +kernel
example : (readNumber "1.5e1.".toList).toOption.map (·.2) = some ['.'] := by decide +kernel
example : (readNumber "1e+".toList).toOption.map (·.2) = some ['e', '+'] := by decide +kernel

/-! ## Values -/

/-- The float that a word stands for which says that it is no number. -/
def notANumber : Float := Float.ofBits 0x7FF8000000000000

/-- The most levels that arrays and objects may stand in each other. -/
def maxDepth : Nat := 988

mutual

/-- The value at the front of the text. The second number says how many levels may still follow. -/
def readValue : Nat → Nat → List Char → Reading (Json × List Char)
  | 0, _, s => .error ⟨.noValue, s⟩
  | fuel + 1, depth, s =>
    match s with
    | '"' :: rest => (readString rest).map fun found => (.str found.1, found.2)
    | '[' :: rest =>
      match depth with
      | 0 => .error ⟨.deepArray, s⟩
      | depth + 1 =>
        match skipSpace rest with
        | ']' :: after => .ok (.arr [], after)
        | inner => (readItems fuel depth inner).map fun found => (.arr found.1, found.2)
    | '\x7b' :: rest =>
      match depth with
      | 0 => .error ⟨.deepObject, s⟩
      | depth + 1 =>
        match skipSpace rest with
        | '\x7d' :: after => .ok (.obj [], after)
        | inner =>
          (readMembers fuel depth inner).map fun found => (.obj (Keyed.ofPairs found.1), found.2)
    | 'n' :: 'u' :: 'l' :: 'l' :: rest => .ok (.null, rest)
    | 't' :: 'r' :: 'u' :: 'e' :: rest => .ok (.bool true, rest)
    | 'f' :: 'a' :: 'l' :: 's' :: 'e' :: rest => .ok (.bool false, rest)
    | 'N' :: 'a' :: 'N' :: rest => .ok (.float notANumber, rest)
    | 'I' :: 'n' :: 'f' :: 'i' :: 'n' :: 'i' :: 't' :: 'y' :: rest =>
      .ok (.float Text.Decimal.infinity, rest)
    | '-' :: 'I' :: 'n' :: 'f' :: 'i' :: 'n' :: 'i' :: 't' :: 'y' :: rest =>
      .ok (.float (-Text.Decimal.infinity), rest)
    | _ => readNumber s

/-- The items up to the closing bracket; there is at least one. -/
def readItems : Nat → Nat → List Char → Reading (List Json × List Char)
  | 0, _, s => .error ⟨.noValue, s⟩
  | fuel + 1, depth, s => do
    let (item, rest) ← readValue fuel depth s
    match skipSpace rest with
    | ',' :: more =>
      let (items, after) ← readItems fuel depth (skipSpace more)
      pure (item :: items, after)
    | ']' :: after => pure ([item], after)
    | other => throw ⟨.noComma, other⟩

/-- The members up to the closing brace; there is at least one. -/
def readMembers : Nat → Nat → List Char → Reading (List (String × Json) × List Char)
  | 0, _, s => .error ⟨.noValue, s⟩
  | fuel + 1, depth, s => do
    let (key, afterKey) ← match s with
      | '"' :: rest => readString rest
      | other => throw ⟨.noName, other⟩
    let afterColon ← match skipSpace afterKey with
      | ':' :: rest => pure rest
      | other => throw ⟨.noColon, other⟩
    let (value, rest) ← readValue fuel depth (skipSpace afterColon)
    match skipSpace rest with
    | ',' :: more =>
      let (members, after) ← readMembers fuel depth (skipSpace more)
      pure ((key, value) :: members, after)
    | '\x7d' :: after => pure ([(key, value)], after)
    | other => throw ⟨.noComma, other⟩

end

/-- The value that the characters of a whole text spell, at most so many levels deep. -/
def readAll (depth : Nat) (s : List Char) : Reading Json := do
  let (value, rest) ← readValue (2 * s.length + 1) depth (skipSpace s)
  match skipSpace rest with
  | [] => pure value
  | other => throw ⟨.extraData, other⟩

/-- The value that the characters of a whole text spell, or what is wrong with them, where arrays
and objects may stand in each other up to some depth. -/
def parseCharacters (depth : Nat) (s : List Char) : Except Fault Json :=
  (readAll depth s).mapError (·.placeIn s)

/-- The same for a text, which is not expected to start with a mark of its encoding. -/
def parseWithin (depth : Nat) (text : String) : Except Fault Json :=
  let s := text.toList
  if s.head? = some '\ufeff' then .error (Snag.placeIn s ⟨.byteOrderMark, s⟩)
  else parseCharacters depth s

/-- The value that a whole text spells, or what is wrong with the text. -/
def parse (text : String) : Except Fault Json := parseWithin maxDepth text

end RouteOverrides.Json
