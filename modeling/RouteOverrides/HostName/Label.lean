import RouteOverrides.HostName.Direction
import RouteOverrides.HostName.Joining
import RouteOverrides.HostName.Permitted
import RouteOverrides.HostName.Script
import RouteOverrides.Text.Composed
import RouteOverrides.Text.Mark
import RouteOverrides.Text.Punycode
import RouteOverrides.Text.Quoted

/-! # Labels of host names

A host name consists of labels with points between them. A label holds letters, digits, marks and
inner dashes of any script; a label beyond ASCII is also spelled in ASCII, as Punycode behind
`xn--`. A label is a list of code points, since what is spelled need not be a text.

* `Label.fault?`: what is wrong with a label, if anything is.
* `Label.decode`: the label that is spelled.
* `Label.encode`: the spelling of a label, which has to be short enough. -/

namespace RouteOverrides.HostName

/-- A label as code points. -/
abbrev Label := List Nat

/-- Why a label or a host name is refused. Places are counted from one. -/
inductive LabelFault where
  | emptyName
  | longName
  | emptyLabel
  | longLabel
  | notComposed
  | reservedDashes
  | outerDash
  | leadingMark
  | notPermitted (c : Nat) (position : Nat) (label : Label)
  /-- Punctuation lacks the neighbours that it needs. -/
  | misplaced (c : Nat) (position : Nat) (label : Label)
  /-- A joiner stands where it has no effect. -/
  | uselessJoiner (c : Nat) (position : Nat) (label : Label)
  /-- Whether a joiner has an effect cannot be told from the code point in front of it. -/
  | unclearJoiner (c : Nat) (position : Nat) (label : Label)
  | direction (fault : DirectionFault) (label : Label)
  /-- Nothing stands behind the mark of a spelling. -/
  | emptySpelling
  | spellingEndsInDash
  | misspelled
  /-- The label has another spelling, which is the right one. -/
  | otherSpelling
  deriving DecidableEq, Repr

/-- A code point by its number, with at least four digits. -/
def pointName (c : Nat) : String :=
  let digits := (Nat.toDigits 16 c).map Char.toUpper
  "U+" ++ String.ofList (List.replicate (4 - digits.length) '0' ++ digits)

/-- The text of a fault in the directions of a label. -/
def DirectionFault.message (label : Label) : DirectionFault → String
  | unknown position =>
    "Unknown directionality in label " ++ Text.quotedPoints label ++ " at position "
      ++ toString position
  | first =>
    "First codepoint in label " ++ Text.quotedPoints label ++ " must be directionality L, R or AL"
  | againstRightToLeft position =>
    "Invalid direction for codepoint at position " ++ toString position
      ++ " in a right-to-left label"
  | mixedNumbers => "Can not mix numeral types in a right-to-left label"
  | againstLeftToRight position =>
    "Invalid direction for codepoint at position " ++ toString position
      ++ " in a left-to-right label"
  | last => "Label ends with illegal codepoint directionality"

def LabelFault.message : LabelFault → String
  | emptyName => "Empty domain"
  | longName => "Domain too long"
  | emptyLabel => "Empty Label"
  | longLabel => "Label too long"
  | notComposed => "Label must be in Normalization Form C"
  | reservedDashes => "Label has disallowed hyphens in 3rd and 4th position"
  | outerDash => "Label must not start or end with a hyphen"
  | leadingMark => "Label begins with an illegal combining character"
  | notPermitted c position label =>
    "Codepoint " ++ pointName c ++ " at position " ++ toString position ++ " of "
      ++ Text.quotedPoints label ++ " not allowed"
  | misplaced c position label =>
    "Codepoint " ++ pointName c ++ " not allowed at position " ++ toString position ++ " in "
      ++ Text.quotedPoints label
  | uselessJoiner c position label =>
    "Joiner " ++ pointName c ++ " not allowed at position " ++ toString position ++ " in "
      ++ Text.quotedPoints label
  | unclearJoiner c position label =>
    "Unknown codepoint adjacent to joiner " ++ pointName c ++ " at position " ++ toString position
      ++ " in " ++ Text.quotedPoints label
  | direction fault label => fault.message label
  | emptySpelling => "Malformed A-label, no Punycode eligible content found"
  | spellingEndsInDash => "A-label must not end with a hyphen"
  | misspelled => "Invalid A-label"
  | otherSpelling => "A-label is not the canonical Punycode encoding of its U-label"

namespace Label

def dash : Nat := 0x2D

/-- The combining class of the mark that takes the vowel from a letter. -/
def vowelKiller : Nat := 9

/-! ## Code points that need certain neighbours -/

/-- The two joiners, which have no shape of their own. -/
def isJoiner (c : Nat) : Bool := c == 0x200C || c == 0x200D

/-- Whether a joiner has an effect between two parts of a label: behind a letter without its vowel,
and, if it keeps letters apart, between two letters that would join. -/
def joinerFits (before : Label) (c : Nat) (after : Label) : Bool :=
  before.getLast?.any (Text.combiningClass · == vowelKiller)
    || (c == 0x200C && mayBeParted before after)

/-- Ideographs without a name of their own, whose combining class is taken to be unknown. -/
def namelessRanges : List (Nat × Nat) := [(0x17000, 0x187F7), (0x18D00, 0x18D08)]

/-- Whether it is known how a code point combines. It is of those that Unicode 14 names. -/
def isKnown (c : Nat) : Bool :=
  Text.combiningClass c != 0 || ((direction? c).isSome && !Text.inRanges namelessRanges c)

def isArabicDigit (c : Nat) : Bool := 0x660 ≤ c && c ≤ 0x669

/-- Digits of Arabic as they are written in Persian and Urdu. -/
def isEasternDigit (c : Nat) : Bool := 0x6F0 ≤ c && c ≤ 0x6F9

/-- Whether a code point that depends on its neighbours may stand between two parts of a label; none
if it is no such code point. -/
def fits? (before : Label) (c : Nat) (after : Label) : Option Bool :=
  -- The middle dot of Catalan parts two letters l.
  if c = 0xB7 then some (before.getLast? == some 0x6C && after.head? == some 0x6C)
  else if c = 0x375 then some (after.head?.any isGreek)
  else if c = 0x5F3 ∨ c = 0x5F4 then some (before.getLast?.any isHebrew)
  else if c = 0x30FB then some ((before ++ after).any fun other => other != c && isJapanese other)
  else if isArabicDigit c then some (!(before ++ after).any isEasternDigit)
  else if isEasternDigit c then some (!(before ++ after).any isArabicDigit)
  else none

/-! ## Faults of labels -/

def pointFault? (before : Label) (c : Nat) (after : Label) : Option LabelFault :=
  let position := before.length + 1
  let label := before ++ c :: after
  if isPermitted c then none
  else if isJoiner c then
    if before.getLast?.any (!isKnown ·) then some (.unclearJoiner c position label)
    else if joinerFits before c after then none
    else some (.uselessJoiner c position label)
  else
    match fits? before c after with
    | some true => none
    | some false => some (.misplaced c position label)
    | none => some (.notPermitted c position label)

/-- What is wrong with the first code point that is wrong, of those behind a part of a label. -/
def firstPointFault? (before : Label) : Label → Option LabelFault
  | [] => none
  | c :: after => pointFault? before c after <|> firstPointFault? (before ++ [c]) after

def fault? (label : Label) : Option LabelFault :=
  if label = [] then some .emptyLabel
  else if !Text.isComposed label then some .notComposed
  else if (label.drop 2).take 2 = [dash, dash] then some .reservedDashes
  else if label.head? = some dash ∨ label.getLast? = some dash then some .outerDash
  else if label.head?.any Text.isMark then some .leadingMark
  else
    firstPointFault? [] label <|>
      (directionFault? label).map fun fault => .direction fault label

/-- A label without faults. -/
def checked (label : Label) : Except LabelFault Label :=
  match label.fault? with
  | some fault => .error fault
  | none => .ok label

/-! ## Spellings -/

def spellingMark : List Char := "xn--".toList

/-- A label without faults, provided that it is spelled rightly. -/
def checkedSpelling (spelling : List Char) (label : Label) : Except LabelFault Label := do
  let label ← checked label
  -- A dash in front of the code points beyond ASCII may be too many.
  if Text.Punycode.encode label = spelling then pure label else throw .otherSpelling

/-- The label that a label of ASCII, read in lower case, stands for. -/
def decode (written : List Char) : Except LabelFault Label :=
  let s := written.map Char.toLower
  if spellingMark.isPrefixOf s then
    let spelling := s.drop spellingMark.length
    if spelling = [] then .error .emptySpelling
    else if spelling.getLast? = some '-' then .error .spellingEndsInDash
    else
      match Text.Punycode.decode? spelling with
      | some label => checkedSpelling spelling label
      | none => .error .misspelled
  else checked (s.map Char.toNat)

/-- The most characters that a label in ASCII may have. -/
def maxLength : Nat := 63

/-- The label of ASCII that stands for a label in lower case. -/
def encode (label : Label) : Except LabelFault (List Char) := do
  let spelled ←
    if label.all (· < 128) then
      let s := label.map Char.ofNat
      (decode s).map fun _ => s
    else (checked label).map fun label => spellingMark ++ Text.Punycode.encode label
  if spelled.length > maxLength then throw .longLabel
  pure spelled

end Label

end RouteOverrides.HostName
