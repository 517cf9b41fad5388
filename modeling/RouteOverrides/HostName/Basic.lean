import RouteOverrides.HostName.Address
import RouteOverrides.HostName.Label
import RouteOverrides.Text.LowerCase
import RouteOverrides.Text.Percent

/-! # Host names

The labels of a host name stand between points, and a last point may follow them. The full stops of
East Asian scripts count as points too.

* `encode`: the name in ASCII.
* `spellingFault?`: why a name in ASCII cannot be read back.
* `written`: a name in ASCII as requests carry it. -/

namespace RouteOverrides.HostName

def isPoint (c : Nat) : Bool := c == 0x2E || c == 0x3002 || c == 0xFF0E || c == 0xFF61

/-- The most characters that a host name may have; a last point does not count. -/
def maxLength : Nat := 253

/-- Labels without the empty one behind a last point, and that empty one if it is there. -/
def cutLast {α : Type} (labels : List (List α)) : List (List α) × List (List α) :=
  if labels.getLast?.any List.isEmpty then (labels.dropLast, [[]]) else (labels, [])

/-- The name in ASCII that stands for a name in lower case. -/
def encode (name : List Nat) : Except LabelFault (List Char) := do
  if name.length > maxLength + 1 then throw .longName
  let (labels, last) := cutLast (name.splitOnP isPoint)
  if labels = [] then throw .emptyName
  let spelled ← labels.mapM Label.encode
  if (Text.join '.' spelled).length > maxLength then throw .longName
  pure (Text.join '.' (spelled ++ last.map fun _ => []))

/-- Why a name in ASCII cannot be read back, if it cannot. -/
def spellingFault? (name : List Char) : Option LabelFault :=
  if name.length > maxLength + 1 then some .longName
  else
    match (cutLast (Text.split '.' name)).1.mapM Label.decode with
    | .ok _ => none
    | .error fault => some fault

/-! ## Names in requests -/

/-- The characters besides letters and digits that a name carries as they are. -/
def plainMarks : List Char := "-._~!$&'()*+,;=\"`\x7b\x7d%|\\".toList

/-- One character of a name in ASCII, as a percent escape if a name cannot carry it. -/
def writtenChar (c : Char) : List Char :=
  if c.isAlphanum || plainMarks.contains c then [c.toLower]
  else Text.byteEscape c.toNat

/-- A name in ASCII as requests carry it: in lower case, and with escapes. -/
def written (name : List Char) : List Char := name.flatMap writtenChar

example : (encode ("é.a.".toList.map Char.toNat)).toOption = some "xn--9ca.a.".toList := by
  decide +kernel
example : (encode ("a..é".toList.map Char.toNat)).toOption = none := by decide +kernel
example : spellingFault? "xn--9ca".toList = none := by decide +kernel
example : spellingFault? "xn--".toList = some .emptySpelling := by decide +kernel
example : spellingFault? "xn---9ca".toList = some .otherSpelling := by decide +kernel

end RouteOverrides.HostName
