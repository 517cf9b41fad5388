import RouteOverrides.Text.CombiningClass
import RouteOverrides.Text.Composition

/-! # Composed texts

A text may spell a character with marks in several ways. It is composed (normalization form C) if it
is spelled the one way that all these become: marks in the order of their classes, and joined with
the character in front as far as there are code points for that.

* `composed`: the composed spelling, for texts without the code points of `replacedRanges`.
* `isComposed`: whether a text is composed. -/

namespace RouteOverrides.Text

/-- Code points that always give way to others in a composed text, as Unicode 14 has them. -/
def replacedRanges : List (Nat × Nat) :=
  [(0x340, 0x341), (0x343, 0x344), (0x374, 0x374), (0x37E, 0x37E), (0x387, 0x387), (0x958, 0x95F),
   (0x9DC, 0x9DD), (0x9DF, 0x9DF), (0xA33, 0xA33), (0xA36, 0xA36), (0xA59, 0xA5B), (0xA5E, 0xA5E),
   (0xB5C, 0xB5D), (0xF43, 0xF43), (0xF4D, 0xF4D), (0xF52, 0xF52), (0xF57, 0xF57), (0xF5C, 0xF5C),
   (0xF69, 0xF69), (0xF73, 0xF73), (0xF75, 0xF76), (0xF78, 0xF78), (0xF81, 0xF81), (0xF93, 0xF93),
   (0xF9D, 0xF9D), (0xFA2, 0xFA2), (0xFA7, 0xFA7), (0xFAC, 0xFAC), (0xFB9, 0xFB9), (0x1F71, 0x1F71),
   (0x1F73, 0x1F73), (0x1F75, 0x1F75), (0x1F77, 0x1F77), (0x1F79, 0x1F79), (0x1F7B, 0x1F7B),
   (0x1F7D, 0x1F7D), (0x1FBB, 0x1FBB), (0x1FBE, 0x1FBE), (0x1FC9, 0x1FC9), (0x1FCB, 0x1FCB),
   (0x1FD3, 0x1FD3), (0x1FDB, 0x1FDB), (0x1FE3, 0x1FE3), (0x1FEB, 0x1FEB), (0x1FEE, 0x1FEF),
   (0x1FF9, 0x1FF9), (0x1FFB, 0x1FFB), (0x1FFD, 0x1FFD), (0x2000, 0x2001), (0x2126, 0x2126),
   (0x212A, 0x212B), (0x2329, 0x232A), (0x2ADC, 0x2ADC), (0xF900, 0xFA0D), (0xFA10, 0xFA10),
   (0xFA12, 0xFA12), (0xFA15, 0xFA1E), (0xFA20, 0xFA20), (0xFA22, 0xFA22), (0xFA25, 0xFA26),
   (0xFA2A, 0xFA6D), (0xFA70, 0xFAD9), (0xFB1D, 0xFB1D), (0xFB1F, 0xFB1F), (0xFB2A, 0xFB36),
   (0xFB38, 0xFB3C), (0xFB3E, 0xFB3E), (0xFB40, 0xFB41), (0xFB43, 0xFB44), (0xFB46, 0xFB4E),
   (0x1D15E, 0x1D164), (0x1D1BB, 0x1D1C0), (0x2F800, 0x2FA1D)]

/-- A code point with its marks parted from it, at most as many as the fuel says. -/
def partMarks : Nat → Nat → List Nat
  | 0, c => [c]
  | fuel + 1, c =>
    match parted? c with
    | some (first, mark) => partMarks fuel first ++ [mark]
    | none => [c]

/-- The most marks that a code point has. -/
def maxMarks : Nat := 3

/-- A code point in front of an ordered text: a mark goes behind the marks of lower classes. -/
def insertMark (c : Nat) : List Nat → List Nat
  | [] => [c]
  | d :: rest =>
    if 0 < combiningClass d ∧ combiningClass d < combiningClass c then d :: insertMark c rest
    else c :: d :: rest

/-- A text with its marks in the order of their classes. -/
def orderMarks (s : List Nat) : List Nat := s.foldr insertMark []

/-- An ordered text with its marks joined to the character in front. The character comes first, and
then the marks behind it that could not be joined, the last one first. -/
def joinMarks (first : Nat) (marks : List Nat) : List Nat → List Nat
  | [] => first :: marks.reverse
  | c :: rest =>
    -- A mark in between of the same class, or any before a letter, is in the way.
    let blocked := marks.head?.any fun mark => combiningClass c ≤ combiningClass mark
    match if blocked then none else joined? first c with
    | some whole => joinMarks whole marks rest
    | none =>
      if combiningClass c = 0 then first :: marks.reverse ++ joinMarks c [] rest
      else joinMarks first (c :: marks) rest

def composed (s : List Nat) : List Nat :=
  match orderMarks (s.flatMap (partMarks maxMarks)) with
  | [] => []
  | first :: rest => joinMarks first [] rest

def isComposed (s : List Nat) : Bool := !s.any (inRanges replacedRanges) && composed s == s

example : composed [0x61, 0x302, 0x323] = [0x1EAD] := by decide +kernel
example : isComposed [0xE9] = true := by decide +kernel
example : isComposed [0x65, 0x301] = false := by decide +kernel

end RouteOverrides.Text
