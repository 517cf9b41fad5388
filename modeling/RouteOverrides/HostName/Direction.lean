import RouteOverrides.Text.Ranges

/-! # Directions of writing

Most letters run from left to right. The tables list, for the code points that a host name may hold,
those that do not, as Unicode 14 has them; ranges pass over code points that no host name holds.

* `direction?`: the direction of a code point; none where Unicode 14 does not assign it.
* `directionFault?`: what is wrong with the directions of a label. Only a label with a code point
  that runs from right to left can be wrong. It has to start with a letter, all of it has to agree
  with that letter, and marks apart it has to end with a letter of that direction or a number. -/

namespace RouteOverrides.HostName

/-- How a code point runs. -/
inductive Direction where
  | leftToRight
  | rightToLeft
  /-- A digit of Arabic, which runs with the letters around it. -/
  | arabicNumber
  | europeanNumber
  /-- A mark goes with what stands in front of it. -/
  | mark
  | neutral
  deriving DecidableEq, Repr

/-! ## The ranges of each direction -/

def rightToLeftRanges : List (Nat × Nat) :=
  [(0x5D0, 0x5F4), (0x620, 0x64A), (0x66E, 0x66F), (0x671, 0x6D5), (0x6E5, 0x6E6), (0x6EE, 0x6EF),
   (0x6FA, 0x710), (0x712, 0x72F), (0x74D, 0x7A5), (0x7B1, 0x7EA), (0x7F4, 0x7F5), (0x800, 0x815),
   (0x81A, 0x81A), (0x824, 0x824), (0x828, 0x828), (0x840, 0x858), (0x860, 0x88E), (0x8A0, 0x8C9),
   (0xFE73, 0xFE73), (0x10800, 0x10939), (0x10980, 0x10A00), (0x10A10, 0x10A35), (0x10A60, 0x10AE4),
   (0x10B00, 0x10D23), (0x10E80, 0x10EA9), (0x10EB0, 0x10EB1), (0x10F00, 0x10F45),
   (0x10F70, 0x10F81), (0x10FB0, 0x10FF6), (0x1E800, 0x1E8C4), (0x1E922, 0x1E943),
   (0x1E94B, 0x1E959)]

def arabicNumberRanges : List (Nat × Nat) :=
  [(0x660, 0x669), (0x10D30, 0x10D39)]

def europeanNumberRanges : List (Nat × Nat) :=
  [(0x30, 0x39), (0x6F0, 0x6F9)]

/-- Code points without a direction of their own. -/
def neutralRanges : List (Nat × Nat) :=
  [(0x2D, 0x2D), (0xB7, 0xB7), (0x2B9, 0x2BA), (0x2C6, 0x2CF), (0x2EC, 0x2EC), (0x375, 0x375),
   (0x200C, 0x200D), (0x2E2F, 0x2E2F), (0x30FB, 0x30FB), (0xA67F, 0xA67F), (0xA717, 0xA71F),
   (0xA788, 0xA788)]

/-- Marks that take no room of their own. -/
def attachedRanges : List (Nat × Nat) :=
  [(0x300, 0x36F), (0x483, 0x487), (0x591, 0x5C7), (0x610, 0x61A), (0x64B, 0x65F), (0x670, 0x670),
   (0x6D6, 0x6E4), (0x6E7, 0x6ED), (0x711, 0x711), (0x730, 0x74A), (0x7A6, 0x7B0), (0x7EB, 0x7F3),
   (0x7FD, 0x7FD), (0x816, 0x819), (0x81B, 0x823), (0x825, 0x827), (0x829, 0x82D), (0x859, 0x85B),
   (0x898, 0x89F), (0x8CA, 0x902), (0x93A, 0x93A), (0x93C, 0x93C), (0x941, 0x948), (0x94D, 0x94D),
   (0x951, 0x957), (0x962, 0x963), (0x981, 0x981), (0x9BC, 0x9BC), (0x9C1, 0x9C4), (0x9CD, 0x9CD),
   (0x9E2, 0x9E3), (0x9FE, 0xA02), (0xA3C, 0xA3C), (0xA41, 0xA51), (0xA70, 0xA71), (0xA75, 0xA82),
   (0xABC, 0xABC), (0xAC1, 0xAC8), (0xACD, 0xACD), (0xAE2, 0xAE3), (0xAFA, 0xB01), (0xB3C, 0xB3C),
   (0xB3F, 0xB3F), (0xB41, 0xB44), (0xB4D, 0xB56), (0xB62, 0xB63), (0xB82, 0xB82), (0xBC0, 0xBC0),
   (0xBCD, 0xBCD), (0xC00, 0xC00), (0xC04, 0xC04), (0xC3C, 0xC3C), (0xC3E, 0xC40), (0xC46, 0xC56),
   (0xC62, 0xC63), (0xC81, 0xC81), (0xCBC, 0xCBC), (0xCCC, 0xCCD), (0xCE2, 0xCE3), (0xD00, 0xD01),
   (0xD3B, 0xD3C), (0xD41, 0xD44), (0xD4D, 0xD4D), (0xD62, 0xD63), (0xD81, 0xD81), (0xDCA, 0xDCA),
   (0xDD2, 0xDD6), (0xE31, 0xE31), (0xE34, 0xE3A), (0xE47, 0xE4E), (0xEB1, 0xEB1), (0xEB4, 0xEBC),
   (0xEC8, 0xECD), (0xF18, 0xF19), (0xF35, 0xF39), (0xF71, 0xF7E), (0xF80, 0xF87), (0xF8D, 0xFC6),
   (0x102D, 0x1030), (0x1032, 0x1037), (0x1039, 0x103A), (0x103D, 0x103E), (0x1058, 0x1059),
   (0x105E, 0x1060), (0x1071, 0x1074), (0x1082, 0x1082), (0x1085, 0x1086), (0x108D, 0x108D),
   (0x109D, 0x109D), (0x135D, 0x135F), (0x1712, 0x1714), (0x1732, 0x1733), (0x1752, 0x1753),
   (0x1772, 0x1773), (0x17B7, 0x17BD), (0x17C6, 0x17C6), (0x17C9, 0x17D3), (0x17DD, 0x17DD),
   (0x1885, 0x1886), (0x18A9, 0x18A9), (0x1920, 0x1922), (0x1927, 0x1928), (0x1932, 0x1932),
   (0x1939, 0x193B), (0x1A17, 0x1A18), (0x1A1B, 0x1A1B), (0x1A56, 0x1A56), (0x1A58, 0x1A60),
   (0x1A62, 0x1A62), (0x1A65, 0x1A6C), (0x1A73, 0x1A7F), (0x1AB0, 0x1ACE), (0x1B00, 0x1B03),
   (0x1B34, 0x1B34), (0x1B36, 0x1B3A), (0x1B3C, 0x1B3C), (0x1B42, 0x1B42), (0x1B6B, 0x1B81),
   (0x1BA2, 0x1BA5), (0x1BA8, 0x1BA9), (0x1BAB, 0x1BAD), (0x1BE6, 0x1BE6), (0x1BE8, 0x1BE9),
   (0x1BED, 0x1BED), (0x1BEF, 0x1BF1), (0x1C2C, 0x1C33), (0x1C36, 0x1C37), (0x1CD0, 0x1CE0),
   (0x1CE2, 0x1CE8), (0x1CED, 0x1CED), (0x1CF4, 0x1CF4), (0x1CF8, 0x1CF9), (0x1DC0, 0x1DFF),
   (0x2CEF, 0x2CF1), (0x2D7F, 0x2D7F), (0x2DE0, 0x2DFF), (0x302A, 0x302D), (0x3099, 0x309A),
   (0xA66F, 0xA67D), (0xA69E, 0xA69F), (0xA6F0, 0xA6F1), (0xA802, 0xA802), (0xA806, 0xA806),
   (0xA80B, 0xA80B), (0xA825, 0xA826), (0xA82C, 0xA82C), (0xA8C4, 0xA8C5), (0xA8E0, 0xA8F1),
   (0xA8FF, 0xA8FF), (0xA926, 0xA92D), (0xA947, 0xA951), (0xA980, 0xA982), (0xA9B3, 0xA9B3),
   (0xA9B6, 0xA9B9), (0xA9BC, 0xA9BD), (0xA9E5, 0xA9E5), (0xAA29, 0xAA2E), (0xAA31, 0xAA32),
   (0xAA35, 0xAA36), (0xAA43, 0xAA43), (0xAA4C, 0xAA4C), (0xAA7C, 0xAA7C), (0xAAB0, 0xAAB0),
   (0xAAB2, 0xAAB4), (0xAAB7, 0xAAB8), (0xAABE, 0xAABF), (0xAAC1, 0xAAC1), (0xAAEC, 0xAAED),
   (0xAAF6, 0xAAF6), (0xABE5, 0xABE5), (0xABE8, 0xABE8), (0xABED, 0xABED), (0xFB1E, 0xFE2F),
   (0x101FD, 0x101FD), (0x102E0, 0x102E0), (0x10376, 0x1037A), (0x10A01, 0x10A0F),
   (0x10A38, 0x10A3F), (0x10AE5, 0x10AE6), (0x10D24, 0x10D27), (0x10EAB, 0x10EAC),
   (0x10F46, 0x10F50), (0x10F82, 0x10F85), (0x11001, 0x11001), (0x11038, 0x11046),
   (0x11070, 0x11070), (0x11073, 0x11074), (0x1107F, 0x11081), (0x110B3, 0x110B6),
   (0x110B9, 0x110C2), (0x11100, 0x11102), (0x11127, 0x1112B), (0x1112D, 0x11134),
   (0x11173, 0x11173), (0x11180, 0x11181), (0x111B6, 0x111BE), (0x111C9, 0x111CC),
   (0x111CF, 0x111CF), (0x1122F, 0x11231), (0x11234, 0x11234), (0x11236, 0x1123E),
   (0x112DF, 0x112DF), (0x112E3, 0x112EA), (0x11300, 0x11301), (0x1133B, 0x1133C),
   (0x11340, 0x11340), (0x11366, 0x11374), (0x11438, 0x1143F), (0x11442, 0x11444),
   (0x11446, 0x11446), (0x1145E, 0x1145E), (0x114B3, 0x114B8), (0x114BA, 0x114BA),
   (0x114BF, 0x114C0), (0x114C2, 0x114C3), (0x115B2, 0x115B5), (0x115BC, 0x115BD),
   (0x115BF, 0x115C0), (0x115DC, 0x115DD), (0x11633, 0x1163A), (0x1163D, 0x1163D),
   (0x1163F, 0x11640), (0x116AB, 0x116AB), (0x116AD, 0x116AD), (0x116B0, 0x116B5),
   (0x116B7, 0x116B7), (0x1171D, 0x1171F), (0x11722, 0x11725), (0x11727, 0x1172B),
   (0x1182F, 0x11837), (0x11839, 0x1183A), (0x1193B, 0x1193C), (0x1193E, 0x1193E),
   (0x11943, 0x11943), (0x119D4, 0x119DB), (0x119E0, 0x119E0), (0x11A01, 0x11A06),
   (0x11A09, 0x11A0A), (0x11A33, 0x11A38), (0x11A3B, 0x11A47), (0x11A51, 0x11A56),
   (0x11A59, 0x11A5B), (0x11A8A, 0x11A96), (0x11A98, 0x11A99), (0x11C30, 0x11C3D),
   (0x11C92, 0x11CA7), (0x11CAA, 0x11CB0), (0x11CB2, 0x11CB3), (0x11CB5, 0x11CB6),
   (0x11D31, 0x11D45), (0x11D47, 0x11D47), (0x11D90, 0x11D91), (0x11D95, 0x11D95),
   (0x11D97, 0x11D97), (0x11EF3, 0x11EF4), (0x16AF0, 0x16AF4), (0x16B30, 0x16B36),
   (0x16F4F, 0x16F4F), (0x16F8F, 0x16F92), (0x16FE4, 0x16FE4), (0x1BC9D, 0x1DAAF),
   (0x1E000, 0x1E02A), (0x1E130, 0x1E136), (0x1E2AE, 0x1E2AE), (0x1E2EC, 0x1E2EF),
   (0x1E8D0, 0x1E8D6), (0x1E944, 0x1E94A)]

/-- Code points that Unicode 14 does not assign. -/
def undirectedRanges : List (Nat × Nat) :=
  [(0x88F, 0x897), (0xB53, 0xB54), (0xC5C, 0xC5C), (0xCDC, 0xCDC), (0xCF3, 0xCF3), (0xECE, 0xECE),
   (0x1ACF, 0x1AEB), (0x1C8A, 0x1C8A), (0xA7CD, 0xA7CF), (0xA7DB, 0xA7DB), (0x105C0, 0x105F3),
   (0x10940, 0x10959), (0x10D40, 0x10D85), (0x10EC2, 0x10EFF), (0x1123F, 0x11241),
   (0x11380, 0x113E2), (0x116D0, 0x116E3), (0x11B60, 0x11BF9), (0x11DB0, 0x11DE9),
   (0x11F00, 0x11F5A), (0x1342F, 0x143FA), (0x16100, 0x16139), (0x16D40, 0x16D79),
   (0x16EBB, 0x16ED3), (0x16FF2, 0x16FF3), (0x187F8, 0x187FF), (0x18CFF, 0x18CFF),
   (0x18D09, 0x18DF2), (0x1B132, 0x1B132), (0x1B155, 0x1B155), (0x1DF25, 0x1DF2A),
   (0x1E08F, 0x1E08F), (0x1E4D0, 0x1E6FF), (0x2B739, 0x2B73F), (0x2CEA2, 0x2CEAD),
   (0x2EBF0, 0x2EE5D), (0x31350, 0x33479), (0x3D000, 0x3FC3F)]

def direction? (c : Nat) : Option Direction :=
  if Text.inRanges undirectedRanges c then none
  else if Text.inRanges rightToLeftRanges c then some .rightToLeft
  else if Text.inRanges arabicNumberRanges c then some .arabicNumber
  else if Text.inRanges europeanNumberRanges c then some .europeanNumber
  else if Text.inRanges attachedRanges c then some .mark
  else if Text.inRanges neutralRanges c then some .neutral
  else some .leftToRight

/-! ## Directions in a label -/

/-- What is wrong with the directions of a label. Places are counted from one. -/
inductive DirectionFault where
  | unknown (position : Nat)
  /-- The first code point is no letter. -/
  | first
  /-- A code point runs against a label from right to left. -/
  | againstRightToLeft (position : Nat)
  /-- A label from right to left has digits of both kinds. -/
  | mixedNumbers
  /-- A code point runs against a label from left to right. -/
  | againstLeftToRight (position : Nat)
  | last
  deriving DecidableEq, Repr

namespace Direction

/-- Whether a code point makes the rules on directions apply. -/
def isBackward (direction : Direction) : Bool :=
  direction == rightToLeft || direction == arabicNumber

def isNumber (direction : Direction) : Bool :=
  direction == arabicNumber || direction == europeanNumber

/-- The direction that a label ends in, marks apart. -/
def ofEnd? (directions : List Direction) : Option Direction :=
  directions.reverse.find? (· != mark)

/-- What is wrong in a label from right to left, from a place on. The kind of digits that it has so
far comes first. -/
def rightToLeftFault? (number : Option Direction) (position : Nat) :
    List Direction → Option DirectionFault
  | [] => none
  | direction :: rest =>
    if direction = leftToRight then some (.againstRightToLeft position)
    else if direction.isNumber then
      if number.getD direction = direction then
        rightToLeftFault? (some direction) (position + 1) rest
      else some .mixedNumbers
    else rightToLeftFault? number (position + 1) rest

def leftToRightFault? (directions : List Direction) : Option DirectionFault :=
  (directions.findIdx? isBackward).map fun index => .againstLeftToRight (index + 1)

/-- A fault if the label does not end in one of the directions. -/
def endFault? (directions allowed : List Direction) : Option DirectionFault :=
  if (ofEnd? directions).any allowed.contains then none else some .last

/-- What is wrong with the directions of a label that has a backward one among them. -/
def fault? (directions : List Direction) : Option DirectionFault :=
  match directions.head? with
  | some rightToLeft =>
    rightToLeftFault? none 1 directions
      <|> endFault? directions [rightToLeft, europeanNumber, arabicNumber]
  | some leftToRight =>
    leftToRightFault? directions <|> endFault? directions [leftToRight, europeanNumber]
  | _ => some .first

end Direction

def directionFault? (label : List Nat) : Option DirectionFault :=
  match label.findIdx? fun c => (direction? c).isNone with
  | some index => some (.unknown (index + 1))
  | none =>
    let directions := label.filterMap direction?
    if directions.any Direction.isBackward then Direction.fault? directions else none

example : directionFault? [0x61, 0x31] = none := by decide +kernel
example : directionFault? [0x5D0, 0x31] = none := by decide +kernel
example : directionFault? [0x5D0, 0x61] = some (.againstRightToLeft 2) := by decide +kernel
example : directionFault? [0x31, 0x5D0] = some .first := by decide +kernel

end RouteOverrides.HostName
