/-! # Ranges of code points

Properties of characters are kept as tables of ranges with both ends included.

* `inRanges`: whether a code point lies in one of the ranges. -/

namespace RouteOverrides.Text

def inRanges (ranges : List (Nat × Nat)) (c : Nat) : Bool :=
  ranges.any fun range => range.1 ≤ c && c ≤ range.2

/-- A code point lies in a table exactly if one of its ranges holds it. -/
theorem inRanges_iff {ranges : List (Nat × Nat)} {c : Nat} :
    inRanges ranges c = true ↔ ∃ range ∈ ranges, range.1 ≤ c ∧ c ≤ range.2 := by
  simp [inRanges]

@[simp] theorem inRanges_append (first second : List (Nat × Nat)) (c : Nat) :
    inRanges (first ++ second) c = (inRanges first c || inRanges second c) := by
  simp [inRanges]

end RouteOverrides.Text
