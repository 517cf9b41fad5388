/-! # Blank characters

Trimming, for texts that people type by hand: a comma-joined list of owners, or the value of an
environment variable.

* `isBlank`: the characters of the Unicode property White_Space, and the four information
  separators U+001C to U+001F.
* `trim`: a text without the blanks at its two ends.

The zero-width characters U+200B and U+FEFF are not blank: they stay part of a text. -/

namespace RouteOverrides.Text

/-- The blank characters outside the plain ranges of `isBlank`. -/
def strayBlanks : List Nat :=
  [0x20, 0x85, 0xA0, 0x1680, 0x2028, 0x2029, 0x202F, 0x205F, 0x3000]

def isBlank (c : Char) : Bool :=
  (9 ≤ c.toNat && c.toNat ≤ 13) || (0x1C ≤ c.toNat && c.toNat ≤ 0x1F)
    || (0x2000 ≤ c.toNat && c.toNat ≤ 0x200A) || strayBlanks.contains c.toNat

def trimLeft (s : List Char) : List Char := s.dropWhile isBlank

def trimRight (s : List Char) : List Char := (s.reverse.dropWhile isBlank).reverse

def trim (s : List Char) : List Char := trimRight (trimLeft s)

@[simp] theorem trimLeft_nil : trimLeft [] = [] := rfl
@[simp] theorem trimRight_nil : trimRight [] = [] := rfl
@[simp] theorem trim_nil : trim [] = [] := rfl

/-- A text that starts with a visible character has no blanks in front to lose. -/
@[simp] theorem trimLeft_cons_of_not_blank {c : Char} {s : List Char} (h : isBlank c = false) :
    trimLeft (c :: s) = c :: s := by
  simp [trimLeft, h]

theorem isBlank_of_isWhitespace {c : Char} (h : c.isWhitespace = true) : isBlank c = true := by
  simp only [Char.isWhitespace, Bool.or_eq_true, decide_eq_true_eq] at h
  rcases h with ((rfl | rfl) | rfl) | rfl <;> decide

end RouteOverrides.Text
