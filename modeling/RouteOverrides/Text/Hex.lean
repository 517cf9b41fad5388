/-! # Hexadecimal digits

* `hexDigits`: the last digits of a number, in lower case.
* `hexValue?`: the value of a digit, in either case.

The main statements: a digit that is written reads back, and every value is below sixteen. -/

namespace RouteOverrides.Text

/-- Hexadecimal digits of `n`, the last `width` of them. -/
def hexDigits : Nat → Nat → List Char
  | 0, _ => []
  | width + 1, n => hexDigits width (n / 16) ++ [Nat.digitChar (n % 16)]

def hexValue? (c : Char) : Option Nat :=
  if '0' ≤ c ∧ c ≤ '9' then some (c.toNat - 48)
  else if 'a' ≤ c ∧ c ≤ 'f' then some (c.toNat - 87)
  else if 'A' ≤ c ∧ c ≤ 'F' then some (c.toNat - 55)
  else none

/-- As many digits as were asked for. -/
@[simp] theorem length_hexDigits (width n : Nat) : (hexDigits width n).length = width := by
  induction width generalizing n with
  | zero => rfl
  | succ width ih => simp [hexDigits, ih]

theorem hexValue?_digitChar : ∀ d < 16, hexValue? (Nat.digitChar d) = some d := by decide

/-- A digit has a value below sixteen. -/
theorem hexValue?_lt {c : Char} {d : Nat} (h : hexValue? c = some d) : d < 16 := by
  unfold hexValue? at h
  -- Each range of digits ends where its largest value does.
  split at h
  · rename_i hrange
    have hle : c.toNat ≤ 57 := hrange.2
    have heq := Option.some.inj h
    omega
  · split at h
    · rename_i hrange
      have hle : c.toNat ≤ 102 := hrange.2
      have heq := Option.some.inj h
      omega
    · split at h
      · rename_i hrange
        have hle : c.toNat ≤ 70 := hrange.2
        have heq := Option.some.inj h
        omega
      · cases h

end RouteOverrides.Text
