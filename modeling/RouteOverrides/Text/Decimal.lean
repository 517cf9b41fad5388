/-! # Decimals and floats

A decimal is written with digits and a power of ten. A float of 64 bits stands for every number that
is nearer to it than to any other float, so several decimals are read as the same float.

* `Decimal.toFloat`: the float that a decimal is read as. Beyond the floats it is infinite or zero.
* `Decimal.shortest`: the decimal with the fewest digits that is read as a float, and the nearest of
  those. With each count of digits only the two decimals around the float are looked at.
* `Decimal.written`: a decimal as text. Very large and very small ones are written with an
  exponent. -/

namespace RouteOverrides.Text

/-- The number `digits * 10 ^ exponent`. -/
structure Decimal where
  digits : Nat
  exponent : Int
  deriving DecidableEq, Repr

namespace Decimal

def digitCount (n : Nat) : Nat := (Nat.toDigits 10 n).length

/-- How many digits stand in front of the point. Zeros behind it count from there on. -/
def lead (decimal : Decimal) : Int := digitCount decimal.digits + decimal.exponent

def infinity : Float := Float.ofBits 0x7FF0000000000000

/-- The float that a decimal is read as: the nearest one, and at the same distance the even one. -/
def toFloat (decimal : Decimal) : Float :=
  -- The bounds lie beyond every float, so that no great power of ten is ever worked out.
  if decimal.digits = 0 ∨ decimal.lead < -330 then 0
  else if 310 < decimal.lead then infinity
  else Float.ofScientific decimal.digits (decimal.exponent < 0) decimal.exponent.natAbs

example : toFloat ⟨15, -1⟩ = 1.5 := by decide +kernel
example : toFloat ⟨1, 400⟩ = infinity := by decide +kernel
example : toFloat ⟨0, 400⟩ = 0 := by decide +kernel

/-! ## The magnitude of a float -/

/-- The bits of a float without its sign. -/
def magnitudeBits (x : Float) : Nat := x.toBits.toNat % Nat.pow 2 63

def isNegative (x : Float) : Bool := Nat.pow 2 63 ≤ x.toBits.toNat

/-- How many units are one. Every finite float is a whole number of units. -/
def unitsInOne : Nat := Nat.pow 2 1075

/-- The magnitude of a finite float in units. -/
def units (x : Float) : Nat :=
  let power := magnitudeBits x / Nat.pow 2 52
  let rest := magnitudeBits x % Nat.pow 2 52
  -- The smallest floats lack the leading bit that all others have.
  if power = 0 then 2 * rest else (Nat.pow 2 52 + rest) * Nat.pow 2 power

/-- The decimal that is exactly the magnitude of a finite float. -/
def exact (x : Float) : Decimal := ⟨units x * Nat.pow 5 1075, -1075⟩

/-! ## The shortest decimal -/

/-- The decimals of an exponent on both sides of some units: the nearer one first, and at the same
distance the even one. -/
def around (units : Nat) (exponent : Int) : List Decimal :=
  let top := units * Nat.pow 10 (-exponent).toNat
  let bottom := unitsInOne * Nat.pow 10 exponent.toNat
  let low := top / bottom
  let rest := 2 * (top % bottom)
  if rest < bottom ∨ (rest = bottom ∧ low % 2 = 0) then [⟨low, exponent⟩, ⟨low + 1, exponent⟩]
  else [⟨low + 1, exponent⟩, ⟨low, exponent⟩]

/-- The decimals around some units, those with the fewest digits first. No float needs more than
seventeen digits. -/
def candidates (units : Nat) : List Decimal :=
  let lead : Int := digitCount (units * Nat.pow 10 330 / unitsInOne) - 330
  (List.range' 1 17).flatMap fun count : Nat => around units (lead - count)

/-- The shortest decimal that is read as the magnitude of a finite float. -/
def shortest (x : Float) : Decimal :=
  ((candidates (units x)).find? fun decimal =>
    magnitudeBits decimal.toFloat = magnitudeBits x).getD (exact x)

/-! ## Decimals as text -/

/-- The digits without the zeros at their end. -/
def significant (decimal : Decimal) : List Char :=
  ((Nat.toDigits 10 decimal.digits).reverse.dropWhile (· == '0')).reverse

/-- Digits with a point behind the first few. -/
def pointed (digits : List Char) (lead : Int) : List Char :=
  if lead ≤ 0 then '0' :: '.' :: (List.replicate (-lead).toNat '0' ++ digits)
  else
    let padded := digits ++ List.replicate (lead.toNat + 1 - digits.length) '0'
    padded.take lead.toNat ++ '.' :: padded.drop lead.toNat

/-- Digits with a point behind the first one, unless it stands alone, and the exponent. -/
def scientific (digits : List Char) (exponent : Int) : List Char :=
  let places := digits.drop 1
  let size := Nat.toDigits 10 exponent.natAbs
  digits.take 1 ++ (if places = [] then [] else '.' :: places)
    ++ 'e' :: (if exponent < 0 then '-' else '+')
    :: (List.replicate (2 - size.length) '0' ++ size)

/-- A decimal that is not zero as text. Up to sixteen digits are written in front of the point, and
up to three zeros behind it. -/
def written (decimal : Decimal) : List Char :=
  if -4 < decimal.lead ∧ decimal.lead ≤ 16 then pointed decimal.significant decimal.lead
  else scientific decimal.significant (decimal.lead - 1)

example : (shortest 0.1).written = "0.1".toList := by decide +kernel
example : (shortest 1e16).written = "1e+16".toList := by decide +kernel
example : (shortest 5e-324).written = "5e-324".toList := by decide +kernel

end Decimal

end RouteOverrides.Text
