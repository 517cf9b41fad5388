import RouteOverrides.Text.Split

/-! # Punycode

Punycode spells a text of any script with letters, digits and dashes. The characters of ASCII come
first, as they are, with a dash behind them if there are any. Then a number for every other
character says how far to go to the place where it is put in, in the order of their code points. A
number has its last digit first; which digits end a number depends on the numbers before it.

* `encode`: the spelling of a text.
* `decode?`: the code points that are spelled. Code points are numbers, since halves of surrogate
  pairs can be spelled as well. -/

namespace RouteOverrides.Text.Punycode

/-! ## Digits -/

/-- The character of a digit: the letters count from zero, the decimal digits from twenty-six. -/
def digitChar (d : Nat) : Char :=
  if d < 26 then Char.ofNat ('a'.toNat + d) else Char.ofNat ('0'.toNat + (d - 26))

/-- The value of a digit. Capital letters count as well. -/
def digitValue? (c : Char) : Option Nat :=
  if 'a' ≤ c ∧ c ≤ 'z' then some (c.toNat - 'a'.toNat)
  else if 'A' ≤ c ∧ c ≤ 'Z' then some (c.toNat - 'A'.toNat)
  else if '0' ≤ c ∧ c ≤ '9' then some (c.toNat - '0'.toNat + 26)
  else none

theorem digitValue?_digitChar : ∀ d < 36, digitValue? (digitChar d) = some d := by decide

/-- The digit at a place that is the first to go on with its number; lower ones end it. -/
def threshold (bias place : Nat) : Nat := max 1 (min 26 (36 * (place + 1) - bias))

def settle (distance : Nat) : Nat :=
  if 455 < distance then 36 + settle (distance / 35)
  else 36 * distance / (distance + 38)
termination_by distance
decreasing_by omega

/-- The bias after a distance, when `count` characters are there. The first distance of a text is
longer than those that follow it. -/
def nextBias (isFirst : Bool) (count distance : Nat) : Nat :=
  let scaled := if isFirst then distance / 700 else distance / 2
  settle (scaled + scaled / count)

/-! ## Writing -/

/-- The digits of a number, from a place on. -/
def writeNumber (bias place n : Nat) : List Char :=
  let t := threshold bias place
  if n < t then [digitChar n]
  else digitChar (t + (n - t) % (36 - t)) :: writeNumber bias (place + 1) ((n - t) / (36 - t))
termination_by n
decreasing_by
  have hpos : 1 ≤ threshold bias place := Nat.le_max_left ..
  exact Nat.lt_of_le_of_lt (Nat.div_le_self ..) (by omega)

/-- What has been written of a text: the numbers so far, the way to go since the last of them, the
number of characters that are done with, and the bias. -/
structure Progress where
  written : List Char
  distance : Nat
  done : Nat
  bias : Nat

/-- Passes over one character while those with the code point `c` are put in. -/
def Progress.pass (basic c : Nat) (progress : Progress) (other : Nat) : Progress :=
  if other < c then { progress with distance := progress.distance + 1 }
  else if other = c then
    { written := progress.written ++ writeNumber progress.bias 0 progress.distance
      distance := 0
      done := progress.done + 1
      bias := nextBias (progress.done == basic) (progress.done + 1) progress.distance }
  else progress

/-- Puts in the characters of each code point in turn, in rising order. All below `next` are done
with. -/
def Progress.putIn (text : List Nat) (basic next : Nat) (progress : Progress) :
    List Nat → Progress
  | [] => progress
  | c :: rest =>
    let moved :=
      { progress with distance := progress.distance + (c - next) * (progress.done + 1) }
    let passed := text.foldl (Progress.pass basic c) moved
    putIn text basic (c + 1) { passed with distance := passed.distance + 1 } rest

/-- The code points beyond ASCII in a text, each once, in rising order. -/
def beyondAscii (text : List Nat) : List Nat :=
  ((text.filter (128 ≤ ·)).mergeSort (· ≤ ·)).eraseDups

def encode (text : List Nat) : List Char :=
  let basic := text.filter (· < 128)
  let done := Progress.putIn text basic.length 128 ⟨[], 0, basic.length, 72⟩ (beyondAscii text)
  basic.map Char.ofNat ++ (if basic = [] then [] else ['-']) ++ done.written

/-! ## Reading -/

/-- The number at the front of digits, and the digits behind it. The digits before `place` came to
`sum`, and the next one counts `weight` times. -/
def readNumber (bias place weight sum : Nat) : List Char → Option (Nat × List Char)
  | [] => none
  | c :: rest =>
    (digitValue? c).bind fun d =>
      let t := threshold bias place
      if d < t then some (sum + d * weight, rest)
      else readNumber bias (place + 1) (weight * (36 - t)) (sum + d * weight) rest

/-- A number has at least one digit. -/
theorem length_of_readNumber {bias place weight sum : Nat} {s rest : List Char} {n : Nat}
    (h : readNumber bias place weight sum s = some (n, rest)) : rest.length < s.length := by
  induction s generalizing place weight sum with
  | nil => cases h
  | cons c s ih =>
    obtain ⟨d, -, hd⟩ := Option.bind_eq_some_iff.1 h
    simp only at hd
    split at hd
    · cases hd
      simp
    · have hlt := ih hd
      simp only [List.length_cons]
      omega

/-- The characters so far, the code point to go on from, and the place to go on from. -/
structure Insertion where
  text : List Nat
  next : Nat
  place : Nat

/-- Puts in the next character, as far away as the distance says. There are no code points beyond
U+10FFFF. -/
def Insertion.step? (state : Insertion) (distance : Nat) : Option Insertion :=
  let places := state.text.length + 1
  let c := state.next + (state.place + distance) / places
  let place := (state.place + distance) % places
  if c ≤ 0x10FFFF then some ⟨state.text.take place ++ c :: state.text.drop place, c, place + 1⟩
  else none

def Insertion.run? (state : Insertion) (isFirst : Bool) (bias : Nat) (digits : List Char) :
    Option (List Nat) :=
  if digits = [] then some state.text
  else
    match _hread : readNumber bias 0 1 0 digits with
    | none => none
    | some (distance, rest) =>
      match state.step? distance with
      | none => none
      | some after => after.run? false (nextBias isFirst after.text.length distance) rest
termination_by digits.length
decreasing_by exact length_of_readNumber _hread

def decode? (s : List Char) : Option (List Nat) :=
  let (basic, digits) := cutAtLast '-' s
  Insertion.run? ⟨basic.map Char.toNat, 128, 0⟩ true 72 digits

example : encode [0x62, 0xFC, 0x63, 0x68, 0x65, 0x72] = "bcher-kva".toList := by decide +kernel
example : decode? "bcher-kva".toList = some [0x62, 0xFC, 0x63, 0x68, 0x65, 0x72] := by
  decide +kernel
example : decode? "a_".toList = none := by decide +kernel

end RouteOverrides.Text.Punycode
