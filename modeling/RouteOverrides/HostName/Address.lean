import RouteOverrides.Text.Hex
import RouteOverrides.Text.Integer

/-! # Addresses

A host may be an address instead of a name.

* Version 4: four numbers below 256 between points, in decimal and without leading zeros.
* Version 6: eight groups of up to four hexadecimal digits between colons. A double colon, once,
  stands for one or more groups of zeros, and the last two groups may have the form of an address of
  version 4. A scope behind a percent sign may follow.

A host that consists of four numbers of any size between points has to be an address of version 4
(`looksLikeAddress4`). -/

namespace RouteOverrides.HostName

/-! ## Version 4 -/

def isOctet (s : List Char) : Bool :=
  s != [] && s.length ≤ 3 && s.all Char.isDigit && (s == ['0'] || s.head? != some '0')
    && Text.ofDigits (s.map fun c => c.toNat - 48) ≤ 255

/-- Whether a text is an address of version 4. -/
def isAddress4 (s : List Char) : Bool :=
  let octets := Text.split '.' s
  octets.length == 4 && octets.all isOctet

/-- Whether a text consists of four numbers between points. -/
def looksLikeAddress4 (s : List Char) : Bool :=
  let numbers := Text.split '.' s
  numbers.length == 4 && numbers.all fun number => number != [] && number.all Char.isDigit

/-! ## Version 6 -/

def isGroup (s : List Char) : Bool :=
  s != [] && s.length ≤ 4 && s.all fun c => (Text.hexValue? c).isSome

/-- The number of groups in a part of an address. Only the part that ends the address may end in the
form of version 4. -/
def groupCount? (endsAddress : Bool) (s : List Char) : Option Nat :=
  if s = [] then some 0
  else
    let groups := Text.split ':' s
    if groups.all isGroup then some groups.length
    else
      match groups.getLast? with
      | some last =>
        if endsAddress && isAddress4 last && groups.dropLast.all isGroup then
          some (groups.length + 1)
        else none
      | none => none

/-- The two sides of the first double colon. -/
def cutAtGap? : List Char → Option (List Char × List Char)
  | ':' :: ':' :: rest => some ([], rest)
  | c :: rest => (cutAtGap? rest).map fun sides => (c :: sides.1, sides.2)
  | [] => none

/-- Whether a text is an address of version 6 without a scope. -/
def isUnscopedAddress6 (s : List Char) : Bool :=
  match cutAtGap? s with
  | none => groupCount? true s == some 8
  | some (before, after) =>
    match groupCount? false before, groupCount? true after with
    | some first, some second => first + second ≤ 7
    | _, _ => false

/-- Whether a text is an address of version 6. -/
def isAddress6 (s : List Char) : Bool :=
  match Text.cut? '%' s with
  | none => isUnscopedAddress6 s
  | some (address, scope) => isUnscopedAddress6 address && scope != [] && !scope.contains '%'

/-- Whether a text stands between brackets, as addresses of version 6 do. -/
def isBracketed (s : List Char) : Bool :=
  2 ≤ s.length && s.head? == some '[' && s.getLast? == some ']'

/-- Whether a text has the form that is kept for addresses of later versions: the letter v with the
version in hexadecimal digits, a point, and something behind it. -/
def isLaterAddress (s : List Char) : Bool :=
  match Text.cut? '.' s with
  | some ('v' :: version, rest) =>
    version != [] && version.all (fun c => (Text.hexValue? c).isSome) && rest != []
  | _ => false

example : isAddress4 "1.2.3.255".toList = true := by decide +kernel
example : isAddress4 "1.2.3.256".toList = false := by decide +kernel
example : isAddress4 "01.2.3.4".toList = false := by decide +kernel
example : looksLikeAddress4 "1.2.3.1000".toList = true := by decide +kernel
example : looksLikeAddress4 "1234567".toList = false := by decide +kernel
example : isAddress6 "::1".toList = true := by decide +kernel
example : isAddress6 "1::2::3".toList = false := by decide +kernel
example : isAddress6 "::ffff:1.2.3.4".toList = true := by decide +kernel
example : isLaterAddress "v1.x".toList = true := by decide +kernel

end RouteOverrides.HostName
