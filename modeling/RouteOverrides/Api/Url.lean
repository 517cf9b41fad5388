import RouteOverrides.HostName.Basic
import RouteOverrides.Text.Utf8

/-! # URLs

A URL is cut into parts from the left, and every part may be missing:

    (scheme? :)? (// (user info @)? host (: port)?)? path (? query)? (# fragment)?

* `Url.parse`: the parts of a text. Almost any text is a URL; `UrlFault` lists what is refused. A
  host may be an address or a name, and a name in ASCII is not looked into.
* `Url.isAbsolute`: whether a URL says where to go. Others are relative to the API itself. -/

namespace RouteOverrides

/-- The parts of a URL. The scheme is in lower case; a part that is missing is empty, but for the
query. -/
structure Url where
  scheme : List Char := []
  userInfo : List Char := []
  host : List Char := []
  port : List Char := []
  path : List Char := []
  /-- What follows the question mark, if there is one. -/
  query : Option (List Char) := none
  deriving DecidableEq, Repr

/-- Why a text is no URL. -/
inductive UrlFault where
  | tooLong
  /-- A part is too long once it is written with its escapes. -/
  | longPart (name : String)
  /-- A control character of ASCII, and its place. -/
  | unprintable (c : Char) (position : Nat)
  /-- A host has to be an address of version 4, and is none. -/
  | malformedAddress4 (host : String)
  /-- A host has to be an address of version 6, and is none. -/
  | malformedAddress6 (host : String)
  /-- A host beyond ASCII is no host name. -/
  | malformedName (host : String)
  | malformedPort (port : String)
  /-- A path without scheme and host starts with two slashes. -/
  | rootedTwice
  /-- A path without scheme and host starts with a colon. -/
  | leadingColon
  deriving DecidableEq, Repr

def UrlFault.message : UrlFault → String
  | tooLong => "URL too long"
  | longPart name => "URL component '" ++ name ++ "' too long"
  | unprintable c position =>
    "Invalid non-printable ASCII character in URL, " ++ Text.quoted (String.singleton c)
      ++ " at position " ++ toString position ++ "."
  | malformedAddress4 host => "Invalid IPv4 address: " ++ Text.quoted host
  | malformedAddress6 host => "Invalid IPv6 address: " ++ Text.quoted host
  | malformedName host => "Invalid IDNA hostname: " ++ Text.quoted host
  | malformedPort port => "Invalid port: " ++ Text.quoted port
  | rootedTwice => "Relative URLs cannot have a path starting with '//'"
  | leadingColon => "Relative URLs cannot have a path starting with ':'"

namespace Url

/-- The most characters that a URL may have, and so each of its parts. -/
def maxLength : Nat := 65536

/-- Whether a text can be a scheme: nothing, or a letter with letters, digits, and the characters
plus, point and dash behind it. -/
def isScheme : List Char → Bool
  | [] => true
  | c :: rest =>
    c.isAlpha && rest.all fun c => c.isAlphanum || c == '+' || c == '.' || c == '-'

/-- The scheme, and what follows its colon. -/
def cutScheme (s : List Char) : List Char × List Char :=
  match Text.cut? ':' s with
  | some (scheme, rest) => if isScheme scheme then (scheme.map Char.toLower, rest) else ([], s)
  | none => ([], s)

/-- A host, and what follows it. A host in brackets may hold colons. -/
def cutHost (s : List Char) : List Char × List Char :=
  let plain := (s.takeWhile (· ≠ ':'), s.dropWhile (· ≠ ':'))
  if s.head? = some '[' then
    match Text.cut? ']' s.reverse with
    | some (after, before) => ((']' :: before).reverse, after.reverse)
    | none => plain
  else plain

/-- The port behind a host, without its colon. -/
def portOf : List Char → List Char
  | ':' :: port => port
  | port => port

/-- Whether a text names a host, with or without a port. What stands between brackets has to be an
address of version 6 or of a later one. -/
def isAuthority (s : List Char) : Bool :=
  let (host, behind) := cutHost s
  let inner := host.tail.dropLast
  s.all (!"/?#@".toList.contains ·) && (portOf behind).all Char.isDigit
    && if HostName.isBracketed host then HostName.isAddress6 inner || HostName.isLaterAddress inner
      else host.all (!"[]".toList.contains ·)

/-- A URL with what stands between the two slashes and the path. -/
def withAuthority (url : Url) (authority : List Char) : Url :=
  let (userInfo, address) := Text.cutAtLast '@' authority
  let (host, behind) := cutHost address
  { url with userInfo, host, port := portOf behind }

def withPath (url : Url) (s : List Char) : Url :=
  let whole := s.takeWhile (· ≠ '#')
  { url with
    path := whole.takeWhile (· ≠ '?')
    query := (Text.cut? '?' whole).map (·.2) }

def cut (s : List Char) : Url :=
  let (scheme, rest) := cutScheme s
  match rest with
  | '/' :: '/' :: rest =>
    let isEnd (c : Char) : Bool := c == '/' || c == '?' || c == '#'
    (withAuthority { scheme } (rest.takeWhile (!isEnd ·))).withPath (rest.dropWhile (!isEnd ·))
  | _ => withPath { scheme } rest

/-- Whether anything stands in front of the path. -/
def hasOrigin (url : Url) : Bool :=
  !(url.scheme.isEmpty && url.userInfo.isEmpty && url.host.isEmpty && url.port.isEmpty)

def isAbsolute (url : Url) : Bool := !url.scheme.isEmpty && !url.host.isEmpty

/-- Whether a character is a control character of ASCII. -/
def isControl (c : Char) : Bool := c.toNat < 32 || c.toNat = 127

/-- What is wrong with a host, if anything is. -/
def hostFault? (host : List Char) : Option UrlFault :=
  if HostName.looksLikeAddress4 host then
    if HostName.isAddress4 host then none else some (.malformedAddress4 (String.ofList host))
  else if HostName.isBracketed host then
    if HostName.isAddress6 host.tail.dropLast then none
    else some (.malformedAddress6 (String.ofList host))
  else if Text.isAscii host then none
  else
    match HostName.encode (Text.lowerPoints (host.map Char.toNat)) with
    | .ok _ => none
    | .error _ => some (.malformedName (String.ofList host))

/-- What is wrong with a port, if anything is. -/
def portFault? (port : List Char) : Option UrlFault :=
  if port ≠ [] ∧ Text.integer? port = none then some (.malformedPort (String.ofList port)) else none

/-- What is wrong with the path, if anything is. Only a path with nothing in front can be wrong. -/
def pathFault? (url : Url) : Option UrlFault :=
  if url.hasOrigin then none
  else
    match url.path with
    | '/' :: '/' :: _ => some .rootedTwice
    | ':' :: _ => some .leadingColon
    | _ => none

/-- What is wrong with the parts of a URL, if anything is. -/
def fault? (url : Url) : Option UrlFault :=
  hostFault? url.host <|> portFault? url.port <|> url.pathFault?

/-- The parts of a text, or why it is no URL. -/
def parse (text : String) : Except UrlFault Url :=
  let s := text.toList
  if s.length > maxLength then .error .tooLong
  else
    match s.findIdx? isControl with
    | some position => .error (.unprintable (s.getD position ' ') position)
    | none =>
      match (cut s).fault? with
      | some fault => .error fault
      | none => .ok (cut s)

example : isAuthority "a:80".toList = true := by decide +kernel
example : isAuthority "[1::2::3]".toList = false := by decide +kernel

end Url

end RouteOverrides
