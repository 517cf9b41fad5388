import RouteOverrides.Api.Url
import RouteOverrides.Text.Percent

/-! # Request targets

The target of a request is what its URL asks for behind the host: a path with percent escapes, and
a query behind a question mark.

* `Target.path`: the path as routes see it: its `.` and `..` steps are worked out, and its escapes
  are resolved. They are resolved twice, once by each side of the connection.
* `Target.query`: the fields of the query.
* `Target.ofUrl`: the target of a URL. A relative URL is taken from the root, however many slashes
  it starts with.
* `Target.withQuery`: the same path with other fields. -/

namespace RouteOverrides

/-- The target of a request. -/
structure Target where
  path : String
  query : List (String × String)
  /-- The query as it is written, with escapes. -/
  queryText : String
  deriving DecidableEq, Repr

namespace Target

/-- One more step of a path, with the steps so far in reverse. -/
def stepInto (steps : List (List Char)) (step : List Char) : List (List Char) :=
  if step = ['.'] then steps
  else if step = ['.', '.'] then
    -- A step up from the root stays there.
    match steps with
    | [] | [[]] => steps
    | _ :: steps => steps
  else step :: steps

/-- A path without `.` and `..` steps. -/
def withoutDots (path : List Char) : List Char :=
  Text.join '/' ((Text.split '/' path).foldl stepInto []).reverse

/-- A path, or the root in place of an empty one. -/
def orRoot (path : List Char) : List Char := if path = [] then ['/'] else path

/-- The path of a URL, where the path of a relative one starts at the root of the API. -/
def rootedPath (url : Url) : List Char :=
  let path := if url.hasOrigin then withoutDots url.path else url.path
  if url.isAbsolute then path else '/' :: path.dropWhile (· == '/')

/-- The path of a URL from the root of the API, with its escapes. -/
def pathOf (url : Url) : List Char := orRoot (withoutDots (rootedPath url))

def fields (query : List Char) : List (String × String) :=
  ((Text.split '&' query).filter fun field => field ≠ []).map fun field =>
    let spaced := field.map fun c => if c = '+' then ' ' else c
    let sides := (Text.cut? '=' spaced).getD (spaced, [])
    (String.ofList (Text.percentDecode sides.1), String.ofList (Text.percentDecode sides.2))

/-! ## Paths and queries as they are written -/

/-- Whether a character is a sign of ASCII that can be seen, and not one of some. -/
def isSignBut (others : List Char) (c : Char) : Bool :=
  0x20 < c.toNat && c.toNat < 0x7F && !others.contains c

def writtenPath (path : List Char) : List Char :=
  Text.percentEncode (isSignBut "\"#<>?`\x7b\x7d".toList) path

def writtenQuery (query : List Char) : List Char :=
  Text.percentEncode (isSignBut "\"#<>".toList) query

/-- A field of a query, or its value, as it is written. -/
def writtenWord (word : String) : List Char :=
  word.toList.flatMap fun c =>
    if c = ' ' then ['+'] else Text.percentEncode Text.isUnreserved [c]

/-- Fields of a query as they are written. -/
def writtenFields (fields : List (String × String)) : List Char :=
  Text.join '&' (fields.map fun field => writtenWord field.1 ++ '=' :: writtenWord field.2)

/-! ## Targets of URLs -/

def ofUrl (url : Url) : Target where
  path := String.ofList (Text.percentDecode (Text.percentDecode (pathOf url)))
  query := fields (url.query.getD [])
  queryText := String.ofList (writtenQuery (url.query.getD []))

/-- A target with other fields. -/
def withQuery (target : Target) (fields : List (String × String)) : Target :=
  { target with query := fields, queryText := String.ofList (writtenFields fields) }

/-- What is wrong with the length of a part of a URL, if anything is. -/
def partFault? (name : String) (written : List Char) : Option UrlFault :=
  if written.length > Url.maxLength then some (.longPart name) else none

/-- What is wrong with a relative URL that is put behind the root of the API, if anything is. -/
def mergeFault? (url : Url) : Option UrlFault :=
  if url.isAbsolute then none
  else
    partFault? "path" (writtenPath (rootedPath url))
      <|> partFault? "query" (writtenQuery (url.query.getD []))

/-- What is wrong with a URL whose query is replaced by fields, if anything is. -/
def replaceFault? (url : Url) (fields : List (String × String)) : Option UrlFault :=
  partFault? "path" (writtenPath (rootedPath url)) <|> partFault? "query" (writtenFields fields)

end Target

end RouteOverrides
