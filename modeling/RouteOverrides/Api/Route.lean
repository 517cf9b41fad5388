import RouteOverrides.Api.Http

/-! # Routes

Each path of the API belongs to one route, and each route takes one method; what the pages that
describe the API say is left out.

* `Route.ofPath?`: the route of a path. One line break may follow a fixed path.
* `Route.dispatch`: the route of a request, or the response when there is none: to a path that
  nearly is one (a slash too many or too few at its end) the response is a redirection. -/

namespace RouteOverrides

/-- What can be asked of the API. -/
inductive Route where
  | health
  | overrides
  | release
  | status (subset : String)
  | watch
  | events
  /-- A page that describes the API. -/
  | page
  deriving DecidableEq, Repr

namespace Route

def fixedPaths : List (String × Route) :=
  [("/health", health), ("/overrides", overrides), ("/overrides/release", release),
    ("/watch", watch), ("/events", events), ("/openapi.json", page), ("/docs", page),
    ("/docs/oauth2-redirect", page), ("/redoc", page)]

def statusStart : List Char := "/status/".toList

def subsetOfPath? (path : List Char) : Option String :=
  if statusStart.isPrefixOf path then
    let subset := path.drop statusStart.length
    if subset = [] ∨ '/' ∈ subset then none else some (String.ofList subset)
  else none

def ofPath? (path : List Char) : Option Route :=
  let line := if path.getLast? = some '\n' then path.dropLast else path
  match Keyed.find? (String.ofList line) fixedPaths with
  | some route => some route
  | none => (subsetOfPath? path).map status

def verb : Route → String
  | health | status _ | events | page => "GET"
  | overrides | release | watch => "POST"

/-- Whether a route takes a method. Only pages give their head alone. -/
def takes (route : Route) (method : String) : Bool :=
  method == route.verb || (route == page && method == "HEAD")

/-- A path with the slash at its end taken away, or put there. -/
def otherEnding (path : List Char) : List Char :=
  if path.getLast? = some '/' then (path.reverse.dropWhile (· == '/')).reverse else path ++ ['/']

/-- The characters besides letters and digits that an address carries as they are. -/
def addressMarks : List Char := "-._~:/%#?=@[]!$&'()*+,;".toList

/-- The address of another path where a request went. -/
def address (request : HttpRequest) (path : List Char) : String :=
  let target := request.target
  let query := if target.queryText = "" then [] else '?' :: target.queryText.toList
  String.ofList
    (Text.percentEncode (fun c => c.isAlphanum || addressMarks.contains c)
      (request.origin.toList ++ path ++ query))

/-- The route of a request, or the response when there is none. -/
def dispatch (request : HttpRequest) : Except HttpResponse Route :=
  let path := request.target.path.toList
  match ofPath? path with
  | some route =>
    if route.takes request.method then .ok route
    else .error (.detail 405 "Method Not Allowed")
  | none =>
    let other := otherEnding path
    if path ≠ ['/'] ∧ (ofPath? other).isSome then .error (.redirection (address request other))
    else .error (.detail 404 "Not Found")

end Route

end RouteOverrides
