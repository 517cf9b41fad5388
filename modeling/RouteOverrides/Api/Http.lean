import RouteOverrides.Api.Target
import RouteOverrides.Database.Journal
import RouteOverrides.Json.Height
import RouteOverrides.Json.Limits
import RouteOverrides.Text.Blank

/-! # Requests and responses

* `Body`: any bytes, or the text that a client writes for a JSON value.
* `HttpRequest`: a request with its headers, and its method in upper case. `header?` finds a header
  under any spelling of its name. A body without bytes counts as none (`HttpRequest.sent?`).
* `HttpResponse`: a status with a content: JSON, rows of the journal, or plain text. A redirection
  says where to go instead. -/

namespace RouteOverrides

/-- Where requests go that do not say so. -/
def HttpRequest.ownOrigin : String := "http://testserver"

/-- What a request carries. -/
inductive Body where
  /-- The text of a value; it is read as that value again. -/
  | json (value : Json)
  | bytes (bytes : List UInt8)

/-- A request to the API. -/
structure HttpRequest where
  method : String
  /-- Where the request goes: a scheme and a host. -/
  origin : String := HttpRequest.ownOrigin
  target : Target
  headers : List (String × String) := []
  body : Option Body := none

namespace HttpRequest

/-- A text in lower case, for the letters of ASCII. -/
def lower (s : String) : String := String.ofList (s.toList.map Char.toLower)

def header? (request : HttpRequest) (name : String) : Option String :=
  (request.headers.find? fun header => lower header.1 == lower name).map (·.2)

/-- The last value of a query field. -/
def field? (request : HttpRequest) (name : String) : Option String :=
  ((request.target.query.filter fun field => field.1 == name).map (·.2)).getLast?

/-- Whether a media type is one of JSON. Parameters behind a semicolon do not count. -/
def isJsonType (value : String) : Bool :=
  let media := Text.trim ((lower value).toList.takeWhile (· ≠ ';'))
  match Text.split '/' media with
  | [kind, form] =>
    String.ofList kind == "application"
      && (String.ofList form == "json" || "+json".toList.isSuffixOf form)
  | _ => false

/-- The body of a request that carries anything at all. -/
def sent? (request : HttpRequest) : Option Body :=
  match request.body with
  | some (.bytes []) => none
  | body => body

/-- Whether the body counts as JSON. Bytes do if their media type says so. The text of a value also
does where nothing is said, since a client then states the media type by itself. -/
def bodyIsJson (request : HttpRequest) : Bool :=
  match request.header? "content-type", request.body with
  | some value, _ => isJsonType value
  | none, some (.bytes _) => false
  | none, _ => true

end HttpRequest

/-- What a response carries. -/
inductive Content where
  | json (value : Json)
  /-- Rows of the journal with their numbers. -/
  | rows (rows : List (Nat × Entry))
  | text (text : String)

/-- The answer to a request. -/
structure HttpResponse where
  status : Nat
  content : Content
  /-- Where to go instead. -/
  location : Option String := none

namespace HttpResponse

def ok (value : Json) : HttpResponse where
  status := 200
  content := .json value

/-- A response that says in a few words why a request was not carried out. -/
def detail (status : Nat) (text : String) : HttpResponse where
  status := status
  content := .json (.obj [("detail", .str text)])

/-- The response to a request that broke the application. -/
def crash : HttpResponse where
  status := 500
  content := .text "Internal Server Error"

/-- A response without content. -/
def empty : HttpResponse where
  status := 200
  content := .text ""

/-- A response that says where to go instead. -/
def redirection (location : String) : HttpResponse where
  status := 307
  content := .text ""
  location := some location

def succeeded (response : HttpResponse) : Bool := response.status < 400

end HttpResponse

/-- A row of the journal as a record. -/
def Entry.toJson (row : Nat × Entry) : Json :=
  .obj
    [("id", .int row.1), ("level", .str row.2.level), ("subset", .ofText? row.2.subset),
      ("host", .ofText? row.2.host), ("message", .str row.2.message)]

end RouteOverrides
