import RouteOverrides.Api.Credentials
import RouteOverrides.Api.Http
import RouteOverrides.Text.UpperCase

/-! # Requests as clients state them

A client states a request by a URL and says who it is.

* `ClientRequest.toHttp`: the request that then reaches the API, or the reason why none is sent.
* `ClientRequest.locationFault?`: the reason why a redirection leads nowhere. Redirections are not
  followed, but where they lead is looked at.

Several parts of a request may be stated twice:

* Fields of a query that are stated apart replace the query of the URL.
* Credentials that are stated apart count first, those in an absolute URL second, and a header that
  carries credentials last.
* A header that names a host counts instead of the host of the URL, unless it is malformed.

Headers have to be of ASCII, and so has the host of an absolute URL; a host name that spells labels
of other scripts has to spell them rightly. -/

namespace RouteOverrides

/-- Who a client says it is. -/
inductive Identity where
  | unstated
  | stated (credentials : Credentials)
  /-- A user or a password that is no text. -/
  | malformed
  deriving DecidableEq, Repr

/-- A request as a client states it. -/
structure ClientRequest where
  method : String
  url : String
  query : Option (List (String × String)) := none
  identity : Identity := .unstated
  /-- Names with values; a value that is no text is left out. -/
  headers : List (String × Option String) := []
  body : Option Json := none

/-- Why a client gets no response. -/
inductive ClientFault where
  | url (fault : UrlFault)
  /-- A text that has to be of ASCII is not. -/
  | beyondAscii (text : String)
  /-- A host name spells a label that cannot be read. -/
  | hostName (fault : HostName.LabelFault)
  /-- The value of a header is no text. -/
  | malformedHeader
  /-- The body is too deep to be written. -/
  | deepBody
  | malformedIdentity
  /-- An absolute URL has a scheme that is not known. -/
  | unknownScheme (scheme : String)
  /-- A redirection leads to what is no URL. -/
  | location (fault : UrlFault)
  deriving DecidableEq, Repr

/-- What a text holds beyond ASCII: the first characters of that kind in a row, and their places. -/
def beyondAsciiMessage (text : String) : String :=
  let isAscii (c : Char) : Bool := c.toNat < 128
  let position := (text.toList.takeWhile isAscii).length
  let characters := (text.toList.drop position).takeWhile (!isAscii ·)
  let place := match characters with
    | [c] =>
      "character '" ++ String.ofList (Text.codePointEscape c.toNat) ++ "' in position "
        ++ toString position
    | _ =>
      "characters in position " ++ toString position ++ "-"
        ++ toString (position + characters.length - 1)
  "'ascii' codec can't encode " ++ place ++ ": ordinal not in range(128)"

def ClientFault.message : ClientFault → String
  | url fault => fault.message
  | beyondAscii text => beyondAsciiMessage text
  | hostName fault => fault.message
  | malformedHeader => "the value of a header is no text"
  | deepBody => "the body is too deep"
  | malformedIdentity => "no user or no password is left"
  | unknownScheme scheme => "unknown scheme: " ++ scheme
  | location fault => "Invalid URL in location header: " ++ fault.message ++ "."

namespace Url

def knownSchemes : List String := ["http", "https", "ws", "wss"]

/-- The credentials in a URL. A relative URL is read without them. -/
def credentials? (url : Url) : Option Credentials :=
  let (user, password) := (Text.cut? ':' url.userInfo).getD (url.userInfo, [])
  if !url.isAbsolute || (user.isEmpty && password.isEmpty) then none
  else
    some ⟨String.ofList (Text.percentDecode user), String.ofList (Text.percentDecode password)⟩

/-- The host of a URL as requests carry it: a name is of ASCII. -/
def writtenHost (url : Url) : List Char :=
  if HostName.isBracketed url.host then url.host
  else if Text.isAscii url.host then HostName.written url.host
  else
    ((HostName.encode (Text.lowerPoints (url.host.map Char.toNat))).toOption).getD url.host

/-- The port that a scheme goes to unless a URL says so. -/
def usualPort? (scheme : List Char) : Option Int :=
  Keyed.find? (String.ofList scheme)
    [("ftp", 21), ("http", 80), ("https", 443), ("ws", 80), ("wss", 443)]

/-- The host of a URL with its port, which is left out where it is the usual one. -/
def address (url : Url) : List Char :=
  match Text.integer? url.port with
  | some port =>
    if usualPort? url.scheme = some port then url.writtenHost
    else url.writtenHost ++ ':' :: (toString port).toList
  | none => url.writtenHost

/-- Why the name of the host of an absolute URL cannot be read, if it cannot. -/
def nameFault? (url : Url) : Option ClientFault :=
  if url.isAbsolute && !HostName.isBracketed url.host && Text.isAscii url.host
      && HostName.Label.spellingMark.isPrefixOf url.writtenHost then
    (HostName.spellingFault? url.writtenHost).map .hostName
  else none

/-- Why the host of an absolute URL cannot be written into a request, if it cannot. -/
def asciiFault? (url : Url) : Option ClientFault :=
  if url.isAbsolute && !Text.isAscii url.writtenHost then
    some (.beyondAscii (String.ofList url.address))
  else none

end Url

namespace ClientRequest

/-- Why a header cannot be sent, if it cannot. Its name is looked at first. -/
def headerFault? (header : String × Option String) : Option ClientFault :=
  if !Text.isAscii header.1.toList then some (.beyondAscii header.1)
  else
    match header.2 with
    | none => some .malformedHeader
    | some value => if Text.isAscii value.toList then none else some (.beyondAscii value)

def host? (request : ClientRequest) : Option String :=
  (request.headers.find? fun header => HttpRequest.lower header.1 == "host").bind (·.2)

/-- The greatest height of a body that can be written. -/
def maxBodyHeight : Nat := 986

/-- Why a request cannot be put together, if it cannot. -/
def partFault? (request : ClientRequest) (url : Url) : Option ClientFault :=
  (Target.mergeFault? url).map .url
    <|> request.headers.findSome? headerFault?
    <|> (request.query.bind (Target.replaceFault? url)).map .url
    <|> if request.body.any (maxBodyHeight < ·.height) then some .deepBody else none

/-- The credentials that a request is sent with, if they are not in its headers. -/
def credentials? (request : ClientRequest) (url : Url) : Except ClientFault (Option Credentials) :=
  match request.identity with
  | .malformed => .error .malformedIdentity
  | .stated credentials => .ok (some credentials)
  | .unstated => .ok url.credentials?

/-- Why a URL cannot be sent to, if it cannot. -/
def sendFault? (url : Url) : Option ClientFault :=
  let scheme := String.ofList url.scheme
  url.asciiFault?
    <|> if url.isAbsolute && !Url.knownSchemes.contains scheme then some (.unknownScheme scheme)
      else none

/-- Where a request goes: a scheme and a host. -/
def origin (request : ClientRequest) (url : Url) : String :=
  let host? := request.host?.filter fun host => Url.isAuthority host.toList
  if url.isAbsolute then
    String.ofList url.scheme ++ "://" ++ host?.getD (String.ofList url.address)
  else (host?.map ("http://" ++ ·)).getD HttpRequest.ownOrigin

def toHttp (request : ClientRequest) : Except ClientFault HttpRequest := do
  let url ← (Url.parse request.url).mapError .url
  if let some fault := request.partFault? url then throw fault
  -- The host of the URL is looked at before all else if it has to go into a header.
  if request.host?.isNone then
    if let some fault := url.nameFault? <|> url.asciiFault? then throw fault
  let credentials ← request.credentials? url
  if let some fault := sendFault? url then throw fault
  let target := Target.ofUrl url
  pure
    { method := Text.upper request.method
      origin := request.origin url
      target := (request.query.map target.withQuery).getD target
      headers :=
        (credentials.map fun credentials => ("authorization", credentials.toHeader)).toList
          ++ request.headers.filterMap fun header => header.2.map (header.1, ·)
      body := request.body.map .json }

/-- Why a redirection leads nowhere, if it does. Where it leads is compared with the URL of the
request, so both hosts have to be readable. -/
def locationFault? (request : ClientRequest) (location : String) : Option ClientFault :=
  match Url.parse location with
  | .error fault => some (.location fault)
  | .ok url => url.nameFault? <|> (Url.parse request.url).toOption.bind Url.nameFault?

end ClientRequest

end RouteOverrides
