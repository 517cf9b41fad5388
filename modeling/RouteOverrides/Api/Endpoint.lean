import RouteOverrides.Api.Credentials
import RouteOverrides.Api.Form
import RouteOverrides.Api.QueryNumber
import RouteOverrides.Api.Route
import RouteOverrides.Json.Bytes
import RouteOverrides.Watch

/-! # What the API does

Every request is answered by a program (`Api.respond`). A body that cannot be parsed counts first,
then credentials are looked at, then what the body says. A request that one of them keeps out asks
nothing of the surroundings.

* `Api.reconcile`: sees to the overrides of an owner and publishes the statuses. When no host is
  active the statuses are published all the same, and the response is a conflict.
* `Api.release`: releases the overrides of an owner.
* `Api.watch`: the owners to reconcile after an event.

A failure of the store is reported as a bad gateway. A failure that nothing provides for breaks the
request. -/

namespace RouteOverrides.Api

/-! ## What keeps a request out -/

def maxBodyHeight : Nat := 967

/-- The response to a request whose part `part` has faults. -/
def refuse (part : String) (faults : List Schema.Fault) : HttpResponse :=
  let located := faults.map fun fault => { fault with path := .member part :: fault.path }
  { status := 422
    content := .json (.obj [("detail", .arr (located.map (Schema.Fault.toJson true)))]) }

/-- The response to a body that spells no text, or that exceeds a limit of the parser. -/
def unparsed : HttpResponse := .detail 400 "There was an error parsing the body"

def withinLimits (value : Json) : Except HttpResponse Json :=
  if value.isReadable && value.height ≤ maxBodyHeight then .ok value else .error unparsed

/-- The response to a text that spells no value. It is at fault at one of its characters, unless it
exceeds a limit. -/
def refuseText (fault : Json.Fault) : HttpResponse :=
  if fault.kind.isPlaced then refuse "body" [⟨[.item fault.position], .malformed⟩] else unparsed

/-- The value of a body that counts as JSON. -/
def parseValue : Body → Except HttpResponse Json
  | .json value => withinLimits value
  | .bytes bytes =>
    match Json.parseBytes? maxBodyHeight bytes with
    | none => .error unparsed
    | some (.ok value) => withinLimits value
    | some (.error fault) => .error (refuseText fault)

def parseBody (request : HttpRequest) : Except HttpResponse Unit :=
  match request.sent? with
  | some body => if request.bodyIsJson then (parseValue body).map fun _ => () else .ok ()
  | none => .ok ()

def authenticate (settings : Settings) (request : HttpRequest) : Except HttpResponse String :=
  match (request.header? "authorization").bind Credentials.ofHeader? with
  | none => .error (.detail 401 "Not authenticated")
  | some credentials =>
    match credentials.judge settings with
    | .accepted => .ok credentials.user
    | .refused => .error (.detail 401 "Invalid credentials")
    | .incomparable => .error .crash

/-- The response to the faults of a value. It quotes what they are about, so it cannot be written if
a float in there is no finite number. -/
def refuseValue (value : Json) (faults : List Schema.Fault) : HttpResponse :=
  if faults.all fun fault => (fault.subject value).isFinite then refuse "body" faults else .crash

/-- The response to a body that does not count as JSON. It quotes the body, which has to be text. -/
def refuseUnread : Body → HttpResponse
  | .json _ => refuse "body" [⟨[], .notRecord⟩]
  | .bytes bytes =>
    if Text.isUtf8 (bytes.map UInt8.toNat) then refuse "body" [⟨[], .notRecord⟩] else .crash

/-- The body of a request, as what it is checked to be. A null says as little as no body. -/
def readBody {α : Type} (check : Json → Schema.Checked α) (request : HttpRequest) :
    Except HttpResponse α :=
  match request.sent? with
  | none => .error (refuse "body" [⟨[], .missing⟩])
  | some body =>
    if request.bodyIsJson then
      match parseValue body with
      | .error response => .error response
      | .ok .null => .error (refuse "body" [⟨[], .missing⟩])
      | .ok value => (check value).mapError (refuseValue value)
    else .error (refuseUnread body)

/-- How many events are shown unless the request says so. -/
def defaultLimit : Int := 100

/-- How many events a request asks for. -/
def readLimit (request : HttpRequest) : Except HttpResponse Int :=
  match request.field? "limit" with
  | none => .ok defaultLimit
  | some text =>
    (Schema.within (.member "limit") (QueryNumber.read text)).mapError (refuse "query")

/-! ## Endpoints -/

/-- The response to a failure that is none of the request's own: the store's are reported, and any
other breaks the request. -/
def storeResponse (failure : Failure) : Action HttpResponse :=
  match failure with
  | .atStore _ _ _ => pure (.detail 502 failure.message)
  | _ => throw failure

/-- What the journal says when a request to see to overrides comes in. -/
def reconcileEntry (user subset : String) : Entry where
  level := "INFO"
  message := "Reconcile requested by " ++ user
  subset := some subset

/-- What the journal says when a request to release overrides comes in. -/
def releaseEntry (owner : Owner) (user subset : String) : Entry where
  level := "INFO"
  message := "Release of " ++ owner.token ++ " requested by " ++ user
  subset := some subset

/-- The answer to a request whose overrides have been seen to. -/
def reconciled (handler : Handler) (result : PassResult) (statuses : List ResourceStatus) : Json :=
  .obj
    [("subset", .str handler.uniqueName), ("active_hosts", .ofTextList result.active),
      ("ignored_missing", .ofTextList result.ignored),
      ("statuses", .arr (statuses.map ResourceStatus.toJson))]

/-- The end of a pass that left some host active: statuses are read, published and sent. -/
def finish (handler : Handler) (result : PassResult) : Action HttpResponse := do
  match ← Action.settle (handler.statuses result.ignored) with
  | .ok statuses =>
    handler.publish statuses
    pure (.ok (reconciled handler result statuses))
  | .error failure => storeResponse failure

/-- The end of a pass that left no host active: statuses are read and published, so that it can be
seen which hosts are ignored. -/
def finishWithout (handler : Handler) (tracker : Tracker) (failure : Failure) :
    Action HttpResponse := do
  let published := do handler.publish (← handler.statuses tracker.ignored)
  match ← Action.settle published with
  | .ok () => pure (.detail 409 failure.message)
  | .error failure => storeResponse failure

def reconcile (settings : Settings) (user : String) (form : OverrideForm) : Action HttpResponse :=
  match Handler.create? settings form.options with
  | .error failure => pure (.detail 422 failure.message)
  | .ok handler => do
    Action.log (reconcileEntry user form.uniqueName)
    let outcome ← Action.ofProgram (Pass.outcome handler.handle .empty)
    match outcome.1 with
    | .ok result => finish handler result
    | .error (.noActiveHost subset ignored) =>
      finishWithout handler outcome.2 (.noActiveHost subset ignored)
    | .error (.cancelled text) => pure (.detail 503 text)
    | .error failure => storeResponse failure

def release (settings : Settings) (user : String) (form : ReleaseForm) : Action HttpResponse := do
  Action.log (releaseEntry form.owner user form.uniqueName)
  match ← Action.settle (form.release settings).perform with
  | .ok names =>
    pure (.ok (.obj [("owner", .str form.owner.token), ("emptied", .ofTextList names)]))
  | .error failure => storeResponse failure

/-- The owners to reconcile after an event. -/
def watch (settings : Settings) (event : WatchEvent) : Action HttpResponse := do
  let owners ← ExceptT.mk (pure (event.fanOut (settings.annotationKey none)))
  pure (.ok (.arr (owners.map Owner.toJson)))

/-- The newest events. -/
def events (limit : Int) : Action HttpResponse :=
  if limit < 1 ∨ limit > 1000 then pure (.detail 400 "limit must be between 1 and 1000")
  else do pure { status := 200, content := .rows (← Action.latest limit) }

/-- What a route does with a request, or the response that keeps the request out. -/
def endpoint (settings : Settings) (request : HttpRequest) :
    Route → Except HttpResponse (Action HttpResponse)
  | .health => .ok (pure (.ok (.obj [("status", .str "healthy")])))
  | .overrides => do
    parseBody request
    -- Who asks is settled before what is asked for.
    let user ← authenticate settings request
    pure (reconcile settings user (← readBody OverrideForm.check request))
  | .release => do
    parseBody request
    let user ← authenticate settings request
    pure (release settings user (← readBody ReleaseForm.check request))
  | .status subset =>
    .ok do pure (.ok (.arr ((← Action.report subset).map ResourceStatus.toJson)))
  | .watch => do
    parseBody request
    pure (watch settings (← readBody WatchEvent.check request))
  | .events => do pure (events (← readLimit request))
  | .page => .ok (pure .empty)

/-- The response to a request, as far as it depends on the method only: asking for the head of a
response leaves its content out. -/
def withoutContent (request : HttpRequest) (response : HttpResponse) : HttpResponse :=
  if request.method = "HEAD" then { response with content := .text "" } else response

def respond (settings : Settings) (request : HttpRequest) : Program HttpResponse :=
  match Route.dispatch request >>= endpoint settings request with
  | .error response => pure (withoutContent request response)
  | .ok action => do
    match ← action.run with
    | .ok response => pure response
    | .error _ => pure .crash

end RouteOverrides.Api
