import RouteOverrides.Api.Client
import RouteOverrides.Api.Endpoint
import RouteOverrides.CommandLine.Command
import RouteOverrides.Surroundings

/-! # The application

The application holds the surroundings that all requests share. Starting it makes the tables of the
database and writes the first row of the journal.

* `App.handle`: the response to a request, and the application after it.
* `App.send`: the same for a request as a client states it, which may not get through at all.
* `App.runCommand`: the command line, with its request sent to the application. -/

namespace RouteOverrides

/-- The API with the store and the database behind it. -/
structure App where
  settings : Settings
  surroundings : Surroundings

namespace App

/-- What the journal says when the application starts. -/
def startEntry (settings : Settings) : Entry where
  level := "INFO"
  message := "API started (store backend: " ++ settings.storeBackend ++ ")"

def start (settings : Settings) (surroundings : Surroundings) : App :=
  let prepared := { surroundings with database := surroundings.database.prepare }
  ⟨settings, (prepared.runProgram false (Action.log (startEntry settings)).run).2⟩

/-- The response to a request, and the application after it. -/
def handle (app : App) (request : HttpRequest) : HttpResponse × App :=
  let ran := app.surroundings.runProgram false (Api.respond app.settings request)
  (ran.1, { app with surroundings := ran.2 })

/-- The response to a request as a client states it, or why the client gets none. The application
after it comes second. -/
def send (app : App) (request : ClientRequest) : Except ClientFault HttpResponse × App :=
  match request.toHttp with
  | .error fault => (.error fault, app)
  | .ok sent =>
    let (response, after) := app.handle sent
    match response.location.bind request.locationFault? with
    | some fault => (.error fault, after)
    | none => (.ok response, after)

def objects (app : App) : List RoutingObject :=
  (app.surroundings.store?.map (·.objects)).getD []

/-- The responses to requests, one after the other. -/
def handleAll (app : App) : List HttpRequest → List HttpResponse
  | [] => []
  | request :: rest =>
    let handled := app.handle request
    handled.1 :: handled.2.handleAll rest

end App

/-! ## The command line in front of the application -/

def CommandLine.Value.identity : CommandLine.Value → CommandLine.Value → Identity
  | .text user, .text password => .stated ⟨user, password⟩
  | _, _ => .malformed

def CommandLine.Call.toRequest : CommandLine.Call → ClientRequest
  | .status url => { method := "GET", url }
  | .events url limit =>
    { method := "GET"
      url
      query := some (limit.toList.map fun limit => ("limit", toString limit)) }
  | .post url body user password =>
    { method := "POST"
      url
      identity := user.identity password
      body := some body }

/-- Why a command line gets no response. -/
inductive CommandLine.Refusal where
  | stop (stop : CommandLine.Stop)
  | client (fault : ClientFault)

namespace App

/-- What comes of a command line: why it gets no response, or the response to its call. -/
def runCommand (app : App) (arguments : List String) :
    Except CommandLine.Refusal HttpResponse × App :=
  match CommandLine.Invocation.parse app.settings arguments with
  | .error stop => (.error (.stop stop), app)
  | .ok invocation =>
    let sent := app.send invocation.call.toRequest
    (sent.1.mapError .client, sent.2)

/-- What the command line prints for a response, or what is wrong with the response. -/
def report (response : HttpResponse) : Except Json.Fault CommandLine.Report :=
  match response.content with
  | .text body => CommandLine.Reply.report ⟨response.succeeded, body⟩
  | .json value => .ok (.ofJson response.succeeded value)
  | .rows rows => .ok (.ofJson response.succeeded (.arr (rows.map Entry.toJson)))

end App

end RouteOverrides
