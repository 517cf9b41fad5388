import RouteOverrides.Api.App

/-! # The command line program

Runs one command. The request goes to an application of this process, with the settings of the
environment and an empty store in memory. -/

namespace RouteOverrides.CommandLine

def settingVariables : List String :=
  ["VSR_DB_PATH", "VSR_VERSION_LABEL", "VSR_DEFAULT_VERSION", "VSR_OWNER_ANNOTATION",
    "VSR_STORE_BACKEND", "VSR_KUBE_IN_CLUSTER", "VSR_KUBE_GROUP", "VSR_KUBE_VERSION",
    "VSR_KUBE_PLURAL", "VSR_KUBE_KIND", "VSR_ADMIN_USER", "VSR_ADMIN_PASSWORD",
    "VSR_API_TIMEOUT_S"]

def readSettings : IO Settings := do
  let found ← settingVariables.mapM fun name => do pure (name, ← IO.getEnv name)
  pure (Settings.ofEnvironment fun name => (found.lookup name).join)

/-- What a command line that gets no response has to say, and its exit code. -/
def Refusal.exit : Refusal → Nat × Option String
  | .stop reason => reason.exit
  | .client fault => (1, some fault.message)

def runArguments (arguments : List String) : IO UInt32 := do
  let app := App.start (← readSettings) (.ofObjects [] [])
  match (app.runCommand arguments).1 with
  | .error refusal =>
    match refusal.exit with
    | (code, some message) =>
      IO.eprintln ("error: " ++ message)
      pure code.toUInt32
    | (code, none) =>
      IO.println "commands: reconcile, release, status, events"
      pure code.toUInt32
  | .ok response =>
    match App.report response with
    | .ok report =>
      IO.print report.output
      pure report.exit.toUInt32
    | .error fault =>
      IO.eprintln ("error: " ++ fault.message)
      pure 1

end RouteOverrides.CommandLine

def main (arguments : List String) : IO UInt32 :=
  RouteOverrides.CommandLine.runArguments arguments
