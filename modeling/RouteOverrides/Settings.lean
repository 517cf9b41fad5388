import RouteOverrides.Json.Basic
import RouteOverrides.Text.Blank
import RouteOverrides.Text.Integer

/-! # Settings

All settings have defaults, and each can be set by an environment variable.

* `Settings.ofEnvironment`: the settings under an environment. An empty variable counts as set.
* `flag`: the words that switch something on, in any case and between blanks; everything else
  switches it off.
* `whole`: a number, or the default if the variable holds none. -/

namespace RouteOverrides

/-- What can be configured. -/
structure Settings where
  databasePath : String := "vsr.db"
  versionLabel : String := "version"
  defaultVersion : String := "shared"
  ownerAnnotation : String := "vsr.io/owners"
  storeBackend : String := "memory"
  inCluster : Bool := false
  group : String := "networking.istio.io"
  version : String := "v1alpha3"
  plural : String := "destinationrules"
  kind : String := "DestinationRule"
  adminUser : String := "admin"
  adminPassword : String := "change-me"
  timeoutSeconds : Int := 30
  deriving DecidableEq, Repr, Inhabited

namespace Settings

def onWords : List String := ["1", "true", "yes", "y", "on"]

/-- A switch, from the value of its variable. -/
def flag (raw : Option String) (fallback : Bool) : Bool :=
  match raw with
  | none => fallback
  | some value => onWords.contains (String.ofList ((Text.trim value.toList).map Char.toLower))

/-- A whole number, from the value of its variable. -/
def whole (raw : Option String) (fallback : Int) : Int :=
  (raw.bind fun value => Text.integer? value.toList).getD fallback

/-- The settings under an environment, which gives the variables that are set a value. -/
def ofEnvironment (value : String → Option String) : Settings :=
  let defaults : Settings := {}
  { databasePath := (value "VSR_DB_PATH").getD defaults.databasePath
    versionLabel := (value "VSR_VERSION_LABEL").getD defaults.versionLabel
    defaultVersion := (value "VSR_DEFAULT_VERSION").getD defaults.defaultVersion
    ownerAnnotation := (value "VSR_OWNER_ANNOTATION").getD defaults.ownerAnnotation
    storeBackend := (value "VSR_STORE_BACKEND").getD defaults.storeBackend
    inCluster := flag (value "VSR_KUBE_IN_CLUSTER") defaults.inCluster
    group := (value "VSR_KUBE_GROUP").getD defaults.group
    version := (value "VSR_KUBE_VERSION").getD defaults.version
    plural := (value "VSR_KUBE_PLURAL").getD defaults.plural
    kind := (value "VSR_KUBE_KIND").getD defaults.kind
    adminUser := (value "VSR_ADMIN_USER").getD defaults.adminUser
    adminPassword := (value "VSR_ADMIN_PASSWORD").getD defaults.adminPassword
    timeoutSeconds := whole (value "VSR_API_TIMEOUT_S") defaults.timeoutSeconds }

/-- A text that was given and is not empty, else the configured one. -/
def orDefault (given : Option String) (configured : String) : String :=
  match given with
  | some text => if text = "" then configured else text
  | none => configured

/-- The annotation key to use when `key` is asked for. -/
def annotationKey (settings : Settings) (key : Option String) : String :=
  orDefault key settings.ownerAnnotation

@[simp] theorem orDefault_none (configured : String) : orDefault none configured = configured := rfl

theorem orDefault_some_of_ne {text : String} (h : text ≠ "") (configured : String) :
    orDefault (some text) configured = text := by
  simp [orDefault, h]

/-- Which kind of store the settings ask for. -/
inductive Backend where
  /-- Objects are kept in memory. -/
  | memory
  /-- Objects are kept by a cluster, reached from inside it or by a configuration file. -/
  | cluster (inside : Bool)
  deriving DecidableEq, Repr

/-- The store that the settings ask for; anything but the word for a cluster means memory. -/
def backend (settings : Settings) : Backend :=
  if settings.storeBackend = "kubernetes" then .cluster settings.inCluster else .memory

end Settings

end RouteOverrides
