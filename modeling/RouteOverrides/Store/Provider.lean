import RouteOverrides.Settings

/-! # Opening the store

The store that the settings ask for is opened once and then shared by everybody who asks for it.

* `Provider.get`: the store, opened on the first call only.
* `Provider.loads`: the configurations of a cluster that were loaded on the way. -/

namespace RouteOverrides

/-- Where a cluster's configuration comes from. -/
inductive ConfigurationSource where
  | configurationFile
  | insideCluster
  deriving DecidableEq, Repr

/-- The store, if it has been opened, and what was loaded to open it. -/
structure Provider where
  opened : Option Settings.Backend
  loads : List ConfigurationSource
  deriving DecidableEq, Repr

namespace Provider

def closed : Provider := ⟨none, []⟩

def needs : Settings.Backend → List ConfigurationSource
  | .memory => []
  | .cluster true => [.insideCluster]
  | .cluster false => [.configurationFile]

/-- The store, and the provider after it was asked. -/
def get (provider : Provider) (settings : Settings) : Settings.Backend × Provider :=
  match provider.opened with
  | some backend => (backend, provider)
  | none =>
    let backend := settings.backend
    (backend, ⟨some backend, provider.loads ++ needs backend⟩)

/-- Whoever asks later gets the same store, and nothing is loaded again. -/
theorem get_get (provider : Provider) (settings later : Settings) :
    (provider.get settings).2.get later = provider.get settings := by
  unfold get
  cases h : provider.opened <;> simp [h]

end Provider

end RouteOverrides
