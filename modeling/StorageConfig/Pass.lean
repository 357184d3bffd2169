import StorageConfig.Converge
import StorageConfig.FailureDomain
import StorageConfig.Restart
import StorageConfig.Settings

/-! One pass over a cluster: derive its settings, bring the config map in line, restart what depends on it. -/

namespace StorageConfig

/-- What a pass that succeeded did. -/
structure PassOutcome where
  /-- The settings the config map now holds. -/
  values : CsiValues
  /-- Whether the config map was written. -/
  changed : Bool
  /-- How the restart went, if there was one. -/
  restart : Option RestartReport
  deriving DecidableEq

/-- The cluster identity, or nothing where it cannot be read. -/
def resolveIdentity {σ : Type} (world : Collaborators σ) (singleton : String) : Action σ String := do
  match ← (world.identity singleton).attempt with
  | .ok identity => pure identity
  | .error _ => pure ""

/-- Run a pass; the pods are restarted only if the config map was written. -/
def runPass {σ : Type} (world : Collaborators σ) (settings : Settings) (cluster : StorageCluster) :
    Action σ PassOutcome := do
  let owner ← Action.ofExcept cluster.owner
  let target := settings.targetOf cluster
  let identity ← resolveIdentity world settings.identitySingleton
  let values := CsiValues.derive cluster.spec identity cluster.topologyLabel
  let changed ← converge world values target owner
  if changed then
    let report ← restartDependents world target.namespaceName settings.dependents
    pure ⟨values, true, some report⟩
  else pure ⟨values, false, none⟩

end StorageConfig
