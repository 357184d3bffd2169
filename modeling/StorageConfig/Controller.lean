import StorageConfig.Metrics

/-! When a cluster is looked at again. -/

namespace StorageConfig

/-- Look at a cluster once; the result is the seconds until the next look, nothing while it is being deleted. -/
def controlCluster {σ : Type} (world : Collaborators σ) (settings : Settings) (seconds : Float)
    (cluster : StorageCluster) : Action (Monitored σ) (Option Nat) :=
  -- The config map goes with the cluster that owns it.
  if cluster.isBeingDeleted then pure none
  else do
    let _ ← runMonitoredPass world settings seconds cluster
    pure (some settings.resyncSeconds.toNat)

/-- The seconds until the next look after one that gave a result or failed, if one is planned. -/
def nextLook : Except Failure (Option Nat) → Option Nat
  | .ok seconds => seconds
  | .error failure => failure.retry.delay

end StorageConfig
