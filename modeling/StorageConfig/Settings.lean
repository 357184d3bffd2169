import StorageConfig.ConfigMap
import StorageConfig.Selector
import StorageConfig.StorageCluster

/-! How the operator is set up. -/

namespace StorageConfig

/-- The name under which the operator runs. -/
def programName : String := "storage-config-operator"

/-- The version of the operator. -/
def programVersion : String := "0.1.0"

/-- How the operator is set up. -/
structure Settings where
  /-- The name of the managed config map. -/
  configMapName : String
  /-- The namespace of clusters that have none. -/
  defaultNamespace : String
  /-- The pods to restart. -/
  dependents : Selector
  /-- The name of the object that holds the cluster identity. -/
  identitySingleton : String
  /-- Seconds from one successful pass to the next. -/
  resyncSeconds : UInt64

namespace Settings

/-- The label of the pods that are restarted unless others are named. -/
def dependentLabel : String × String := ("app", "rook-ceph-operator")

/-- The settings that hold where nothing else is said. -/
def standard : Settings :=
  { configMapName := "ocs-operator-config"
    defaultNamespace := "openshift-storage"
    dependents := .single dependentLabel.1 dependentLabel.2
    identitySingleton := "version"
    resyncSeconds := 300 }

/-- The config map that a cluster's settings are written to. -/
def targetOf (settings : Settings) (cluster : StorageCluster) : ResourceKey :=
  ⟨settings.configMapName, cluster.namespaceOr settings.defaultNamespace⟩

end Settings

end StorageConfig
