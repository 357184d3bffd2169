import StorageConfig.StorageCluster
import StorageConfig.Text.Lowercase

/-! The node label that tells the failure domains of a cluster apart. -/

namespace StorageConfig

/-- The label of single machines. -/
def hostLabel : String := "kubernetes.io/hostname"

/-- The label of zones. -/
def zoneLabel : String := "topology.kubernetes.io/zone"

/-- The label of racks. -/
def rackLabel : String := "topology.rook.io/rack"

/-- The label of a well-known failure domain, whatever the case of its letters. -/
def labelOfDomain (domain : String) : Option String :=
  match lowercase domain with
  | "host" => some hostLabel
  | "zone" => some zoneLabel
  | "rack" => some rackLabel
  | _ => none

namespace ClusterStatus

/-- The label of a status: its own key if it gives one, else that of its well-known domain, else nothing. -/
def topologyLabel (status : ClusterStatus) : String :=
  match status.failureDomainKey.filter fun key => !key.isEmpty with
  | some key => key
  | none => (status.failureDomain.bind labelOfDomain).getD ""

end ClusterStatus

/-- The label of a cluster, empty while its status is not known. -/
def StorageCluster.topologyLabel (cluster : StorageCluster) : String :=
  (cluster.status.map ClusterStatus.topologyLabel).getD ""

end StorageConfig
