import StorageConfig.Failure
import StorageConfig.ObjectMeta
import StorageConfig.StorageCluster.Spec

/-! Storage clusters, the objects whose settings are managed. -/

namespace StorageConfig

/-- A storage cluster. -/
structure StorageCluster where
  metadata : ObjectMeta := {}
  spec : ClusterSpec := {}
  status : Option ClusterStatus := none

namespace StorageCluster

/-- The group and version under which clusters are served. -/
def apiVersion : String := "ocs.openshift.io/v1"

/-- The kind of a cluster. -/
def kind : String := "StorageCluster"

/-- The name of a cluster, or else what its name is generated from. -/
def displayName (cluster : StorageCluster) : String := cluster.metadata.displayName

/-- The namespace of a cluster, or another where it has none. -/
def namespaceOr (cluster : StorageCluster) (fallback : String) : String :=
  cluster.metadata.namespaceName.getD fallback

/-- Whether the cluster is on its way out. -/
def isBeingDeleted (cluster : StorageCluster) : Bool := cluster.metadata.deletionTimestamp.isSome

/-- The cluster as an owner, which it can be once an API server has given it a uid. -/
def owner (cluster : StorageCluster) : Except Failure Owner :=
  match cluster.metadata.uid with
  | some uid => .ok ⟨apiVersion, kind, cluster.displayName, uid⟩
  | none =>
    .error (.internal
      ("StorageCluster " ++ cluster.displayName ++ " has no uid; it must be read from the API server"))

/-- The fields of a cluster; its version and kind are not looked at. -/
def fields : Record StorageCluster :=
  StorageCluster.mk <$> .required "metadata" ObjectMeta.ofJson <*> .required "spec" ClusterSpec.ofJson
    <*> .optional "status" ClusterStatus.ofJson

/-- Read a cluster from a document. -/
def ofJson : Decoder StorageCluster := fields.decode "StorageCluster"

/-- A cluster as a document, with its status only if it has one. -/
def toJson (cluster : StorageCluster) : Json :=
  .obj ([("apiVersion", .str apiVersion), ("kind", .str kind), ("metadata", cluster.metadata.toJson),
    ("spec", cluster.spec.toJson)] ++ Json.presentMember "status" ClusterStatus.toJson cluster.status)

end StorageCluster

end StorageConfig
