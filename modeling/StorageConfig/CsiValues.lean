import StorageConfig.StorageCluster.Spec

/-! The managed settings of the storage driver, and how a cluster's spec determines them. -/

namespace StorageConfig

/-- The messenger mode in which the kernel client mounts. -/
inductive MountMode where
  /-- The second protocol version, encrypted. -/
  | secure
  /-- The second protocol version where there is one, with checksums only. -/
  | preferCrc
  /-- The first protocol version. -/
  | legacy
  deriving DecidableEq, Repr

namespace MountMode

/-- The mount option of a mode. -/
def render : MountMode → String
  | secure => "ms_mode=secure"
  | preferCrc => "ms_mode=prefer-crc"
  | legacy => "ms_mode=legacy"

/--
The mode of a cluster; the first rule that applies decides.

The network policy comes before the way of deployment, so a mode that is asked for is never weakened.
-/
def ofSpec (spec : ClusterSpec) : MountMode :=
  if spec.connections?.any Connections.isEncrypted then secure
  else if spec.connections?.any fun wire => wire.isCompressed || wire.requireMsgr2 then preferCrc
  -- Storage used from or by others need not speak the second version.
  else if spec.externalStorage.enable || spec.allowRemoteStorageConsumers then legacy
  else preferCrc

/-- The name of a mode in documents. -/
def caseName : MountMode → String
  | secure => "Secure"
  | preferCrc => "PreferCrc"
  | legacy => "Legacy"

/-- A mode as a document. -/
def toJson (mode : MountMode) : Json := .str mode.caseName

/-- Read a mode from a document. -/
def ofJson : Decoder MountMode :=
  Decoder.oneOf [("Secure", secure), ("PreferCrc", preferCrc), ("Legacy", legacy)]

end MountMode

/-- The managed settings of one cluster. -/
structure CsiValues where
  clusterName : String
  /-- Whether reads go to the nearest copy. -/
  enableReadAffinity : Bool
  mountMode : MountMode
  enableTopology : Bool
  /-- The node label of the failure domain. -/
  topologyDomainLabels : String
  deriving DecidableEq, Repr

namespace CsiValues

/-- The key of the cluster name. -/
def clusterNameKey : String := "CSI_CLUSTER_NAME"

/-- The key of the read affinity. -/
def readAffinityKey : String := "CSI_ENABLE_READ_AFFINITY"

/-- The key of the mount option. -/
def mountOptionsKey : String := "CSI_CEPHFS_KERNEL_MOUNT_OPTIONS"

/-- The key of the topology switch. -/
def topologyKey : String := "CSI_ENABLE_TOPOLOGY"

/-- The key of the topology label. -/
def topologyLabelsKey : String := "CSI_TOPOLOGY_DOMAIN_LABELS"

/-- The managed keys, in the order of the settings. -/
def managedKeys : List String :=
  [clusterNameKey, readAffinityKey, mountOptionsKey, topologyKey, topologyLabelsKey]

/-- A truth value as a setting. -/
def flagText (value : Bool) : String := if value then "true" else "false"

/-- The settings under their keys. -/
def entries (values : CsiValues) : List (String × String) :=
  [(clusterNameKey, values.clusterName),
    (readAffinityKey, flagText values.enableReadAffinity),
    (mountOptionsKey, values.mountMode.render),
    (topologyKey, flagText values.enableTopology),
    (topologyLabelsKey, values.topologyDomainLabels)]

/-- The settings as a map. -/
def toMap (values : CsiValues) : TextMap := .ofList values.entries

/-- The settings of a cluster of the given spec, identity and topology label. -/
def derive (spec : ClusterSpec) (identity topologyLabel : String) : CsiValues :=
  { clusterName := identity
    -- Only a cluster that runs its own storage has a nearest copy.
    enableReadAffinity := !spec.externalStorage.enable
    mountMode := .ofSpec spec
    enableTopology := spec.managedResources.cephNonResilientPools.enable
    topologyDomainLabels := topologyLabel }

/-- The settings as a document. -/
def toJson (values : CsiValues) : Json :=
  .obj [("cluster_name", .str values.clusterName),
    ("enable_read_affinity", .bool values.enableReadAffinity),
    ("cephfs_kernel_mount_options", values.mountMode.toJson),
    ("enable_topology", .bool values.enableTopology),
    ("topology_domain_labels", .str values.topologyDomainLabels)]

/-- The fields of the settings. -/
def fields : Record CsiValues :=
  CsiValues.mk <$> .required "cluster_name" Decoder.text
    <*> .required "enable_read_affinity" Decoder.flag
    <*> .required "cephfs_kernel_mount_options" MountMode.ofJson
    <*> .required "enable_topology" Decoder.flag
    <*> .required "topology_domain_labels" Decoder.text

/-- Read the settings from a document. -/
def ofJson : Decoder CsiValues := fields.decode "DerivedConfig"

end CsiValues

end StorageConfig
