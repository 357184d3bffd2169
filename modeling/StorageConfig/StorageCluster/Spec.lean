import StorageConfig.Json.Record

/-!
What a storage cluster is meant to be, as far as the managed settings depend on it.

Every field has a default, and only the optional parts may be null.
-/

namespace StorageConfig

/-- Whether the cluster consumes storage that runs elsewhere. -/
structure ExternalStorage where
  enable : Bool := false
  deriving DecidableEq, Repr

namespace ExternalStorage

/-- The fields of the external mode. -/
def fields : Record ExternalStorage := ExternalStorage.mk <$> .defaulted "enable" Decoder.flag false

/-- Read the external mode from a document. -/
def ofJson : Decoder ExternalStorage := fields.decode "ExternalStorageSpec"

/-- The external mode as a document. -/
def toJson (spec : ExternalStorage) : Json := .obj [("enable", .bool spec.enable)]

end ExternalStorage

/-- Whether pools without replicas run, one for each failure domain. -/
structure NonResilientPools where
  enable : Bool := false
  deriving DecidableEq, Repr

namespace NonResilientPools

/-- The fields of the pools. -/
def fields : Record NonResilientPools := NonResilientPools.mk <$> .defaulted "enable" Decoder.flag false

/-- Read the pools from a document. -/
def ofJson : Decoder NonResilientPools := fields.decode "NonResilientPoolsSpec"

/-- The pools as a document. -/
def toJson (spec : NonResilientPools) : Json := .obj [("enable", .bool spec.enable)]

end NonResilientPools

/-- What is managed on behalf of the cluster. -/
structure ManagedResources where
  cephNonResilientPools : NonResilientPools := {}
  deriving DecidableEq, Repr

namespace ManagedResources

/-- The fields of the managed resources. -/
def fields : Record ManagedResources :=
  ManagedResources.mk <$> .defaulted "cephNonResilientPools" NonResilientPools.ofJson {}

/-- Read the managed resources from a document. -/
def ofJson : Decoder ManagedResources := fields.decode "ManagedResourcesSpec"

/-- The managed resources as a document. -/
def toJson (spec : ManagedResources) : Json :=
  .obj [("cephNonResilientPools", spec.cephNonResilientPools.toJson)]

end ManagedResources

/-- A feature that is on or off. -/
structure FeatureToggle where
  enabled : Bool := false
  deriving DecidableEq, Repr

namespace FeatureToggle

/-- The fields of a toggle. -/
def fields : Record FeatureToggle := FeatureToggle.mk <$> .defaulted "enabled" Decoder.flag false

/-- Read a toggle from a document. -/
def ofJson : Decoder FeatureToggle := fields.decode "FeatureToggle"

/-- A toggle as a document. -/
def toJson (toggle : FeatureToggle) : Json := .obj [("enabled", .bool toggle.enabled)]

end FeatureToggle

/-- How the parts of the cluster talk to each other. -/
structure Connections where
  encryption : Option FeatureToggle := none
  compression : Option FeatureToggle := none
  /-- Whether connections of the first protocol version are refused. -/
  requireMsgr2 : Bool := false
  deriving DecidableEq, Repr

namespace Connections

/-- Whether traffic is encrypted. -/
def isEncrypted (connections : Connections) : Bool :=
  connections.encryption.any FeatureToggle.enabled

/-- Whether traffic is compressed. -/
def isCompressed (connections : Connections) : Bool :=
  connections.compression.any FeatureToggle.enabled

/-- The fields of the connections. -/
def fields : Record Connections :=
  Connections.mk <$> .optionalAnywhere "encryption" FeatureToggle.ofJson
    <*> .optionalAnywhere "compression" FeatureToggle.ofJson
    <*> .defaulted "requireMsgr2" Decoder.flag false

/-- Read the connections from a document. -/
def ofJson : Decoder Connections := fields.decode "ConnectionsSpec"

/-- The connections as a document. -/
def toJson (connections : Connections) : Json :=
  .obj [("encryption", .ofOption FeatureToggle.toJson connections.encryption),
    ("compression", .ofOption FeatureToggle.toJson connections.compression),
    ("requireMsgr2", .bool connections.requireMsgr2)]

end Connections

/-- The network policy. -/
structure NetworkPolicy where
  connections : Option Connections := none
  deriving DecidableEq, Repr

namespace NetworkPolicy

/-- The fields of the policy. -/
def fields : Record NetworkPolicy :=
  NetworkPolicy.mk <$> .optionalAnywhere "connections" Connections.ofJson

/-- Read the policy from a document. -/
def ofJson : Decoder NetworkPolicy := fields.decode "NetworkSpec"

/-- The policy as a document. -/
def toJson (policy : NetworkPolicy) : Json :=
  .obj [("connections", .ofOption Connections.toJson policy.connections)]

end NetworkPolicy

/-- What a storage cluster is meant to be. -/
structure ClusterSpec where
  externalStorage : ExternalStorage := {}
  /-- Whether remote consumers may attach to the cluster. -/
  allowRemoteStorageConsumers : Bool := false
  managedResources : ManagedResources := {}
  network : Option NetworkPolicy := none
  deriving DecidableEq, Repr

namespace ClusterSpec

/-- The connection settings, if the network policy has any. -/
def connections? (spec : ClusterSpec) : Option Connections :=
  spec.network.bind NetworkPolicy.connections

/-- The fields of the spec. -/
def fields : Record ClusterSpec :=
  ClusterSpec.mk <$> .defaulted "externalStorage" ExternalStorage.ofJson {}
    <*> .defaulted "allowRemoteStorageConsumers" Decoder.flag false
    <*> .defaulted "managedResources" ManagedResources.ofJson {}
    <*> .optionalAnywhere "network" NetworkPolicy.ofJson

/-- Read a spec from a document. -/
def ofJson : Decoder ClusterSpec := fields.decode "StorageClusterSpec"

/-- A spec as a document. -/
def toJson (spec : ClusterSpec) : Json :=
  .obj [("externalStorage", spec.externalStorage.toJson),
    ("allowRemoteStorageConsumers", .bool spec.allowRemoteStorageConsumers),
    ("managedResources", spec.managedResources.toJson),
    ("network", .ofOption NetworkPolicy.toJson spec.network)]

end ClusterSpec

/-- What is known of a running storage cluster. -/
structure ClusterStatus where
  /-- The kind of place that is expected to fail as a whole. -/
  failureDomain : Option String := none
  /-- The node label that tells those places apart. -/
  failureDomainKey : Option String := none
  deriving DecidableEq, Repr

namespace ClusterStatus

/-- The fields of the status. -/
def fields : Record ClusterStatus :=
  ClusterStatus.mk <$> .optionalAnywhere "failureDomain" Decoder.text
    <*> .optionalAnywhere "failureDomainKey" Decoder.text

/-- Read a status from a document. -/
def ofJson : Decoder ClusterStatus := fields.decode "StorageClusterStatus"

/-- A status as a document. -/
def toJson (status : ClusterStatus) : Json :=
  .obj [("failureDomain", .ofOption .str status.failureDomain),
    ("failureDomainKey", .ofOption .str status.failureDomainKey)]

end ClusterStatus

end StorageConfig
