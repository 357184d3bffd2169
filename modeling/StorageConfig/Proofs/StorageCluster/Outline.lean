import StorageConfig.Proofs.Json.Outline
import StorageConfig.StorageCluster

/-! What the parts of a storage cluster declare of their documents, and what their missing members stand for. -/

namespace StorageConfig

open Outline

/-- A switch of the given name, off where it is missing. -/
def Outline.switch (name : String) : Field := defaulted name (.bool false) scalar

/-- An optional part of the given name, null where it is missing. -/
def Outline.optional (name : String) (part : Outline) : Field := defaulted name .null part

/-- What the external mode declares. -/
def ExternalStorage.outline : Outline := record [switch "enable"]

/-- What the pools declare. -/
def NonResilientPools.outline : Outline := record [switch "enable"]

/-- What the managed resources declare. -/
def ManagedResources.outline : Outline :=
  record [defaulted "cephNonResilientPools" (NonResilientPools.toJson {}) NonResilientPools.outline]

/-- What a toggle declares. -/
def FeatureToggle.outline : Outline := record [switch "enabled"]

/-- What the connections declare. -/
def Connections.outline : Outline :=
  record [optional "encryption" FeatureToggle.outline, optional "compression" FeatureToggle.outline,
    switch "requireMsgr2"]

/-- What the network policy declares. -/
def NetworkPolicy.outline : Outline := record [optional "connections" Connections.outline]

/-- What a spec declares. -/
def ClusterSpec.outline : Outline :=
  record [defaulted "externalStorage" (ExternalStorage.toJson {}) ExternalStorage.outline,
    switch "allowRemoteStorageConsumers",
    defaulted "managedResources" (ManagedResources.toJson {}) ManagedResources.outline,
    optional "network" NetworkPolicy.outline]

/-- What a status declares. -/
def ClusterStatus.outline : Outline :=
  record [optional "failureDomain" scalar, optional "failureDomainKey" scalar]

end StorageConfig
