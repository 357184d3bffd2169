import StorageConfig.CsiValues
import StorageConfig.Proofs.Json.Recast
import StorageConfig.Proofs.StorageCluster.Outline
import StorageConfig.Restart

/-! Every value that is written as a document is read back from it, however the records in it are written. -/

namespace StorageConfig

open Outline Record

/-- What the key of a resource declares. -/
def ResourceKey.outline : Outline := record [required "name" scalar, required "namespace" scalar]

/-- What an owner declares. -/
def Owner.outline : Outline :=
  record [required "api_version" scalar, required "kind" scalar, required "name" scalar, required "uid" scalar]

/-- What a reference to an owner declares. -/
def OwnerRef.outline : Outline :=
  record [required "owner" Owner.outline, optional "controller" scalar, optional "block_owner_deletion" scalar]

/-- What a config map declares. -/
def ConfigMap.outline : Outline :=
  record [required "key" ResourceKey.outline, required "data" whole,
    required "owner_references" (list OwnerRef.outline), optional "resource_version" scalar]

/-- What a reference to a pod declares. -/
def PodRef.outline : Outline := record [required "namespace" scalar, required "name" scalar]

/-- What a report on a restart declares. -/
def RestartReport.outline : Outline :=
  record [required "listed" scalar, required "terminated" scalar, required "aborted" scalar]

/-- What the managed settings declare. -/
def CsiValues.outline : Outline :=
  record [required "cluster_name" scalar, required "enable_read_affinity" scalar,
    required "cephfs_kernel_mount_options" scalar, required "enable_topology" scalar,
    required "topology_domain_labels" scalar]

/-- A truth value is restored. -/
theorem Decoder.restores_flag (value : Bool) : flag.Restores .scalar (.bool value) value := restores_scalar rfl

/-- A text is restored. -/
theorem Decoder.restores_text (value : String) : text.Restores .scalar (.str value) value := restores_scalar rfl

/-- A text that may be null is restored. -/
theorem Decoder.restores_optionalText (value : Option String) :
    (nullable text).Restores .scalar (.ofOption .str value) value :=
  restores_nullable restores_text (fun _ => nofun) value

/-- A flag that may be null is restored. -/
theorem Decoder.restores_optionalFlag (value : Option Bool) :
    (nullable flag).Restores .scalar (.ofOption .bool value) value :=
  restores_nullable restores_flag (fun _ => nofun) value

/-- A count that fits a machine word is restored. -/
theorem Decoder.restores_count {value : Nat} (small : value < UInt64.size) :
    count.Restores .scalar (.nat value) value :=
  restores_scalar (natural_nat small "usize")

/-- An external mode is restored. -/
theorem ExternalStorage.restores (spec : ExternalStorage) : ofJson.Restores outline spec.toJson spec :=
  ((restores_pure mk).field (Decoder.restores_flag spec.enable)).decode (by decide) _

/-- The settings of the pools are restored. -/
theorem NonResilientPools.restores (spec : NonResilientPools) : ofJson.Restores outline spec.toJson spec :=
  ((restores_pure mk).field (Decoder.restores_flag spec.enable)).decode (by decide) _

/-- Managed resources are restored. -/
theorem ManagedResources.restores (spec : ManagedResources) : ofJson.Restores outline spec.toJson spec :=
  ((restores_pure mk).field spec.cephNonResilientPools.restores).decode (by decide) _

/-- A toggle is restored. -/
theorem FeatureToggle.restores (toggle : FeatureToggle) : ofJson.Restores outline toggle.toJson toggle :=
  ((restores_pure mk).field (Decoder.restores_flag toggle.enabled)).decode (by decide) _

/-- Connections are restored. -/
theorem Connections.restores (connections : Connections) : ofJson.Restores outline connections.toJson connections := by
  have toggle := Decoder.restores_nullable FeatureToggle.restores (fun _ => nofun)
  have requireMsgr2 := Decoder.restores_flag connections.requireMsgr2
  exact ((((restores_pure mk).field (toggle connections.encryption)).field (toggle connections.compression)).field
    requireMsgr2).decode (by decide) _

/-- A network policy is restored. -/
theorem NetworkPolicy.restores (policy : NetworkPolicy) : ofJson.Restores outline policy.toJson policy := by
  have connections := Decoder.restores_nullable Connections.restores (fun _ => nofun) policy.connections
  exact ((restores_pure mk).field connections).decode (by decide) _

/-- A spec is restored. -/
theorem ClusterSpec.restores (spec : ClusterSpec) : ofJson.Restores outline spec.toJson spec := by
  have consumers := Decoder.restores_flag spec.allowRemoteStorageConsumers
  have network := Decoder.restores_nullable NetworkPolicy.restores (fun _ => nofun) spec.network
  exact (((((restores_pure mk).field spec.externalStorage.restores).field consumers).field
    spec.managedResources.restores).field network).decode (by decide) _

/-- A status is restored. -/
theorem ClusterStatus.restores (status : ClusterStatus) : ofJson.Restores outline status.toJson status := by
  have domain := Decoder.restores_optionalText status.failureDomain
  have key := Decoder.restores_optionalText status.failureDomainKey
  exact (((restores_pure mk).field domain).field key).decode (by decide) _

/-- A mount mode is restored. -/
theorem MountMode.restores (mode : MountMode) : ofJson.Restores scalar mode.toJson mode := by
  refine Decoder.restores_scalar ?_
  cases mode <;> rfl

/-- The managed settings are restored. -/
theorem CsiValues.restores (values : CsiValues) : ofJson.Restores outline values.toJson values := by
  have name := Decoder.restores_text values.clusterName
  have affinity := Decoder.restores_flag values.enableReadAffinity
  have topology := Decoder.restores_flag values.enableTopology
  have labels := Decoder.restores_text values.topologyDomainLabels
  exact ((((((restores_pure mk).field name).field affinity).field values.mountMode.restores).field topology).field
    labels).decode (by decide) _

/-- The key of a resource is restored. -/
theorem ResourceKey.restores (key : ResourceKey) : ofJson.Restores outline key.toJson key := by
  have text := Decoder.restores_text
  exact (((restores_pure mk).field (text key.name)).field (text key.namespaceName)).decode (by decide) _

/-- An owner is restored. -/
theorem Owner.restores (owner : Owner) : ofJson.Restores outline owner.toJson owner := by
  have text := Decoder.restores_text
  exact (((((restores_pure mk).field (text owner.apiVersion)).field (text owner.kind)).field
    (text owner.name)).field (text owner.uid)).decode (by decide) _

/-- A reference to an owner is restored. -/
theorem OwnerRef.restores (ref : OwnerRef) : ofJson.Restores outline ref.toJson ref := by
  have controller := Decoder.restores_optionalFlag ref.controller
  have blocks := Decoder.restores_optionalFlag ref.blocksDeletion
  exact ((((restores_pure mk).field ref.owner.restores).field controller).field blocks).decode (by decide) _

/-- A config map is restored. -/
theorem ConfigMap.restores (resource : ConfigMap) : ofJson.Restores outline resource.toJson resource := by
  have data := Decoder.restores_textMap resource.data
  have refs := Decoder.restores_list OwnerRef.restores resource.ownerRefs
  have version := Decoder.restores_optionalText resource.version
  exact (((((restores_pure mk).field resource.key.restores).field data).field refs).field version).decode
    (by decide) _

/-- An outcome is restored. -/
theorem WriteOutcome.restores (outcome : WriteOutcome) : ofJson.Restores scalar outcome.toJson outcome := by
  refine Decoder.restores_scalar ?_
  cases outcome <;> rfl

/-- A reference to a pod is restored. -/
theorem PodRef.restores (pod : PodRef) : ofJson.Restores outline pod.toJson pod := by
  have text := Decoder.restores_text
  exact (((restores_pure mk).field (text pod.namespaceName)).field (text pod.name)).decode (by decide) _

/-- A selector is restored. -/
theorem Selector.restores (selector : Selector) : ofJson.Restores whole selector.toJson selector := by
  refine Decoder.restores_whole ?_
  rw [ofJson, toJson, Decoder.restores_textMap selector.labels _ rfl]
  rfl

/-- A report is restored if its counts fit machine words. -/
theorem RestartReport.restores {report : RestartReport} (listed : report.listed < UInt64.size)
    (terminated : report.terminated < UInt64.size) : ofJson.Restores outline report.toJson report := by
  have aborted := Decoder.restores_flag report.aborted
  exact ((((restores_pure mk).field (Decoder.restores_count listed)).field
    (Decoder.restores_count terminated)).field aborted).decode (by decide) _

/--
Reading undoes writing.

A value is read from its document however the records in it are written, and no two values have a document in common.
-/
structure RoundTrips {α : Type} (outline : Outline) (encode : α → Json) (decode : Decoder α)
    (fits : α → Prop := fun _ => True) : Prop where
  plain : ∀ value, fits value → decode (encode value) = .ok value
  recast : ∀ value json, fits value → outline.Recast (encode value) json → decode json = .ok value
  distinct : ∀ left right json, fits left → fits right → outline.Recast (encode left) json →
    outline.Recast (encode right) json → left = right

/-- Reading undoes writing where every value is restored. -/
theorem RoundTrips.of_restores {α : Type} {outline : Outline} {encode : α → Json} {decode : Decoder α}
    {fits : α → Prop} (restores : ∀ value, fits value → decode.Restores outline (encode value) value) :
    RoundTrips outline encode decode fits := by
  refine ⟨fun value fit => restores value fit _ (.refl _ _), fun value json fit => restores value fit json, ?_⟩
  intro left right json fitsLeft fitsRight fromLeft fromRight
  -- What is read from the document that they have in common is both of them.
  exact Except.ok.inj ((restores left fitsLeft json fromLeft).symm.trans (restores right fitsRight json fromRight))

/-- Reading undoes writing for everything that is exchanged as a document. -/
theorem reading_undoes_writing :
    RoundTrips ClusterSpec.outline ClusterSpec.toJson ClusterSpec.ofJson ∧
    RoundTrips ExternalStorage.outline ExternalStorage.toJson ExternalStorage.ofJson ∧
    RoundTrips ManagedResources.outline ManagedResources.toJson ManagedResources.ofJson ∧
    RoundTrips NonResilientPools.outline NonResilientPools.toJson NonResilientPools.ofJson ∧
    RoundTrips NetworkPolicy.outline NetworkPolicy.toJson NetworkPolicy.ofJson ∧
    RoundTrips Connections.outline Connections.toJson Connections.ofJson ∧
    RoundTrips FeatureToggle.outline FeatureToggle.toJson FeatureToggle.ofJson ∧
    RoundTrips ClusterStatus.outline ClusterStatus.toJson ClusterStatus.ofJson ∧
    RoundTrips CsiValues.outline CsiValues.toJson CsiValues.ofJson ∧
    RoundTrips scalar MountMode.toJson MountMode.ofJson ∧
    RoundTrips ResourceKey.outline ResourceKey.toJson ResourceKey.ofJson ∧
    RoundTrips Owner.outline Owner.toJson Owner.ofJson ∧
    RoundTrips OwnerRef.outline OwnerRef.toJson OwnerRef.ofJson ∧
    RoundTrips ConfigMap.outline ConfigMap.toJson ConfigMap.ofJson ∧
    RoundTrips scalar WriteOutcome.toJson WriteOutcome.ofJson ∧
    RoundTrips whole Selector.toJson Selector.ofJson ∧
    RoundTrips PodRef.outline PodRef.toJson PodRef.ofJson ∧
    RoundTrips RestartReport.outline RestartReport.toJson RestartReport.ofJson
      (fun report => report.listed < UInt64.size ∧ report.terminated < UInt64.size) := by
  -- All values fit, except reports whose counts exceed a machine word.
  have always {α : Type} {outline : Outline} {encode : α → Json} {decode : Decoder α}
      (restores : ∀ value, decode.Restores outline (encode value) value) : RoundTrips outline encode decode :=
    .of_restores fun value _ => restores value
  exact ⟨always ClusterSpec.restores, always ExternalStorage.restores, always ManagedResources.restores,
    always NonResilientPools.restores, always NetworkPolicy.restores, always Connections.restores,
    always FeatureToggle.restores, always ClusterStatus.restores, always CsiValues.restores,
    always MountMode.restores, always ResourceKey.restores, always Owner.restores, always OwnerRef.restores,
    always ConfigMap.restores, always WriteOutcome.restores, always Selector.restores, always PodRef.restores,
    .of_restores fun report fit => report.restores fit.1 fit.2⟩

/-- Records are read as arrays beside objects, at any depth. -/
example :
    ConfigMap.ofJson (.arr [.obj [("namespace", .str "n"), ("name", .str "a")], .obj [("k", .str "v")],
      .arr [.arr [.arr [.str "v1", .str "Pod", .str "p", .str "1"], .null, .bool true],
        .obj [("owner", .arr [.str "v1", .str "Pod", .str "q", .str "2"])]], .null]) =
      .ok ⟨⟨"a", "n"⟩, (∅ : TextMap).insert "k" "v",
        [⟨⟨"v1", "Pod", "p", "1"⟩, none, some true⟩, ⟨⟨"v1", "Pod", "q", "2"⟩, none, none⟩], none⟩ := by
  rfl

end StorageConfig
