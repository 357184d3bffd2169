import StorageConfig.Pass
import StorageConfig.Proofs.Merge

/-! What the rules say that the managed keys of a cluster hold, told apart from how it is derived. -/

namespace StorageConfig

namespace ClusterSpec

/-- The network policy has connections with a property. -/
def Connected (spec : ClusterSpec) (property : Connections → Prop) : Prop :=
  ∃ policy connections, spec.network = some policy ∧ policy.connections = some connections ∧ property connections

/-- Encryption is asked for. -/
def Encrypts (spec : ClusterSpec) : Prop :=
  spec.Connected fun connections => ∃ toggle, connections.encryption = some toggle ∧ toggle.enabled = true

/-- Compression or the second protocol version is asked for. -/
def NeedsSecondVersion (spec : ClusterSpec) : Prop :=
  spec.Connected fun connections =>
    (∃ toggle, connections.compression = some toggle ∧ toggle.enabled = true) ∨ connections.requireMsgr2 = true

/-- Storage is used from elsewhere or offered to others. -/
def ReachesOut (spec : ClusterSpec) : Prop :=
  spec.externalStorage.enable = true ∨ spec.allowRemoteStorageConsumers = true

/-- The mount option of a spec, by the first rule that applies. -/
inductive MountRule (spec : ClusterSpec) : String → Prop
  | encrypted (encrypts : spec.Encrypts) : MountRule spec "ms_mode=secure"
  | secondVersion (plain : ¬ spec.Encrypts) (needs : spec.NeedsSecondVersion) : MountRule spec "ms_mode=prefer-crc"
  | outside (plain : ¬ spec.Encrypts) (free : ¬ spec.NeedsSecondVersion) (reaches : spec.ReachesOut) :
    MountRule spec "ms_mode=legacy"
  | inside (plain : ¬ spec.Encrypts) (free : ¬ spec.NeedsSecondVersion) (stays : ¬ spec.ReachesOut) :
    MountRule spec "ms_mode=prefer-crc"

/-- Looking at the connections is looking at those of the network policy. -/
theorem connected_iff (spec : ClusterSpec) (property : Connections → Prop) :
    spec.Connected property ↔ ∃ connections, spec.connections? = some connections ∧ property connections := by
  -- Both sides look through the same two optional layers.
  constructor
  · rintro ⟨policy, connections, known, wired, holds⟩
    exact ⟨connections, by rw [connections?, known]; exact wired, holds⟩
  · rintro ⟨connections, found, holds⟩
    obtain ⟨policy, known, wired⟩ := Option.bind_eq_some_iff.1 found
    exact ⟨policy, connections, known, wired, holds⟩

/-- Encryption is what the first rule looks at. -/
theorem encrypts_iff (spec : ClusterSpec) :
    spec.Encrypts ↔ spec.connections?.any Connections.isEncrypted = true := by
  rw [Encrypts, connected_iff]
  -- Without connections, or without the toggle, neither side holds.
  cases spec.connections? with
  | none => simp
  | some connections => cases encryption : connections.encryption <;> simp [Connections.isEncrypted, encryption]

/-- The need for the second protocol version is what the second rule looks at. -/
theorem needsSecondVersion_iff (spec : ClusterSpec) :
    spec.NeedsSecondVersion ↔
      (spec.connections?.any fun connections => connections.isCompressed || connections.requireMsgr2) = true := by
  rw [NeedsSecondVersion, connected_iff]
  -- Without connections neither side holds, and without the toggle only the version counts.
  cases spec.connections? with
  | none => simp
  | some connections => cases compression : connections.compression <;> simp [Connections.isCompressed, compression]

/-- The derived mount option is that of the first rule that applies. -/
theorem mountRule_ofSpec (spec : ClusterSpec) : spec.MountRule (MountMode.ofSpec spec).render := by
  -- The rules are tried in the order in which they are listed.
  unfold MountMode.ofSpec
  split
  · -- Encryption comes before everything else.
    rename_i first
    exact .encrypted (spec.encrypts_iff.2 first)
  · rename_i first
    have plain : ¬ spec.Encrypts := fun encrypts => first (spec.encrypts_iff.1 encrypts)
    -- What the network policy asks for comes before the way of deployment.
    split
    · rename_i second
      exact .secondVersion plain (spec.needsSecondVersion_iff.2 second)
    · rename_i second
      have free : ¬ spec.NeedsSecondVersion := fun needs => second (spec.needsSecondVersion_iff.1 needs)
      split
      · rename_i third
        exact .outside plain free (by simpa [ReachesOut] using third)
      · rename_i third
        exact .inside plain free (by simpa [ReachesOut] using third)

end ClusterSpec

/-- The managed keys of a config map hold what the rules say for a cluster and an identity. -/
structure StorageCluster.Governs (cluster : StorageCluster) (identity : Option String) (data : TextMap) : Prop where
  /-- An identity that cannot be read counts as empty. -/
  clusterName : data.get? "CSI_CLUSTER_NAME" = some (identity.getD "")
  /-- Reads go to the nearest copy unless the storage is elsewhere. -/
  readAffinity : data.get? "CSI_ENABLE_READ_AFFINITY" =
    some (if cluster.spec.externalStorage.enable then "false" else "true")
  mountOption : ∃ option, cluster.spec.MountRule option ∧
    data.get? "CSI_CEPHFS_KERNEL_MOUNT_OPTIONS" = some option
  /-- The topology matters where pools without replicas run. -/
  topology : data.get? "CSI_ENABLE_TOPOLOGY" =
    some (if cluster.spec.managedResources.cephNonResilientPools.enable then "true" else "false")
  topologyLabels : data.get? "CSI_TOPOLOGY_DOMAIN_LABELS" = some cluster.topologyLabel

/-- Whatever a cluster's settings are merged into is as the rules say. -/
theorem StorageCluster.governs_merged (cluster : StorageCluster) (identity : Option String) (owner : Owner)
    (resource : ConfigMap) :
    cluster.Governs identity
      ((CsiValues.derive cluster.spec (identity.getD "") cluster.topologyLabel).merged owner resource).data := by
  have set (entry : String × String) (member : entry ∈ (CsiValues.derive cluster.spec (identity.getD "")
      cluster.topologyLabel).entries) := CsiValues.get?_merged_of_mem _ owner resource member
  -- The settings are five entries, each for one of the rules.
  simp only [CsiValues.entries, List.mem_cons, List.not_mem_nil, or_false, forall_eq_or_imp, forall_eq] at set
  obtain ⟨name, affinity, mount, topology, label⟩ := set
  refine ⟨name, affinity.trans ?_, ⟨_, cluster.spec.mountRule_ofSpec, mount⟩, topology, label⟩
  -- The flag is written as a text, and the rule states it the other way round.
  rw [CsiValues.derive]
  cases cluster.spec.externalStorage.enable <;> rfl

end StorageConfig
