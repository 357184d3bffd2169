import StorageConfig.Proofs.Derivation
import StorageConfig.Proofs.Pass

/-! What a pass that succeeded leaves behind: the settings, everything else as it was, and the cluster in control. -/

namespace StorageConfig

/-- What a pass has left under its target, from what the world held before; a missing config map counts as fresh. -/
structure PassEffect (target : ResourceKey) (cluster : StorageCluster) (uid : String) (before after : MemoryWorld)
    (outcome : PassOutcome) (stored : ConfigMap) : Prop where
  found : after.store.objects target = some stored
  key : stored.key = target
  /-- Every managed key has the value that the rules give. -/
  governs : cluster.Governs before.identity stored.data
  /-- Every other key has its old value, or still none. -/
  foreign : ∀ key, key ∉ CsiValues.managedKeys →
    stored.data.get? key = ((before.store.objects target).getD (.fresh target)).data.get? key
  /-- The cluster, by the uid that it has now, has taken the config map over. -/
  owners : ∃ place, TakenOver ⟨StorageCluster.apiVersion, StorageCluster.kind, cluster.displayName, uid⟩
    ((before.store.objects target).getD (.fresh target)).ownerRefs stored.ownerRefs place
  /-- The pass tells of a change exactly where data or references differ from what was stored, if anything was. -/
  changed : outcome.changed = true ↔ ¬ ∃ current, before.store.objects target = some current ∧
    current.data = stored.data ∧ current.ownerRefs = stored.ownerRefs
  /-- Without a change the world is left exactly as it was. -/
  unchanged : outcome.changed = false → after = before
  /-- A change is one write, under the next version. -/
  written : outcome.changed = true →
    stored.version = some before.store.nextVersion ∧ after.store.writes = before.store.writes + 1
  others : ∀ key, key ≠ target → after.store.objects key = before.store.objects key

/--
A pass that succeeds leaves a config map that is as the rules say.

It keeps every foreign key and every reference, and tells of a change exactly where there is one.
-/
theorem pass_leaves_effect {settings : Settings} {cluster : StorageCluster} {before after : MemoryWorld}
    {outcome : PassOutcome} (alone : before.queued = [])
    (ok : (runPass MemoryWorld.collaborators settings cluster).run before = (.ok outcome, after)) :
    ∃ uid stored, cluster.metadata.uid = some uid ∧
      PassEffect (settings.targetOf cluster) cluster uid before after outcome stored := by
  obtain ⟨owner, plan, owned, -, done⟩ := MemoryWorld.runPass_ok alone ok
  obtain ⟨uid, given, named⟩ := StorageCluster.eq_of_owner_ok owned
  -- What is stored in the end is what the old config map, or a fresh one, was merged into.
  obtain ⟨version, found, next⟩ := done.objects_target rfl
  have at_key := WritePlan.key_of_merges done.merges
  refine ⟨uid, _, given, ⟨found, at_key, ?governs, ?foreign, ?owners, ?changed, ?unchanged, ?written, ?others⟩⟩
  -- Settings and references are those of the merge, which the version has no part in.
  case governs =>
    rw [ConfigMap.data_atVersion]
    exact cluster.governs_merged before.identity owner _
  case foreign =>
    intro key outside
    rw [ConfigMap.data_atVersion]
    exact CsiValues.get?_merged_of_not_mem _ owner _ outside
  case owners =>
    rw [ConfigMap.ownerRefs_atVersion, CsiValues.ownerRefs_merged, ← named]
    exact ⟨_, takenOver_claimControl owner _⟩
  case changed =>
    rw [ConfigMap.data_atVersion, ConfigMap.ownerRefs_atVersion]
    exact done.changed_iff.trans (WritePlan.ne_keep_iff done.merges)
  -- What the plan does to the store tells the rest.
  case unchanged => exact done.after_eq_of_unchanged
  case written => exact fun changed => ⟨next (done.changed_iff.1 changed), done.writes_of_changed changed⟩
  case others => exact fun key other => done.objects_of_ne other

/-- A world whose config map an initializer controls, beside an older reference to the cluster and another one. -/
def initializedWorld : MemoryWorld :=
  { MemoryWorld.empty none with
    store := MemoryStore.empty.insert
      { key := ⟨"ocs-operator-config", "openshift-storage"⟩
        data := (∅ : TextMap).insert "NOTE" "mine"
        ownerRefs :=
          [⟨⟨"ocs.openshift.io/v1", "OCSInitialization", "init", "0"⟩, some true, some true⟩,
            ⟨⟨"ocs.openshift.io/v1alpha1", "StorageCluster", "a", "1"⟩, none, none⟩,
            ⟨⟨"ocs.openshift.io/v1", "StorageCluster", "a", "2"⟩, none, none⟩]
        version := none } }

/-- The first reference to the cluster takes control from the initializer, and a missing identity reads as empty. -/
theorem pass_leaves_effect_initialized :
    initializedWorld.queued = [] ∧
    ∃ outcome after stored,
      (runPass MemoryWorld.collaborators .standard { metadata := { name := some "a", uid := some "3" } }).run
        initializedWorld = (.ok outcome, after) ∧ outcome.changed = true ∧
      after.store.objects ⟨"ocs-operator-config", "openshift-storage"⟩ = some stored ∧
      stored.data.get? "NOTE" = some "mine" ∧ stored.data.get? "CSI_CLUSTER_NAME" = some "" ∧
      stored.ownerRefs[0]? = some ⟨⟨"ocs.openshift.io/v1", "OCSInitialization", "init", "0"⟩, none, none⟩ ∧
      stored.ownerRefs[1]? = some ⟨⟨"ocs.openshift.io/v1", "StorageCluster", "a", "3"⟩, some true, some true⟩ := by
  have alone : initializedWorld.queued = [] := rfl
  obtain ⟨outcome, after, ok, changed⟩ : ∃ outcome after,
      (runPass MemoryWorld.collaborators .standard { metadata := { name := some "a", uid := some "3" } }).run
        initializedWorld = (.ok outcome, after) ∧ outcome.changed = true := ⟨_, _, rfl, rfl⟩
  obtain ⟨uid, stored, given, effect⟩ := pass_leaves_effect alone ok
  obtain rfl : "3" = uid := Option.some.inj given
  obtain ⟨place, taken⟩ := effect.owners
  -- The claimed place is that of the first of the two references to the cluster.
  have one : place = 1 := by
    rcases Nat.lt_trichotomy place 1 with before | same | behind
    · obtain rfl : place = 0 := by omega
      rcases taken.own with none_left | ⟨ref, found, kind, -⟩
      · cases none_left
      · obtain rfl := Option.some.inj found
        exact absurd kind (by decide)
    · exact same
    · exact absurd ⟨rfl, rfl⟩ (taken.first 1 _ behind rfl)
  subst one
  exact ⟨alone, outcome, after, stored, ok, changed, effect.found, effect.foreign "NOTE" (by decide),
    effect.governs.clusterName, taken.released 0 _ (by decide) rfl rfl (by decide), taken.claimed⟩

end StorageConfig
