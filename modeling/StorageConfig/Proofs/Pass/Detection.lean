import StorageConfig.Proofs.Concurrency.Passes
import StorageConfig.Proofs.Pass.Atomicity

/-! Two passes after each other: the second finds a change exactly where its settings or its uid differ. -/

namespace StorageConfig

namespace MemoryWorld

/-- Nobody is waiting to store anything under a key. -/
def Undisturbed (world : MemoryWorld) (key : ResourceKey) : Prop :=
  ∀ resource ∈ world.queued, resource.key ≠ key

/-- Serving those who wait leaves a key alone that none of them is after. -/
theorem Undisturbed.objects_served {world : MemoryWorld} {key : ResourceKey} (undisturbed : world.Undisturbed key) :
    world.served.store.objects key = world.store.objects key := by
  apply world.grows_served.objects_eq
  intro member
  obtain ⟨resource, waiting, same⟩ := List.mem_map.1 member
  exact undisturbed resource waiting same

end MemoryWorld

/-- The settings that a pass derives where the cluster identity is known, or not. -/
def PassCall.derived (call : PassCall) (identity : Option String) : CsiValues :=
  .derive call.cluster.spec (identity.getD "") call.cluster.topologyLabel

/-- A pass has written once, under its target, and has restarted the pods that depend on it. -/
structure PassCall.Reconfigures (call : PassCall) (before : MemoryWorld) (outcome : PassOutcome) (after : MemoryWorld) :
    Prop where
  counted : after.store.writes = before.store.writes + 1
  /-- Those who waited to write had done so once the pass had read. -/
  written : ∃ resource, resource.key = call.target ∧ after.store = before.served.store.write resource
  report : outcome.restart = some (before.pods.restartReport call.target.namespaceName call.settings.dependents)
  pods : after.pods = before.pods.culled (before.pods.doomed call.target.namespaceName call.settings.dependents)

/-- A pass that tells of a change has made it. -/
theorem PassCall.reconfigures_of_changed {call : PassCall} {before after : MemoryWorld} {outcome : PassOutcome}
    (ran : (runPass MemoryWorld.collaborators call.settings call.cluster).run before = (.ok outcome, after))
    (changed : outcome.changed = true) : call.Reconfigures before outcome after := by
  obtain ⟨owner, plan, -, -, done⟩ := MemoryWorld.runPass_ok_served ran
  obtain ⟨report, pods⟩ := MemoryWorld.runPass_ok_pods ran
  rw [if_pos changed] at report pods
  -- Only the one write of the pass is counted, as those who waited do not write on its behalf.
  have counted := done.writes_of_changed changed
  rw [MemoryWorld.writes_served] at counted
  have store := congrArg MemoryWorld.store done.after_eq
  rw [WritePlan.applied_of_merges done.merges (done.changed_iff.1 changed)] at store
  exact ⟨counted, ⟨_, WritePlan.key_of_merges done.merges, store⟩, report, pods⟩

/-- Clusters of one name are one owner exactly if they have one uid. -/
theorem StorageCluster.owner_eq_iff {left right : StorageCluster} {earlier later : Owner}
    (leftOwned : left.owner = .ok earlier) (rightOwned : right.owner = .ok later)
    (named : left.displayName = right.displayName) :
    earlier.identity = later.identity ∧ (earlier = later ↔ left.metadata.uid = right.metadata.uid) := by
  -- All that an owner has from its cluster is the name and the uid.
  obtain ⟨former, given, rfl⟩ := eq_of_owner_ok leftOwned
  obtain ⟨latter, given', rfl⟩ := eq_of_owner_ok rightOwned
  constructor
  · simp [Owner.identity, Owner.groupKind, named]
  · simp [given, given', named]

namespace WritePlan

/-- What a namesake has brought in line is written again exactly if the settings or the owner differ. -/
theorem ne_keep_iff_of_namesake {before after : CsiValues} {earlier later : Owner} {key : ResourceKey}
    {resource : ConfigMap} {version : Option String} {plan : WritePlan}
    (same : earlier.identity = later.identity)
    (merges : Merges after later key (some ((before.merged earlier resource).atVersion version)) plan) :
    plan ≠ .keep ↔ after ≠ before ∨ later ≠ earlier := by
  -- The plan writes where the later merge makes a difference to the earlier one.
  have differs : plan ≠ .keep ↔ after.merged later resource ≠ before.merged earlier resource := by
    rw [← CsiValues.merged_merged_of_namesake same before after resource]
    cases merges with
    | replace _ _ differs =>
      rw [ne_eq, CsiValues.merged_atVersion_eq_iff] at differs
      exact iff_of_true nofun differs
    | keep _ _ equal =>
      rw [CsiValues.merged_atVersion_eq_iff] at equal
      exact iff_of_false (fun writes => writes rfl) (fun differs => differs equal)
  rw [differs, ne_eq, CsiValues.merged_inj same.symm, Decidable.not_and_iff_or_not]

end WritePlan

/--
The second of two passes for one owner's name finds a change exactly where settings or uids differ.

It writes and restarts then, and leaves everything as it is otherwise, whatever the first one found and
whatever else went on in the meantime.
-/
theorem second_pass_detects_change {first second : PassCall} {start middle between final : MemoryWorld}
    {former latter : PassOutcome}
    (target : second.target = first.target)
    (named : second.cluster.displayName = first.cluster.displayName)
    (undisturbed : start.Undisturbed first.target)
    (ran : (runPass MemoryWorld.collaborators first.settings first.cluster).run start = (.ok former, middle))
    (kept : between.store.objects first.target = middle.store.objects first.target)
    (reran : (runPass MemoryWorld.collaborators second.settings second.cluster).run between = (.ok latter, final)) :
    (latter.changed = true ↔ second.derived between.identity ≠ first.derived start.identity ∨
      second.cluster.metadata.uid ≠ first.cluster.metadata.uid) ∧
    (latter.changed = true → second.Reconfigures between latter final) ∧
    (latter.changed = false → final = between.served ∧ latter.restart = none) := by
  obtain ⟨earlier, plan, owned, -, done⟩ := MemoryWorld.runPass_ok_served ran
  obtain ⟨later, again, reowned, -, redone⟩ := MemoryWorld.runPass_ok_served reran
  obtain ⟨same, owner_eq⟩ := StorageCluster.owner_eq_iff reowned owned named
  refine ⟨?detects, PassCall.reconfigures_of_changed reran, ?keeps⟩
  case detects =>
    -- The second pass reads what the first one left, the merge of whatever was there before.
    obtain ⟨version, left, -⟩ := done.objects_target undisturbed.objects_served
    have merges := redone.merges
    have read : (between.passReading second.settings second.cluster later).stored = _ :=
      (congrArg between.store.objects target).trans (kept.trans left)
    rw [read] at merges
    rw [redone.changed_iff, WritePlan.ne_keep_iff_of_namesake same.symm merges, Ne, Ne, owner_eq]
    rfl
  case keeps =>
    intro unchanged
    have idle := redone.restart
    rw [← redone.changed, unchanged, Option.isSome_eq_false_iff, Option.isNone_iff_eq_none] at idle
    exact ⟨redone.after_eq_of_unchanged unchanged, idle⟩

/-- A pass for a cluster of the given uid and status. -/
def zonedCall (uid : String) (status : ClusterStatus) : PassCall :=
  ⟨.standard, { metadata := { name := some "a", uid := some uid }, status := some status }⟩

/-- A cluster whose failure domain is given by its name. -/
def namedZone : PassCall := zonedCall "1" { failureDomain := some "zone" }

/-- A cluster of the given uid whose failure domain is given by its label. -/
def labelledZone (uid : String) : PassCall :=
  zonedCall uid { failureDomainKey := some "topology.kubernetes.io/zone" }

/-- A pod of the operator comes up. -/
def podUp (name : String) : MemoryWorld.Event :=
  .addPod ⟨"openshift-storage", name⟩ ((∅ : TextMap).insert "app" "rook-ceph-operator")

/-- A world with a pod whose config map is another's, and in which someone waits to store something else. -/
def bystanderWorld : MemoryWorld :=
  { (podUp "rook-1").apply (.empty (some "cluster-1")) with
    store := MemoryStore.empty.insert
      { key := ⟨"ocs-operator-config", "openshift-storage"⟩
        data := (∅ : TextMap).insert "CSI_CLUSTER_NAME" "other"
        ownerRefs := [⟨⟨"ocs.openshift.io/v1", "OCSInitialization", "init", "0"⟩, some true, some true⟩]
        version := none }
    queued := [.fresh ⟨"another-config", "openshift-storage"⟩] }

/--
A domain given by its label instead of its name makes no change, and a cluster made anew under its name does.

The change also restarts the pod that has come up in place of the one which the first pass terminated.
-/
theorem second_pass_detects_change_zoned :
    bystanderWorld.Undisturbed namedZone.target ∧
    ∃ former middle,
      (runPass MemoryWorld.collaborators namedZone.settings namedZone.cluster).run bystanderWorld =
        (.ok former, middle) ∧ former.changed = true ∧
      (∃ latter final,
        (runPass MemoryWorld.collaborators (labelledZone "1").settings (labelledZone "1").cluster).run
            ((podUp "rook-2").apply middle) = (.ok latter, final) ∧
        latter.changed = false ∧ final = ((podUp "rook-2").apply middle).served ∧ latter.restart = none) ∧
      ∃ latter final,
        (runPass MemoryWorld.collaborators (labelledZone "2").settings (labelledZone "2").cluster).run
            ((podUp "rook-2").apply middle) = (.ok latter, final) ∧
        latter.changed = true ∧ final.store.writes = middle.store.writes + 1 ∧
        latter.restart = some ⟨1, 1, false⟩ ∧ final.pods.running = [] ∧
        final.pods.terminated = [⟨"openshift-storage", "rook-1"⟩, ⟨"openshift-storage", "rook-2"⟩] := by
  obtain ⟨former, middle, latter, settled, renewed, final, ran, changed, known, pods, again, anew⟩ :
      ∃ former middle latter settled renewed final,
        (runPass MemoryWorld.collaborators namedZone.settings namedZone.cluster).run bystanderWorld =
          (.ok former, middle) ∧ former.changed = true ∧ middle.identity = some "cluster-1" ∧
        middle.pods = ⟨[], [⟨"openshift-storage", "rook-1"⟩], false, none⟩ ∧
        (runPass MemoryWorld.collaborators (labelledZone "1").settings (labelledZone "1").cluster).run
          ((podUp "rook-2").apply middle) = (.ok latter, settled) ∧
        (runPass MemoryWorld.collaborators (labelledZone "2").settings (labelledZone "2").cluster).run
          ((podUp "rook-2").apply middle) = (.ok renewed, final) := ⟨_, _, _, _, _, _, rfl, rfl, rfl, rfl, rfl, rfl⟩
  -- The one who waits is after another config map.
  have undisturbed : bystanderWorld.Undisturbed namedZone.target := by
    intro resource waiting
    obtain rfl := List.mem_singleton.1 waiting
    decide
  have target (uid : String) : (labelledZone uid).target = namedZone.target := rfl
  have named (uid : String) : (labelledZone uid).cluster.displayName = namedZone.cluster.displayName := rfl
  have kept : ((podUp "rook-2").apply middle).store.objects namedZone.target =
      middle.store.objects namedZone.target := rfl
  obtain ⟨detects, -, keeps⟩ := second_pass_detects_change (target "1") (named "1") undisturbed ran kept again
  obtain ⟨redetects, rewrites, -⟩ := second_pass_detects_change (target "2") (named "2") undisturbed ran kept anew
  have still : ((podUp "rook-2").apply middle).identity = some "cluster-1" := known
  -- Name and label of the zone give the same settings, so that only the uid can tell the passes apart.
  have same : latter.changed = false := by
    rw [Bool.eq_false_iff, Ne, detects, still]
    decide
  have other : renewed.changed = true := redetects.2 (.inr (by decide))
  obtain ⟨counted, -, report, culled⟩ := rewrites other
  -- The one pod that runs by then is listed and terminated.
  have before : ((podUp "rook-2").apply middle).pods =
      (⟨[], [⟨"openshift-storage", "rook-1"⟩], false, none⟩ : MemoryPods).add ⟨"openshift-storage", "rook-2"⟩
        ((∅ : TextMap).insert "app" "rook-ceph-operator") := by
    rw [← pods]
    rfl
  rw [before] at report culled
  exact ⟨undisturbed, former, middle, ran, changed, ⟨latter, settled, again, same, keeps same⟩,
    renewed, final, anew, other, counted, report, by rw [culled]; rfl, by rw [culled]; rfl⟩

end StorageConfig
