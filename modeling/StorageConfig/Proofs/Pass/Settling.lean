import StorageConfig.Proofs.Memory.Event
import StorageConfig.Proofs.Pass

/-! After a pass that succeeded, no further one finds anything to do, whatever else happens in between. -/

namespace StorageConfig

namespace MemoryWorld

/-- An event leaves a key, its readings and the cluster identity alone. -/
def Event.Spares (target : ResourceKey) : Event → Prop
  | insert resource => resource.key ≠ target
  | failGet _ | setIdentity _ => False
  -- Writes, listings and terminations may be made to fail, and pods may come up.
  | failWrites _ | addPod _ _ | failList _ | limitTerminations _ => True

/-- What a world comes to by further passes for one cluster, and by events that spare its config map. -/
inductive Later (settings : Settings) (cluster : StorageCluster) (world : MemoryWorld) : MemoryWorld → Prop
  | here : Later settings cluster world world
  | event {later : MemoryWorld} (event : Event) (spares : event.Spares (settings.targetOf cluster)) :
    Later settings cluster world later → Later settings cluster world (event.apply later)
  | pass {later : MemoryWorld} :
    Later settings cluster world later →
      Later settings cluster world ((runPass collaborators settings cluster).run later).2

/-- A pass for a cluster finds its config map as it should be, and nothing in the way of reading it. -/
structure Settled (settings : Settings) (cluster : StorageCluster) (values : CsiValues) (world : MemoryWorld) :
    Prop where
  alone : world.queued = []
  readable : world.getFault = none
  derives : CsiValues.derive cluster.spec (world.identity.getD "") cluster.topologyLabel = values
  /-- The stored config map is free of rivals and is its own merge. -/
  stored : ∃ owner existing, cluster.owner = .ok owner ∧
    world.store.objects (settings.targetOf cluster) = some existing ∧ existing.key = settings.targetOf cluster ∧
    (∀ name, holderOf owner.groupKind existing.ownerRefs = some name → name = owner.name) ∧
    values.merged owner existing = existing

variable {settings : Settings} {cluster : StorageCluster} {values : CsiValues} {world : MemoryWorld}

/-- A pass changes nothing in a world that is settled for it. -/
theorem Settled.run_runPass (settled : Settled settings cluster values world) :
    (runPass collaborators settings cluster).run world = (.ok ⟨values, false, none⟩, world) := by
  obtain ⟨owner, existing, owned, found, at_key, free, same⟩ := settled.stored
  have derives := settled.derives
  -- The settings are derived as before, and merging them makes no difference.
  have made : WritePlan.make (settings.targetOf cluster)
      ((world.passReading settings cluster owner).values.mergeInto owner)
      (world.passReading settings cluster owner).stored = .ok .keep := by
    simp only [passReading]
    rw [derives, found, WritePlan.make_mergeInto_some at_key free, if_pos same]
  rw [run_runPass_of_readable settled.alone owned settled.readable, run_finishPass_of_keep made]
  simp only [passReading]
  rw [derives]

/-- A world stays settled through an event that spares the config map. -/
theorem Settled.apply (settled : Settled settings cluster values world) {event : Event}
    (spares : event.Spares (settings.targetOf cluster)) : Settled settings cluster values (event.apply world) := by
  -- No such event touches the queue, the readings, the identity or the key.
  have outside : settings.targetOf cluster ∉ event.inserted.toList := by
    cases event with
    | insert resource =>
      have apart : resource.key ≠ settings.targetOf cluster := spares
      simpa [Event.inserted] using Ne.symm apart
    | _ => simp [Event.inserted]
  obtain ⟨owner, existing, owned, found, rest⟩ := settled.stored
  have kept := (event.stepsTo_apply world).objects_eq outside
  refine ⟨(event.queued_apply world).trans settled.alone, ?_, ?_, owner, existing, owned, kept.trans found, rest⟩
  · -- Readings would fail by an event that is ruled out.
    cases event with
    | failGet => exact absurd spares id
    | _ => exact settled.readable
  · -- The identity would change by another one that is ruled out.
    cases event with
    | setIdentity => exact absurd spares id
    | _ => exact settled.derives

/-- A pass that succeeds leaves its world settled. -/
theorem settled_of_runPass_ok {outcome : PassOutcome} {after : MemoryWorld} (alone : world.queued = [])
    (ok : (runPass collaborators settings cluster).run world = (.ok outcome, after)) :
    Settled settings cluster outcome.values after := by
  obtain ⟨owner, plan, owned, readable, done⟩ := runPass_ok alone ok
  obtain ⟨version, found, -⟩ := done.objects_target rfl
  have values : outcome.values = (world.passReading settings cluster owner).values := done.values
  -- What is stored is a merge, which the owner holds and which is its own merge.
  have holder := WritePlan.holderIn_applied done.merges
  have left : after.store = plan.applied world.store := by rw [done.after_eq]
  rw [← left, found] at holder
  have at_key := WritePlan.key_of_merges done.merges
  refine ⟨?_, ?_, ?_, owner, _, owned, found, at_key, ?_, ?_⟩
  · rw [done.after_eq]
    exact alone
  · rw [done.after_eq]
    exact readable
  · rw [values, done.after_eq]
    rfl
  · intro name held
    exact Option.some.inj (held.symm.trans holder)
  · rw [values, CsiValues.merged_atVersion]
    exact congrArg (ConfigMap.atVersion · version) (CsiValues.merged_merged _ owner _)

end MemoryWorld

/--
A pass that succeeds leaves nothing to do for any further pass.

This holds for every state that the config map was in before, and whatever pods come up or failures are
switched on meanwhile.
-/
theorem pass_settles {settings : Settings} {cluster : StorageCluster} {before after : MemoryWorld}
    {outcome : PassOutcome} (alone : before.queued = [])
    (ok : (runPass MemoryWorld.collaborators settings cluster).run before = (.ok outcome, after)) :
    ∀ later, MemoryWorld.Later settings cluster after later →
      (runPass MemoryWorld.collaborators settings cluster).run later =
        (.ok ⟨outcome.values, false, none⟩, later) := by
  intro later reached
  have settled : MemoryWorld.Settled settings cluster outcome.values later := by
    -- The first pass settles the world, and nothing that follows unsettles it.
    induction reached with
    | here => exact MemoryWorld.settled_of_runPass_ok alone ok
    | event event spares _ ih => exact ih.apply spares
    | pass _ ih =>
      rw [ih.run_runPass]
      exact ih
  exact settled.run_runPass

/-- A world whose config map has several references to one cluster, of which two are marked, and another controller. -/
def crowdedWorld : MemoryWorld :=
  { MemoryWorld.empty (some "cluster-1") with
    store := MemoryStore.empty.insert
      { key := ⟨"ocs-operator-config", "openshift-storage"⟩
        data := ∅
        ownerRefs :=
          [⟨⟨"ocs.openshift.io/v1", "OCSInitialization", "init", "0"⟩, some true, some true⟩,
            ⟨⟨"ocs.openshift.io/v1", "StorageCluster", "a", "1"⟩, none, none⟩,
            ⟨⟨"ocs.openshift.io/v1", "StorageCluster", "a", "2"⟩, some true, none⟩,
            ⟨⟨"ocs.openshift.io/v1", "StorageCluster", "a", "3"⟩, some true, some true⟩]
        version := none } }

/-- Even with crowded references one pass is enough, and the next one restarts no pod that came up since. -/
theorem pass_settles_crowded :
    crowdedWorld.queued = [] ∧
    ∃ outcome after later,
      (runPass MemoryWorld.collaborators .standard { metadata := { name := some "a", uid := some "4" } }).run
        crowdedWorld = (.ok outcome, after) ∧ outcome.changed = true ∧
      later = { after with
        store := { after.store with failsWrites := true }
        pods := after.pods.add ⟨"openshift-storage", "rook"⟩ ((∅ : TextMap).insert "app" "rook-ceph-operator") } ∧
      (runPass MemoryWorld.collaborators .standard { metadata := { name := some "a", uid := some "4" } }).run later =
        (.ok ⟨outcome.values, false, none⟩, later) := by
  obtain ⟨outcome, after, ok, changed⟩ : ∃ outcome after,
      (runPass MemoryWorld.collaborators .standard { metadata := { name := some "a", uid := some "4" } }).run
        crowdedWorld = (.ok outcome, after) ∧ outcome.changed = true := ⟨_, _, rfl, rfl⟩
  -- The pod comes up first, and then writes are made to fail.
  have reached : MemoryWorld.Later .standard { metadata := { name := some "a", uid := some "4" } } after _ :=
    .event (.failWrites true) trivial (.event
      (.addPod ⟨"openshift-storage", "rook"⟩ ((∅ : TextMap).insert "app" "rook-ceph-operator"))
      trivial .here)
  exact ⟨rfl, outcome, after, _, ok, changed, rfl, pass_settles rfl ok _ reached⟩

end StorageConfig
