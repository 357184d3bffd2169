import StorageConfig.Pass
import StorageConfig.Proofs.Memory.World

/-! A pass in two steps: what it reads, and what it does with what it has read. -/

namespace StorageConfig

/-- A cluster that can be an owner has a uid, and is one under its own name. -/
theorem StorageCluster.eq_of_owner_ok {cluster : StorageCluster} {owner : Owner} (owned : cluster.owner = .ok owner) :
    ∃ uid, cluster.metadata.uid = some uid ∧ owner = ⟨apiVersion, kind, cluster.displayName, uid⟩ := by
  -- Without a uid there is no owner.
  unfold StorageCluster.owner at owned
  split at owned
  · rename_i uid given
    exact ⟨uid, given, (Except.ok.inj owned).symm⟩
  · cases owned

/-- What a pass has in hand once it has read the config map. -/
structure PassReading where
  owner : Owner
  values : CsiValues
  stored : Option ConfigMap

/-- The first step of a pass: who owns, what is derived, and what is stored. -/
def readForPass {σ : Type} (world : Collaborators σ) (settings : Settings) (cluster : StorageCluster) :
    Action σ PassReading := do
  let owner ← Action.ofExcept cluster.owner
  let identity ← resolveIdentity world settings.identitySingleton
  let stored ← world.get (settings.targetOf cluster)
  pure ⟨owner, .derive cluster.spec identity cluster.topologyLabel, stored⟩

/-- The second step of a pass: write the config map, and restart what depends on it if it was written. -/
def finishPass {σ : Type} (world : Collaborators σ) (settings : Settings) (cluster : StorageCluster)
    (reading : PassReading) : Action σ PassOutcome := do
  let outcome ← writeBack world (settings.targetOf cluster) (reading.values.mergeInto reading.owner) reading.stored
  if outcome.isChange then
    let report ← restartDependents world (settings.targetOf cluster).namespaceName settings.dependents
    pure ⟨reading.values, true, some report⟩
  else pure ⟨reading.values, false, none⟩

/-- A pass is its two steps, one after the other. -/
theorem runPass_eq {σ : Type} (world : Collaborators σ) (settings : Settings) (cluster : StorageCluster) :
    runPass world settings cluster =
      readForPass world settings cluster >>= finishPass world settings cluster := by
  -- Only the grouping differs, once the create-or-update is split after its reading.
  simp only [runPass, readForPass, finishPass, converge, createOrUpdate_eq, Action.bind_assoc,
    Action.pure_bind]

namespace MemoryWorld

/-- What a pass for a cluster with the given owner reads in a world. -/
def passReading (world : MemoryWorld) (settings : Settings) (cluster : StorageCluster) (owner : Owner) :
    PassReading :=
  ⟨owner, .derive cluster.spec (world.identity.getD "") cluster.topologyLabel,
    world.store.objects (settings.targetOf cluster)⟩

/-- The first step of a pass fails without an owner or on a failed reading, and changes nothing. -/
theorem run_readForPass {world : MemoryWorld} (alone : world.queued = []) (settings : Settings)
    (cluster : StorageCluster) :
    (readForPass collaborators settings cluster).run world =
      (match cluster.owner, world.getFault with
        | .error failure, _ => .error failure
        | .ok _, some text => .error (.internal text)
        | .ok owner, none => .ok (world.passReading settings cluster owner),
        world) := by
  unfold readForPass
  -- The owner comes first, then the identity, which never fails a pass, then the store.
  cases cluster.owner with
  | error failure => rfl
  | ok owner =>
    rw [Action.ofExcept_ok_bind, Action.run_bind_of_ok (run_resolveIdentity settings.identitySingleton world),
      Action.run_bind, run_get alone]
    cases world.getFault <;> rfl

variable {settings : Settings} {cluster : StorageCluster} {reading : PassReading} {world after : MemoryWorld}

/-- A pass that cannot write back ends with that failure. -/
theorem run_finishPass_of_error {failure : Failure}
    (failed : (writeBack collaborators (settings.targetOf cluster) (reading.values.mergeInto reading.owner)
      reading.stored).run world = (.error failure, world)) :
    (finishPass collaborators settings cluster reading).run world = (.error failure, world) :=
  Action.run_bind_of_error failed _

/-- A pass that finds the config map as it should be changes nothing at all. -/
theorem run_finishPass_of_keep
    (made : WritePlan.make (settings.targetOf cluster) (reading.values.mergeInto reading.owner) reading.stored =
      .ok .keep) :
    (finishPass collaborators settings cluster reading).run world = (.ok ⟨reading.values, false, none⟩, world) := by
  -- Writing back nothing succeeds, whatever the world is like.
  have kept : (writeBack collaborators (settings.targetOf cluster) (reading.values.mergeInto reading.owner)
      reading.stored).run world = (.ok .unchanged, world) := by
    rw [run_writeBack, made]
    rfl
  rw [finishPass, Action.run_bind_of_ok kept]
  rfl

/-- A pass that can write does so, and then restarts the pods that depend on the settings. -/
theorem run_finishPass_of_write {plan : WritePlan} (writes : plan ≠ .keep)
    (wrote : (writeBack collaborators (settings.targetOf cluster) (reading.values.mergeInto reading.owner)
      reading.stored).run world = (.ok plan.outcome, after)) :
    (finishPass collaborators settings cluster reading).run world =
      (.ok ⟨reading.values, true,
          some (after.pods.restartReport (settings.targetOf cluster).namespaceName settings.dependents)⟩,
        { after with
          pods := after.pods.culled
            (after.pods.doomed (settings.targetOf cluster).namespaceName settings.dependents) }) := by
  rw [finishPass, Action.run_bind_of_ok wrote, if_pos ((WritePlan.isChange_outcome plan).2 writes),
    Action.run_bind_of_ok (run_restartDependents _ _ after)]
  rfl

/-- The second step of a pass that fails has changed nothing. -/
theorem finishPass_error {failure : Failure}
    (failed : (finishPass collaborators settings cluster reading).run world = (.error failure, after)) :
    after = world := by
  -- Once the writing back has succeeded, nothing fails any more.
  cases run : (writeBack collaborators (settings.targetOf cluster) (reading.values.mergeInto reading.owner)
      reading.stored).run world with
  | mk result middle =>
    cases result with
    | error cause =>
      have same := writeBack_error run
      subst same
      rw [run_finishPass_of_error run] at failed
      exact (Prod.mk.inj failed).2.symm
    | ok outcome =>
      obtain ⟨plan, made, -, rfl, rfl⟩ := writeBack_ok run
      by_cases writes : plan = .keep
      · subst writes
        rw [run_finishPass_of_keep made] at failed
        cases (Prod.mk.inj failed).1
      · rw [run_finishPass_of_write writes run] at failed
        cases (Prod.mk.inj failed).1

/-- What the second step of a pass has done that succeeded with a plan. -/
structure PassDone (target : ResourceKey) (reading : PassReading) (plan : WritePlan) (world : MemoryWorld)
    (outcome : PassOutcome) (after : MemoryWorld) : Prop where
  merges : WritePlan.Merges reading.values reading.owner target reading.stored plan
  healthy : plan.fault world.store = none
  values : outcome.values = reading.values
  changed : outcome.changed = plan.outcome.isChange
  /-- There is a restart exactly if there was a write. -/
  restart : outcome.restart.isSome = plan.outcome.isChange
  /-- Nothing but the store and the pods has been touched. -/
  after_eq : after = { world with store := plan.applied world.store, pods := after.pods }
  /-- The pods have been touched only after a write. -/
  pods : plan = .keep → after.pods = world.pods

namespace PassDone

variable {target : ResourceKey} {plan : WritePlan} {before : MemoryWorld} {outcome : PassOutcome}

/-- A pass tells of a change exactly if its plan writes. -/
theorem changed_iff (done : PassDone target reading plan before outcome after) :
    outcome.changed = true ↔ plan ≠ .keep := by
  rw [done.changed]
  exact plan.isChange_outcome

/-- A pass that tells of no change leaves the world exactly as it was. -/
theorem after_eq_of_unchanged (done : PassDone target reading plan before outcome after)
    (unchanged : outcome.changed = false) : after = before := by
  -- Only a plan that keeps the config map tells of no change, and it touches nothing.
  have keeps : plan = .keep := by
    by_cases keeps : plan = .keep
    · exact keeps
    · have changed := done.changed_iff.2 keeps
      rw [unchanged] at changed
      cases changed
  have pods := done.pods keeps
  rw [done.after_eq, pods, keeps]
  rfl

/-- A pass that wrote counts one write. -/
theorem writes_of_changed (done : PassDone target reading plan before outcome after)
    (changed : outcome.changed = true) : after.store.writes = before.store.writes + 1 := by
  have counted := plan.writes_applied before.store
  rw [← done.changed, changed, if_pos rfl] at counted
  rw [done.after_eq]
  exact counted

/-- A pass leaves every key but its target alone. -/
theorem objects_of_ne (done : PassDone target reading plan before outcome after) {key : ResourceKey}
    (other : key ≠ target) : after.store.objects key = before.store.objects key := by
  have moved := WritePlan.stepsTo_applied done.merges before.store
  rw [done.after_eq]
  apply moved.objects_eq
  -- Whether or not the plan writes, it does so under the target only.
  split
  · simpa using other
  · simp

/-- A pass that went by what its key holds leaves the merge of it there, under the next version if it wrote. -/
theorem objects_target (done : PassDone target reading plan before outcome after)
    (current : before.store.objects target = reading.stored) :
    ∃ version, after.store.objects target = some
        ((reading.values.merged reading.owner (reading.stored.getD (.fresh target))).atVersion version) ∧
      (plan ≠ .keep → version = some before.store.nextVersion) := by
  have merges := done.merges
  rw [← current] at merges ⊢
  rw [done.after_eq]
  exact WritePlan.objects_applied merges

/-- A pass that went by what its key holds leaves the controlling reference to its owner there. -/
theorem controlling_mem (done : PassDone target reading plan before outcome after)
    (current : before.store.objects target = reading.stored) {stored : ConfigMap}
    (found : after.store.objects target = some stored) : .controlling reading.owner ∈ stored.ownerRefs := by
  -- What is stored is the merge, whatever its version.
  obtain ⟨version, held, -⟩ := done.objects_target current
  obtain rfl := Option.some.inj (found.symm.trans held)
  rw [ConfigMap.ownerRefs_atVersion]
  exact reading.values.controlling_mem_merged reading.owner (reading.stored.getD (.fresh target))

end PassDone

/-- The second step of a pass that succeeds has carried out its plan, and touched pods only if it wrote. -/
theorem finishPass_ok {outcome : PassOutcome}
    (ok : (finishPass collaborators settings cluster reading).run world = (.ok outcome, after)) :
    ∃ plan, PassDone (settings.targetOf cluster) reading plan world outcome after := by
  cases run : (writeBack collaborators (settings.targetOf cluster) (reading.values.mergeInto reading.owner)
      reading.stored).run world with
  | mk result middle =>
    cases result with
    | error cause =>
      have same := writeBack_error run
      subst same
      rw [run_finishPass_of_error run] at ok
      cases (Prod.mk.inj ok).1
    | ok written =>
      obtain ⟨plan, made, healthy, rfl, rfl⟩ := writeBack_ok run
      have merges := WritePlan.merges_of_make made
      by_cases writes : plan = .keep
      · subst writes
        rw [run_finishPass_of_keep made] at ok
        obtain ⟨result, rfl⟩ := Prod.mk.inj ok
        obtain rfl := Except.ok.inj result
        exact ⟨.keep, merges, rfl, rfl, rfl, rfl, rfl, fun _ => rfl⟩
      · rw [run_finishPass_of_write writes run] at ok
        obtain ⟨result, rfl⟩ := Prod.mk.inj ok
        obtain rfl := Except.ok.inj result
        have change := (WritePlan.isChange_outcome plan).2 writes
        exact ⟨plan, merges, healthy, rfl, change.symm, change.symm, rfl, fun keep => absurd keep writes⟩

/-- A pass that succeeds has restarted the pods of its namespace if it tells of a change, and else left them alone. -/
theorem finishPass_ok_pods {outcome : PassOutcome}
    (ok : (finishPass collaborators settings cluster reading).run world = (.ok outcome, after)) :
    outcome.restart = (if outcome.changed then
      some (world.pods.restartReport (settings.targetOf cluster).namespaceName settings.dependents) else none) ∧
    after.pods = if outcome.changed then
      world.pods.culled (world.pods.doomed (settings.targetOf cluster).namespaceName settings.dependents)
      else world.pods := by
  cases run : (writeBack collaborators (settings.targetOf cluster) (reading.values.mergeInto reading.owner)
      reading.stored).run world with
  | mk result middle =>
    cases result with
    | error cause =>
      have same := writeBack_error run
      subst same
      rw [run_finishPass_of_error run] at ok
      cases (Prod.mk.inj ok).1
    | ok written =>
      obtain ⟨plan, made, -, rfl, rfl⟩ := writeBack_ok run
      -- Writing back leaves the pods alone, so the restart finds them as they were.
      by_cases writes : plan = .keep
      · subst writes
        rw [run_finishPass_of_keep made] at ok
        obtain ⟨result, rfl⟩ := Prod.mk.inj ok
        obtain rfl := Except.ok.inj result
        exact ⟨rfl, rfl⟩
      · rw [run_finishPass_of_write writes run] at ok
        obtain ⟨result, rfl⟩ := Prod.mk.inj ok
        obtain rfl := Except.ok.inj result
        exact ⟨rfl, rfl⟩

/-- A pass that can read goes on from what the world holds. -/
theorem run_runPass_of_readable {owner : Owner} (alone : world.queued = []) (owned : cluster.owner = .ok owner)
    (readable : world.getFault = none) :
    (runPass collaborators settings cluster).run world =
      (finishPass collaborators settings cluster (world.passReading settings cluster owner)).run world := by
  have read := run_readForPass alone settings cluster
  rw [owned, readable] at read
  rw [runPass_eq, Action.run_bind_of_ok read]

/-- A pass succeeds on a key that is free of rivals if nothing makes its reading or its writing fail. -/
theorem exists_runPass_ok {owner : Owner} (alone : world.queued = []) (owned : cluster.owner = .ok owner)
    (readable : world.getFault = none) (writable : world.store.failsWrites = false)
    (placed : ∀ existing, world.store.objects (settings.targetOf cluster) = some existing →
      existing.key = settings.targetOf cluster)
    (free : ∀ name, holderIn owner.groupKind (world.store.objects (settings.targetOf cluster)) = some name →
      name = owner.name) :
    ∃ outcome after, (runPass collaborators settings cluster).run world = (.ok outcome, after) := by
  -- What was read is what is stored, so the plan goes through.
  obtain ⟨plan, made⟩ : ∃ plan, WritePlan.make (settings.targetOf cluster)
      ((world.passReading settings cluster owner).values.mergeInto owner)
      (world.store.objects (settings.targetOf cluster)) = .ok plan :=
    WritePlan.exists_make_mergeInto placed free
  have healthy := WritePlan.fault_eq_none (WritePlan.merges_of_make made) writable
  rw [run_runPass_of_readable alone owned readable]
  by_cases writes : plan = .keep
  · subst writes
    exact ⟨_, _, run_finishPass_of_keep made⟩
  · have wrote : (writeBack collaborators (settings.targetOf cluster)
        ((world.passReading settings cluster owner).values.mergeInto
          (world.passReading settings cluster owner).owner)
        (world.passReading settings cluster owner).stored).run world = _ :=
      run_writeBack_of_healthy made healthy
    exact ⟨_, _, run_finishPass_of_write writes wrote⟩

/-- A pass that succeeds has an owner and a reading, and has carried out the plan that follows from them. -/
theorem runPass_ok {outcome : PassOutcome} (alone : world.queued = [])
    (ok : (runPass collaborators settings cluster).run world = (.ok outcome, after)) :
    ∃ owner plan, cluster.owner = .ok owner ∧ world.getFault = none ∧
      PassDone (settings.targetOf cluster) (world.passReading settings cluster owner) plan world outcome
        after := by
  rw [runPass_eq] at ok
  obtain ⟨reading, middle, read, finished⟩ := Action.of_run_bind_ok ok
  rw [run_readForPass alone] at read
  obtain ⟨result, rfl⟩ := Prod.mk.inj read
  -- Only with an owner and a store that can be read is there a reading.
  cases owned : cluster.owner with
  | error failure => simp [owned] at result
  | ok owner =>
    cases fault : world.getFault with
    | some text => simp [owned, fault] at result
    | none =>
      simp only [owned, fault, Except.ok.injEq] at result
      subst result
      obtain ⟨plan, done⟩ := finishPass_ok finished
      exact ⟨owner, plan, rfl, rfl, done⟩

end MemoryWorld

end StorageConfig
