import StorageConfig.Memory.World
import StorageConfig.Pass
import StorageConfig.Proofs.Converge
import StorageConfig.Proofs.Memory.Growth
import StorageConfig.Proofs.Memory.Pods
import StorageConfig.Proofs.Restart

/-! What the collaborators in memory do: readings change nothing, a plan writes at most once, restarts touch pods only. -/

namespace StorageConfig

namespace WritePlan

/-- Why a plan cannot be carried out on a store, if it cannot. -/
def fault (store : MemoryStore) : WritePlan → Option Failure
  | create resource => store.createFault resource
  | replace resource => store.replaceFault resource
  | keep => none

/-- The store once a plan has been carried out. -/
def applied (store : MemoryStore) : WritePlan → MemoryStore
  | create resource | replace resource => store.write resource
  | keep => store

/-- A plan counts as a change exactly if it writes. -/
theorem isChange_outcome (plan : WritePlan) : plan.outcome.isChange = true ↔ plan ≠ keep := by
  cases plan <;> simp [outcome, WriteOutcome.isChange]

/-- Carrying out a plan counts as a write exactly if the plan writes. -/
theorem writes_applied (plan : WritePlan) (store : MemoryStore) :
    (plan.applied store).writes = store.writes + if plan.outcome.isChange then 1 else 0 := by
  cases plan <;> rfl

variable {values : CsiValues} {owner : Owner} {key : ResourceKey} {stored : Option ConfigMap}
  {plan : WritePlan}

/-- A plan that writes stores what its reading is merged into. -/
theorem applied_of_merges (merges : Merges values owner key stored plan) (writes : plan ≠ keep)
    (store : MemoryStore) :
    plan.applied store = store.write (values.merged owner (stored.getD (.fresh key))) := by
  cases merges with
  | create => rfl
  | replace => rfl
  | keep => exact absurd rfl writes

/-- How a write fails that comes after another write to its key. -/
def staleFault (key : ResourceKey) : Option ConfigMap → Failure
  | none => .alreadyExists "ConfigMap" key.render
  | some _ => MemoryStore.conflict key "resourceVersion mismatch"

/--
A write goes through exactly if nothing was stored under its key since the reading.

Versions tell the two apart, as none is given out twice while they last.
-/
theorem fault_of_merges (merges : Merges values owner key stored plan) (writes : plan ≠ keep)
    {before after : MemoryStore} (sound : before.Sound) (read : before.objects key = stored)
    {keys : List ResourceKey} (growth : before.Grows keys after)
    (room : before.version.toNat + keys.length < UInt64.size) :
    plan.fault after =
      if after.failsWrites then some (MemoryStore.conflict key "injected failure")
      else if key ∈ keys then some (staleFault key stored)
      else none := by
  cases merges with
  | create =>
    have at_key : (values.merged owner (.fresh key)).key = key := rfl
    simp only [fault, MemoryStore.createFault, at_key]
    split
    · rfl
    · by_cases touched : key ∈ keys
      · -- Whatever was stored in between is still there, as nothing is ever removed.
        obtain ⟨current, found, -⟩ := growth.version_ne sound room touched
        simp [touched, found, staleFault]
      · have missing : after.objects key = none := (growth.objects_eq touched).trans read
        simp [touched, missing]
  | @replace existing stored_at free differs =>
    have at_key : (values.merged owner existing).key = key := stored_at
    simp only [fault, MemoryStore.replaceFault, at_key, CsiValues.version_merged]
    split
    · rfl
    · by_cases touched : key ∈ keys
      · -- The merge kept the version that was read, and the stored one is newer.
        obtain ⟨current, found, newer⟩ := growth.version_ne sound room touched
        simp [touched, found, newer existing read, staleFault]
      · have same : after.objects key = some existing := (growth.objects_eq touched).trans read
        simp [touched, same]
  | keep => exact absurd rfl writes

/-- A write goes through exactly if its key still holds what was read. -/
theorem fault_of_recalls (merges : Merges values owner key stored plan) (writes : plan ≠ keep)
    {store : MemoryStore} (recalls : store.Recalls key stored) :
    plan.fault store =
      if store.failsWrites then some (MemoryStore.conflict key "injected failure")
      else if store.objects key = stored then none
      else some (staleFault key stored) := by
  obtain ⟨earlier, keys, sound, held, growth, room⟩ := recalls
  rw [fault_of_merges merges writes sound held growth room]
  by_cases touched : key ∈ keys
  · -- Whatever was stored since stands under another version.
    obtain ⟨current, found, newer⟩ := growth.version_ne sound room touched
    have changed : store.objects key ≠ stored := by
      intro same
      exact newer current (held.trans (same.symm.trans found)) rfl
    rw [if_pos touched, if_neg changed]
  · have same : store.objects key = stored := (growth.objects_eq touched).trans held
    rw [if_neg touched, if_pos same]

/-- A write that meets no fault finds what was read. -/
theorem objects_eq_of_fault_eq_none (merges : Merges values owner key stored plan) (writes : plan ≠ keep)
    {store : MemoryStore} (recalls : store.Recalls key stored) (healthy : plan.fault store = none) :
    store.objects key = stored := by
  rw [fault_of_recalls merges writes recalls] at healthy
  by_cases fresh : store.objects key = stored
  · exact fresh
  · -- Both faults that a stale reading could meet stand in the way.
    rw [if_neg fresh] at healthy
    split at healthy <;> cases healthy

/-- A plan made from what its key holds goes through, unless writes are made to fail. -/
theorem fault_eq_none {store : MemoryStore} (merges : Merges values owner key (store.objects key) plan)
    (writable : store.failsWrites = false) : plan.fault store = none := by
  generalize held : store.objects key = stored at merges
  cases merges with
  | create =>
    have at_key : (values.merged owner (.fresh key)).key = key := rfl
    simp only [fault, MemoryStore.createFault, at_key, writable, held]
    rfl
  | @replace existing stored_at =>
    have at_key : (values.merged owner existing).key = key := stored_at
    -- The merge kept the version that is stored.
    simp only [fault, MemoryStore.replaceFault, at_key, CsiValues.version_merged, writable, held, if_true]
    rfl
  | keep => rfl

/-- Once a plan is carried out, its key holds what was merged, and that under the next version if it was written. -/
theorem objects_applied {store : MemoryStore} (merges : Merges values owner key (store.objects key) plan) :
    ∃ version, (plan.applied store).objects key =
        some ((values.merged owner ((store.objects key).getD (.fresh key))).atVersion version) ∧
      (plan ≠ keep → version = some store.nextVersion) := by
  by_cases writes : plan = keep
  · -- Nothing is written only where the merge makes no difference.
    subst writes
    generalize held : store.objects key = stored at merges
    cases merges with
    | @keep existing _ _ same =>
      refine ⟨existing.version, ?_, fun writes => absurd rfl writes⟩
      rw [applied, held, Option.getD_some, same, ConfigMap.atVersion_version]
  · rw [applied_of_merges merges writes]
    exact ⟨some store.nextVersion, store.objects_write (key_of_merges merges), fun _ => rfl⟩

/-- Once a plan is carried out, its key is held by the owner that it was made for. -/
theorem holderIn_applied {store : MemoryStore} (merges : Merges values owner key (store.objects key) plan) :
    holderIn owner.groupKind ((plan.applied store).objects key) = some owner.name := by
  -- What was merged had no rival, whether it was stored or starts out empty.
  have free : ∀ name, holderOf owner.groupKind ((store.objects key).getD (.fresh key)).ownerRefs = some name →
      name = owner.name := by
    intro name held
    cases stored : store.objects key with
    | none =>
      rw [stored] at held
      cases held
    | some existing =>
      rw [stored] at held
      exact free_of_merges merges (by rw [stored]; exact held)
  obtain ⟨version, found, -⟩ := objects_applied merges
  have holds : holderOf owner.groupKind
      (values.merged owner ((store.objects key).getD (.fresh key))).ownerRefs = some owner.name :=
    values.holderOf_merged free
  rw [found, holderIn, Option.bind_some, ConfigMap.ownerRefs_atVersion]
  exact holds

/-- Carrying out a plan stores under its key if it writes, and else nothing. -/
theorem stepsTo_applied (merges : Merges values owner key stored plan) (store : MemoryStore) :
    MemoryStore.StepsTo store (plan.applied store) (if plan.outcome.isChange then some key else none) := by
  by_cases writes : plan = keep
  · subst writes
    exact .idle rfl rfl
  · rw [if_pos ((isChange_outcome plan).2 writes), applied_of_merges merges writes]
    -- What is stored carries the key that was read.
    simpa only [key_of_merges merges] using
      store.stepsTo_write (values.merged owner (stored.getD (.fresh key)))

end WritePlan

namespace MemoryWorld

/-- A plan that meets a fault fails and changes nothing, any other is carried out. -/
theorem run_perform (plan : WritePlan) (world : MemoryWorld) :
    (plan.perform collaborators).run world =
      match plan.fault world.store with
      | some failure => (.error failure, world)
      | none => (.ok (), { world with store := plan.applied world.store }) := by
  -- Both kinds of write look for their fault first and store the resource otherwise.
  cases plan with
  | create resource =>
    change ((world.store.create resource).1, { world with store := (world.store.create resource).2 }) = _
    simp only [MemoryStore.create, WritePlan.fault]
    cases world.store.createFault resource <;> rfl
  | replace resource =>
    change ((world.store.replace resource).1, { world with store := (world.store.replace resource).2 }) = _
    simp only [MemoryStore.replace, WritePlan.fault]
    cases world.store.replaceFault resource <;> rfl
  | keep => rfl

/-- A write that fails leaves the world as it was. -/
theorem eq_of_perform_error (plan : WritePlan) {world after : MemoryWorld} {failure : Failure}
    (failed : (plan.perform collaborators).run world = (.error failure, after)) : after = world := by
  rw [run_perform] at failed
  split at failed
  · exact (Prod.mk.inj failed).2.symm
  · cases (Prod.mk.inj failed).1

/-- A write that succeeds met no fault, and has been carried out. -/
theorem of_perform_ok (plan : WritePlan) {world after : MemoryWorld}
    (done : (plan.perform collaborators).run world = (.ok (), after)) :
    plan.fault world.store = none ∧ after = { world with store := plan.applied world.store } := by
  rw [run_perform] at done
  split at done
  · cases (Prod.mk.inj done).1
  · rename_i healthy
    exact ⟨healthy, (Prod.mk.inj done).2.symm⟩

/-- Writing back fails with the plan or with its write, and changes nothing then. -/
theorem run_writeBack (key : ResourceKey) (change : Mutation) (stored : Option ConfigMap) (world : MemoryWorld) :
    (writeBack collaborators key change stored).run world =
      match WritePlan.make key change stored with
      | .error failure => (.error failure, world)
      | .ok plan =>
        match plan.fault world.store with
        | some failure => (.error failure, world)
        | none => (.ok plan.outcome, { world with store := plan.applied world.store }) := by
  unfold writeBack
  cases WritePlan.make key change stored with
  | error failure => rfl
  | ok plan =>
    -- The plan is the only thing that touches the world.
    rw [Action.ofExcept_ok_bind, Action.run_bind, run_perform]
    dsimp only
    cases plan.fault world.store <;> rfl

/-- A plan that meets no fault is carried out. -/
theorem run_writeBack_of_healthy {key : ResourceKey} {change : Mutation} {stored : Option ConfigMap}
    {world : MemoryWorld} {plan : WritePlan} (made : WritePlan.make key change stored = .ok plan)
    (healthy : plan.fault world.store = none) :
    (writeBack collaborators key change stored).run world =
      (.ok plan.outcome, { world with store := plan.applied world.store }) := by
  rw [run_writeBack, made]
  dsimp only
  rw [healthy]

/-- Writing back that fails leaves the world as it was. -/
theorem writeBack_error {key : ResourceKey} {change : Mutation} {stored : Option ConfigMap}
    {world after : MemoryWorld} {failure : Failure}
    (failed : (writeBack collaborators key change stored).run world = (.error failure, after)) :
    after = world := by
  -- Neither a failed plan nor a failed write gets to the store.
  rw [run_writeBack] at failed
  split at failed
  · exact (Prod.mk.inj failed).2.symm
  · split at failed
    · exact (Prod.mk.inj failed).2.symm
    · cases (Prod.mk.inj failed).1

/-- Writing back that succeeds has carried out its plan. -/
theorem writeBack_ok {key : ResourceKey} {change : Mutation} {stored : Option ConfigMap}
    {world after : MemoryWorld} {outcome : WriteOutcome}
    (ok : (writeBack collaborators key change stored).run world = (.ok outcome, after)) :
    ∃ plan, WritePlan.make key change stored = .ok plan ∧ plan.fault world.store = none ∧
      outcome = plan.outcome ∧ after = { world with store := plan.applied world.store } := by
  rw [run_writeBack] at ok
  split at ok
  · cases (Prod.mk.inj ok).1
  · rename_i plan made
    split at ok
    · cases (Prod.mk.inj ok).1
    · rename_i healthy
      obtain ⟨result, state⟩ := Prod.mk.inj ok
      exact ⟨plan, made, healthy, (Except.ok.inj result).symm, state.symm⟩

/-- A write that follows a reading goes through exactly if its key was left alone in between. -/
theorem run_writeBack_of_grows {values : CsiValues} {owner : Owner} {key : ResourceKey}
    {stored : Option ConfigMap} {plan : WritePlan}
    (made : WritePlan.make key (values.mergeInto owner) stored = .ok plan) (writes : plan ≠ .keep)
    {before : MemoryStore} {world : MemoryWorld} (sound : before.Sound) (read : before.objects key = stored)
    {keys : List ResourceKey} (growth : before.Grows keys world.store)
    (room : before.version.toNat + keys.length < UInt64.size) :
    (writeBack collaborators key (values.mergeInto owner) stored).run world =
      if world.store.failsWrites then (.error (MemoryStore.conflict key "injected failure"), world)
      else if key ∈ keys then (.error (WritePlan.staleFault key stored), world)
      else (.ok plan.outcome,
        { world with store := world.store.write (values.merged owner (stored.getD (.fresh key))) }) := by
  have merges := WritePlan.merges_of_make made
  rw [run_writeBack, made]
  dsimp only
  rw [WritePlan.fault_of_merges merges writes sound read growth room,
    WritePlan.applied_of_merges merges writes]
  -- Each of the three outcomes of the check is one of the results.
  by_cases failing : world.store.failsWrites = true
  · simp [failing]
  · by_cases touched : key ∈ keys <;> simp [failing, touched]

/-- Where nobody is waiting to write, reading the store changes nothing. -/
theorem run_get {world : MemoryWorld} (alone : world.queued = []) (key : ResourceKey) :
    (collaborators.get key).run world =
      match world.getFault with
      | some text => (.error (.internal text), world)
      | none => (.ok (world.store.objects key), world) := by
  -- The queue that a reading would empty is empty already.
  change world.get key = _
  unfold MemoryWorld.get
  obtain ⟨store, pods, identity, getFault, queued⟩ := world
  subst alone
  rfl

/-- A reading that nobody writes after leaves the world as it was, whether it succeeds or not. -/
theorem eq_of_run_get {world middle : MemoryWorld} (alone : world.queued = []) {key : ResourceKey}
    {result : Except Failure (Option ConfigMap)}
    (read : (collaborators.get key).run world = (result, middle)) : middle = world := by
  rw [run_get alone] at read
  split at read <;> exact (Prod.mk.inj read).2.symm

/-- A reading that succeeds gives what is stored. -/
theorem objects_of_run_get {world middle : MemoryWorld} {key : ResourceKey} {stored : Option ConfigMap}
    (read : (collaborators.get key).run world = (.ok stored, middle)) : world.store.objects key = stored := by
  change world.get key = _ at read
  unfold MemoryWorld.get at read
  split at read
  · cases (Prod.mk.inj read).1
  · exact Except.ok.inj (Prod.mk.inj read).1

/-- Nothing is made to fail in a world, and nobody is waiting to write. -/
structure Calm (world : MemoryWorld) : Prop where
  queued : world.queued = []
  getFault : world.getFault = none
  failsWrites : world.store.failsWrites = false

/-- A world that holds nothing is calm. -/
theorem calm_empty (identity : Option String) : (empty identity).Calm := ⟨rfl, rfl, rfl⟩

/-- A plan leaves a world calm. -/
theorem Calm.applied {world : MemoryWorld} (calm : world.Calm) (plan : WritePlan) :
    Calm { world with store := plan.applied world.store } :=
  ⟨calm.queued, calm.getFault, by cases plan <;> exact calm.failsWrites⟩

/-- In a calm world reading the store gives what is stored. -/
theorem Calm.run_get {world : MemoryWorld} (calm : world.Calm) (key : ResourceKey) :
    (collaborators.get key).run world = (.ok (world.store.objects key), world) := by
  rw [MemoryWorld.run_get calm.queued, calm.getFault]

section Replace

variable {world : MemoryWorld} {resource existing : ConfigMap}

/-- In a calm world what names the stored version takes its place. -/
theorem Calm.run_replace_of_current (calm : world.Calm) (held : world.store.objects resource.key = some existing)
    (current : existing.version = resource.version) :
    (collaborators.replace resource).run world = (.ok (), { world with store := world.store.write resource }) := by
  have healthy : world.store.replaceFault resource = none := by
    simp [MemoryStore.replaceFault, calm.failsWrites, held, current]
  refine (run_perform (.replace resource) world).trans ?_
  rw [WritePlan.fault, healthy]
  rfl

/-- In a calm world what does not name the stored version is refused. -/
theorem Calm.run_replace_of_stale (calm : world.Calm) (held : world.store.objects resource.key = some existing)
    (stale : existing.version ≠ resource.version) :
    (collaborators.replace resource).run world =
      (.error (MemoryStore.conflict resource.key "resourceVersion mismatch"), world) := by
  have refused : world.store.replaceFault resource =
      some (MemoryStore.conflict resource.key "resourceVersion mismatch") := by
    simp [MemoryStore.replaceFault, calm.failsWrites, held, stale]
  refine (run_perform (.replace resource) world).trans ?_
  rw [WritePlan.fault, refused]

/-- In a calm world what is missing cannot be replaced. -/
theorem Calm.run_replace_of_missing (calm : world.Calm) (missing : world.store.objects resource.key = none) :
    (collaborators.replace resource).run world =
      (.error (.notFound "ConfigMap" resource.key.render), world) := by
  have refused : world.store.replaceFault resource = some (.notFound "ConfigMap" resource.key.render) := by
    simp [MemoryStore.replaceFault, calm.failsWrites, missing]
  refine (run_perform (.replace resource) world).trans ?_
  rw [WritePlan.fault, refused]

end Replace

section Converge

variable {values : CsiValues} {owner : Owner} {key : ResourceKey} {world : MemoryWorld}

/-- In a calm world every plan to bring a config map in line is carried out. -/
theorem Calm.run_converge (calm : world.Calm) {plan : WritePlan}
    (made : WritePlan.make key (values.mergeInto owner) (world.store.objects key) = .ok plan) :
    (converge collaborators values key owner).run world =
      (.ok plan.outcome.isChange, { world with store := plan.applied world.store }) := by
  have healthy := WritePlan.fault_eq_none (WritePlan.merges_of_make made) calm.failsWrites
  refine run_converge_of_ok (calm.run_get key) made ?_
  rw [run_perform, healthy]

/-- A config map that was brought in line in a calm world has its owner for a holder, and is its own merge. -/
theorem Calm.converge_ok (calm : world.Calm) {changed : Bool} {after : MemoryWorld}
    (ok : (converge collaborators values key owner).run world = (.ok changed, after)) :
    ∃ resource, after.store.objects key = some resource ∧
      holderOf owner.groupKind resource.ownerRefs = some owner.name ∧ values.merged owner resource = resource := by
  cases made : WritePlan.make key (values.mergeInto owner) (world.store.objects key) with
  | error failure =>
    rw [run_converge_of_error (calm.run_get key) made] at ok
    cases (Prod.mk.inj ok).1
  | ok plan =>
    rw [calm.run_converge made] at ok
    obtain ⟨-, rfl⟩ := Prod.mk.inj ok
    have merges := WritePlan.merges_of_make made
    obtain ⟨version, found, -⟩ := WritePlan.objects_applied merges
    have holder := WritePlan.holderIn_applied merges
    rw [found] at holder
    refine ⟨_, found, holder, ?_⟩
    -- What is stored is a merge under another version.
    rw [CsiValues.merged_atVersion, CsiValues.merged_merged]

end Converge

/-- An identity that cannot be read counts as empty, and looking for it changes nothing. -/
theorem run_resolveIdentity (singleton : String) (world : MemoryWorld) :
    (resolveIdentity collaborators singleton).run world = (.ok (world.identity.getD ""), world) := by
  cases known : world.identity <;>
    simp [resolveIdentity, collaborators, Action.run_bind, lookUpIdentity, known]

/-- Terminating pods in turn goes as far as the limit lets it, and leaves all but the pods alone. -/
theorem run_terminateInTurn (wanted : List PodRef) (world : MemoryWorld) :
    (terminateInTurn collaborators wanted).run world =
      (.ok ((world.pods.allowed wanted).length, decide ((world.pods.allowed wanted).length < wanted.length)),
        { world with pods := world.pods.culled (world.pods.allowed wanted) }) := by
  -- The induction is on the pods still to terminate, from whatever pods run by then.
  induction wanted generalizing world with
  | nil =>
    rw [MemoryPods.allowed_nil, MemoryPods.culled_nil]
    rfl
  | cons pod rest ih =>
    have made : (collaborators.terminate pod).run world =
        ((world.pods.terminate pod).1, { world with pods := (world.pods.terminate pod).2 }) := rfl
    by_cases exhausted : world.pods.isExhausted = true
    · -- The first refusal ends it, and nothing has been terminated.
      rw [world.pods.terminate_of_exhausted pod exhausted] at made
      rw [run_terminateInTurn_of_error made, world.pods.allowed_of_exhausted _ exhausted, MemoryPods.culled_nil]
      rfl
    · have free : world.pods.isExhausted = false := by simpa using exhausted
      rw [world.pods.terminate_of_not_exhausted pod free] at made
      rw [run_terminateInTurn_of_ok made (ih { world with pods := world.pods.culled [pod] }),
        world.pods.allowed_cons pod rest free, world.pods.culled_cons pod ((world.pods.culled [pod]).allowed rest)]
      simp only [List.length_cons, Nat.add_lt_add_iff_right]

/-- A restart reports what it did, and leaves all but the pods alone. -/
theorem run_restartDependents (namespaceName : String) (selector : Selector) (world : MemoryWorld) :
    (restartDependents collaborators namespaceName selector).run world =
      (.ok (world.pods.restartReport namespaceName selector),
        { world with pods := world.pods.culled (world.pods.doomed namespaceName selector) }) := by
  have listed : (collaborators.list namespaceName selector).run world =
      (world.pods.list namespaceName selector, world) := rfl
  rw [MemoryPods.list] at listed
  rw [MemoryPods.restartReport, MemoryPods.doomed]
  -- Where the pods cannot be listed none of them is touched.
  by_cases failing : world.pods.failsList = true
  · rw [if_pos failing] at listed
    rw [if_pos failing, if_pos failing, MemoryPods.culled_nil]
    exact run_restartDependents_of_error listed
  · rw [if_neg failing] at listed
    rw [if_neg failing, if_neg failing]
    exact run_restartDependents_of_ok listed (run_terminateInTurn _ world)

end MemoryWorld

end StorageConfig
