import StorageConfig.Proofs.Concurrency.Passes
import StorageConfig.Proofs.Metrics
import StorageConfig.Proofs.Pass.Atomicity

/-! Passes in different namespaces: neither sees anything of the other, and they can be run in either order. -/

namespace StorageConfig

/-- A resource of which everything but the number in its version is kept. -/
def ConfigMap.unnumbered (resource : ConfigMap) : ConfigMap :=
  resource.atVersion (resource.version.map fun _ => "")

/-- Whether a plan can be carried out depends on its own key and on whether writes are made to fail. -/
theorem WritePlan.fault_congr {values : CsiValues} {owner : Owner} {key : ResourceKey} {stored : Option ConfigMap}
    {plan : WritePlan} (merges : Merges values owner key stored plan) {left right : MemoryStore}
    (objects : left.objects key = right.objects key) (failsWrites : left.failsWrites = right.failsWrites) :
    plan.fault left = plan.fault right := by
  -- Whatever the plan stores, it stores under the key.
  cases merges with
  | create =>
    have at_key : (values.merged owner (.fresh key)).key = key := rfl
    simp only [fault, MemoryStore.createFault, at_key, objects, failsWrites]
  | @replace existing stored_at =>
    have at_key : (values.merged owner existing).key = key := stored_at
    simp only [fault, MemoryStore.replaceFault, at_key, objects, failsWrites]
  | keep => rfl

/-- A write decides what its key holds, but for the number, and leaves every other key alone. -/
theorem MemoryStore.unnumbered_write (store : MemoryStore) (resource : ConfigMap) (key : ResourceKey) :
    ((store.write resource).objects key).map ConfigMap.unnumbered =
      if key = resource.key then some (resource.atVersion (some "")) else
        (store.objects key).map ConfigMap.unnumbered := by
  by_cases same : key = resource.key
  · -- The version under which the resource is stored is a number in any case.
    rw [if_pos same, store.objects_write same.symm]
    rfl
  · rw [if_neg same]
    exact congrArg (Option.map _) (MemoryStore.objects_insert_of_ne same store)

namespace MemoryPods

variable {left right : MemoryPods} {namespaceName : String}

/-- Registries of the same entries in a namespace have the same pods to select there. -/
theorem selected_congr (same : left.entriesIn namespaceName = right.entriesIn namespaceName) (selector : Selector) :
    left.selected namespaceName selector = right.selected namespaceName selector := by
  -- Dependents are found among the entries of their namespace.
  simp only [selected_eq_map_dependents, dependents_eq_filter_entriesIn, same]

/-- Pods of one namespace are none of another. -/
theorem filter_namespaceName_of_elsewhere {killed : List PodRef} {elsewhere : String}
    (among : ∀ pod ∈ killed, pod.namespaceName = elsewhere) (apart : namespaceName ≠ elsewhere) :
    killed.filter (fun pod => pod.namespaceName == namespaceName) = [] := by
  rw [List.filter_eq_nil_iff]
  -- A pod stands in one namespace only.
  intro pod member there
  exact apart ((beq_iff_eq.1 there).symm.trans (among pod member))

/-- Without a limit every pod that can be listed is terminated. -/
theorem doomed_of_unlimited {pods : MemoryPods} (unlimited : pods.limit = none) (selector : Selector) :
    pods.doomed namespaceName selector = if pods.failsList then [] else pods.selected namespaceName selector := by
  simp [doomed, allowed, unlimited]

end MemoryPods

namespace MemoryWorld

/-- Nobody is waiting to write, and nothing limits how many pods can be terminated. -/
structure Unhindered (world : MemoryWorld) : Prop where
  queued : world.queued = []
  limit : world.pods.limit = none

/-- Two worlds are the same as far as a namespace is concerned: in its objects, its pods and every failure. -/
structure SameIn (namespaceName : String) (left right : MemoryWorld) : Prop where
  objects : ∀ key, key.namespaceName = namespaceName → left.store.objects key = right.store.objects key
  entries : left.pods.entriesIn namespaceName = right.pods.entriesIn namespaceName
  identity : left.identity = right.identity
  getFault : left.getFault = right.getFault
  failsWrites : left.store.failsWrites = right.store.failsWrites
  failsList : left.pods.failsList = right.pods.failsList

/-- A world is the same as itself. -/
theorem SameIn.refl (namespaceName : String) (world : MemoryWorld) : SameIn namespaceName world world :=
  ⟨fun _ _ => rfl, rfl, rfl, rfl, rfl, rfl⟩

/-- What a pass does: nothing, or one write and some terminations. -/
inductive Deed where
  | nothing
  | rewrite (resource : ConfigMap) (killed : List PodRef)

namespace Deed

/-- The world once a deed is done. -/
def applied (world : MemoryWorld) : Deed → MemoryWorld
  | nothing => world
  | rewrite resource killed => { world with store := world.store.write resource, pods := world.pods.culled killed }

/-- A deed touches nothing outside a namespace. -/
def StaysIn (namespaceName : String) : Deed → Prop
  | nothing => True
  | rewrite resource killed =>
    resource.key.namespaceName = namespaceName ∧ ∀ pod ∈ killed, pod.namespaceName = namespaceName

end Deed

/-- Worlds that are the same in a namespace have the same pods to terminate there, and report the same of it. -/
theorem SameIn.restart {namespaceName : String} {left right : MemoryWorld} (same : SameIn namespaceName left right)
    (leftFree : left.Unhindered) (rightFree : right.Unhindered) (selector : Selector) :
    left.pods.doomed namespaceName selector = right.pods.doomed namespaceName selector ∧
    left.pods.restartReport namespaceName selector = right.pods.restartReport namespaceName selector := by
  -- Without a limit all that counts is what is selected, and whether it can be listed.
  have selected := MemoryPods.selected_congr same.entries selector
  have doomed : left.pods.doomed namespaceName selector = right.pods.doomed namespaceName selector := by
    rw [MemoryPods.doomed_of_unlimited leftFree.limit, MemoryPods.doomed_of_unlimited rightFree.limit, selected,
      same.failsList]
  refine ⟨doomed, ?_⟩
  rw [MemoryPods.restartReport, MemoryPods.restartReport, doomed, selected, same.failsList]

/-- An action is confined to a namespace: what there is in it settles what the action comes to and what it does. -/
def Confined (namespaceName : String) (action : Action MemoryWorld PassOutcome) : Prop :=
  ∀ world : MemoryWorld, world.Unhindered → ∃ result deed, Deed.StaysIn namespaceName deed ∧
    ∀ other : MemoryWorld, other.Unhindered → SameIn namespaceName world other →
      action.run other = (result, deed.applied other)

/-- Whoever is terminated in a restart stands in its namespace. -/
theorem namespaceName_of_mem_doomed {namespaceName : String} {selector : Selector} {pods : MemoryPods} {pod : PodRef}
    (killed : pod ∈ pods.doomed namespaceName selector) : pod.namespaceName = namespaceName := by
  -- It is one of those that were selected there.
  obtain ⟨labels, -, spot, -⟩ := (MemoryPods.mem_selected _).1 ((pods.doomed_prefix _ _).subset killed)
  exact spot

variable {settings : Settings} {cluster : StorageCluster} {reading : PassReading}

/-- The second step of a pass that can write does the same wherever the namespace is the same. -/
theorem run_finishPass_of_sameIn {plan : WritePlan} {world other : MemoryWorld}
    (made : WritePlan.make (settings.targetOf cluster) (reading.values.mergeInto reading.owner) reading.stored =
      .ok plan)
    (writes : plan ≠ .keep) (healthy : plan.fault other.store = none) (free : world.Unhindered)
    (otherFree : other.Unhindered) (same : SameIn (settings.targetOf cluster).namespaceName world other) :
    (finishPass collaborators settings cluster reading).run other =
      (.ok ⟨reading.values, true,
          some (world.pods.restartReport (settings.targetOf cluster).namespaceName settings.dependents)⟩,
        (Deed.rewrite (reading.values.merged reading.owner (reading.stored.getD (.fresh (settings.targetOf cluster))))
          (world.pods.doomed (settings.targetOf cluster).namespaceName settings.dependents)).applied other) := by
  -- The write is fixed by the reading, and the restart by the namespace.
  obtain ⟨doomed, report⟩ := same.restart free otherFree settings.dependents
  rw [run_finishPass_of_write writes (run_writeBack_of_healthy made healthy), doomed, report,
    WritePlan.applied_of_merges (WritePlan.merges_of_make made) writes]
  rfl

/-- The second step of a pass is confined to the namespace of its target. -/
theorem confined_finishPass (settings : Settings) (cluster : StorageCluster) (reading : PassReading) :
    Confined (settings.targetOf cluster).namespaceName (finishPass collaborators settings cluster reading) := by
  intro world free
  cases made : WritePlan.make (settings.targetOf cluster) (reading.values.mergeInto reading.owner) reading.stored with
  | error failure =>
    refine ⟨.error failure, .nothing, trivial, fun other _ _ => run_finishPass_of_error ?_⟩
    rw [run_writeBack, made]
  | ok plan =>
    have merges := WritePlan.merges_of_make made
    -- A fault is met wherever the namespace is the same, or nowhere.
    have congr (other : MemoryWorld) (same : SameIn (settings.targetOf cluster).namespaceName world other) :
        plan.fault other.store = plan.fault world.store :=
      (WritePlan.fault_congr merges (same.objects _ rfl) same.failsWrites).symm
    rcases Option.eq_none_or_eq_some (plan.fault world.store) with healthy | ⟨failure, fault⟩
    · by_cases writes : plan = .keep
      · subst writes
        exact ⟨_, .nothing, trivial, fun other _ _ => run_finishPass_of_keep made⟩
      · refine ⟨_, _, ?_, fun other otherFree same =>
          run_finishPass_of_sameIn made writes ((congr other same).trans healthy) free otherFree same⟩
        -- The one write is under the target.
        exact ⟨congrArg ResourceKey.namespaceName (WritePlan.key_of_merges merges),
          fun pod killed => namespaceName_of_mem_doomed killed⟩
    · refine ⟨.error failure, .nothing, trivial, fun other _ same => run_finishPass_of_error ?_⟩
      rw [run_writeBack, made]
      dsimp only
      rw [congr other same, fault]

/-- A pass is confined to the namespace of its target. -/
theorem confined_runPass (settings : Settings) (cluster : StorageCluster) :
    Confined (settings.targetOf cluster).namespaceName (runPass collaborators settings cluster) := by
  intro world free
  cases owned : cluster.owner with
  | error failure => exact ⟨.error failure, .nothing, trivial, fun other _ _ => run_runPass_unowned owned other⟩
  | ok owner =>
    rcases Option.eq_none_or_eq_some world.getFault with readable | ⟨text, fault⟩
    · -- The pass reads its identity and its target, which are the same.
      obtain ⟨result, deed, stays, run⟩ :=
        confined_finishPass settings cluster (world.passReading settings cluster owner) world free
      refine ⟨result, deed, stays, fun other otherFree same => ?_⟩
      have read : other.passReading settings cluster owner = world.passReading settings cluster owner := by
        rw [passReading, passReading, same.identity, same.objects _ rfl]
      rw [run_runPass_of_readable otherFree.queued owned (same.getFault.symm.trans readable), read]
      exact run other otherFree same
    · exact ⟨.error (.internal text), .nothing, trivial, fun other _ same =>
        run_runPass_unreadable owned (same.getFault.symm.trans fault)⟩

namespace Deed

variable {namespaceName : String} {deed : Deed}

/-- A deed sets up no hindrance. -/
theorem unhindered_applied {world : MemoryWorld} (free : world.Unhindered) (deed : Deed) :
    (deed.applied world).Unhindered := by
  -- Neither a write nor a termination touches the queue or the limit.
  cases deed <;> exact ⟨free.queued, free.limit⟩

/-- A deed leaves every other namespace the same. -/
theorem StaysIn.sameIn (stays : deed.StaysIn namespaceName) {elsewhere : String} (apart : elsewhere ≠ namespaceName)
    (world : MemoryWorld) : SameIn elsewhere world (deed.applied world) := by
  cases deed with
  | nothing => exact .refl elsewhere world
  | rewrite resource killed =>
    obtain ⟨spot, among⟩ := stays
    refine ⟨fun key there => ?objects, ?entries, rfl, rfl, rfl, rfl⟩
    case objects =>
      have other : key ≠ resource.key := by
        rintro rfl
        exact apart (there.symm.trans spot)
      exact (MemoryStore.objects_insert_of_ne other world.store).symm
    case entries =>
      have outside : ∀ pod ∈ killed, pod.namespaceName ≠ elsewhere := fun pod member there =>
        apart (there.symm.trans (among pod member))
      exact (MemoryPods.entriesIn_culled_of_elsewhere world.pods outside).symm

end Deed

/-- Two worlds are alike but for the numbers of versions and for how terminations in different namespaces mix. -/
structure Alike (left right : MemoryWorld) : Prop where
  objects : ∀ key,
    (left.store.objects key).map ConfigMap.unnumbered = (right.store.objects key).map ConfigMap.unnumbered
  version : left.store.version = right.store.version
  writes : left.store.writes = right.store.writes
  failsWrites : left.store.failsWrites = right.store.failsWrites
  running : left.pods.running = right.pods.running
  terminated : ∀ namespaceName,
    left.pods.terminated.filter (fun pod => pod.namespaceName == namespaceName) =
      right.pods.terminated.filter fun pod => pod.namespaceName == namespaceName
  failsList : left.pods.failsList = right.pods.failsList
  limit : left.pods.limit = right.pods.limit
  identity : left.identity = right.identity
  getFault : left.getFault = right.getFault
  queued : left.queued = right.queued

/-- A world is alike to itself. -/
theorem Alike.refl (world : MemoryWorld) : Alike world world :=
  ⟨fun _ => rfl, rfl, rfl, rfl, rfl, fun _ => rfl, rfl, rfl, rfl, rfl, rfl⟩

namespace Deed

/-- Two deeds in different namespaces can be done in either order. -/
theorem alike_applied_comm {first second : Deed} {here there : String} (former : first.StaysIn here)
    (latter : second.StaysIn there) (apart : here ≠ there) (world : MemoryWorld) :
    Alike (second.applied (first.applied world)) (first.applied (second.applied world)) := by
  cases first with
  | nothing => exact .refl _
  | rewrite resource killed =>
    cases second with
    | nothing => exact .refl _
    | rewrite other dropped =>
      obtain ⟨spot, among⟩ := former
      obtain ⟨otherSpot, amongOthers⟩ := latter
      refine ⟨fun key => ?objects, rfl, rfl, rfl, ?running, fun namespaceName => ?terminated, rfl, rfl, rfl, rfl, rfl⟩
      case objects =>
        -- Each of the two writes is under a key of its own.
        have keys : resource.key ≠ other.key := fun same =>
          apart (spot.symm.trans ((congrArg ResourceKey.namespaceName same).trans otherSpot))
        simp only [applied, MemoryStore.unnumbered_write]
        by_cases own : key = resource.key
        · rw [if_pos own, if_neg (own ▸ keys), if_pos own]
        · rw [if_neg own, if_neg own]
      case running => simp only [applied, MemoryPods.culled, List.filter_filter, Bool.and_comm]
      case terminated =>
        simp only [applied, MemoryPods.culled, List.filter_append]
        -- In no namespace do both of them terminate anything.
        by_cases own : namespaceName = here
        · rw [MemoryPods.filter_namespaceName_of_elsewhere amongOthers (own ▸ apart)]
          simp only [List.append_nil]
        · rw [MemoryPods.filter_namespaceName_of_elsewhere among own]
          simp only [List.append_nil]

end Deed

/-- Two actions that are confined to different namespaces come to the same in either order, and leave alike worlds. -/
theorem Confined.comm {here there : String} {first second : Action MemoryWorld PassOutcome}
    (former : Confined here first) (latter : Confined there second) (apart : here ≠ there) {world : MemoryWorld}
    (free : world.Unhindered) :
    ∃ result other middle between left right,
      first.run world = (result, middle) ∧ second.run middle = (other, left) ∧
      second.run world = (other, between) ∧ first.run between = (result, right) ∧ Alike left right := by
  obtain ⟨result, deed, stays, run⟩ := former world free
  obtain ⟨other, answer, staysThere, reply⟩ := latter world free
  -- Neither deed is noticed in the other namespace.
  exact ⟨result, other, deed.applied world, answer.applied world, _, _,
    run world free (.refl here world),
    reply _ (Deed.unhindered_applied free deed) (stays.sameIn (Ne.symm apart) world),
    reply world free (.refl there world),
    run _ (Deed.unhindered_applied free answer) (staysThere.sameIn apart world),
    Deed.alike_applied_comm stays staysThere apart world⟩

/-- How two passes come out that are run one after the other, in either order. -/
structure Interchange (first second : Action (Monitored MemoryWorld) PassOutcome) (state : Monitored MemoryWorld) :
    Prop where
  /-- Each of them comes to the same, whether it is run before the other or after it. -/
  former : (first.run (second.run state).2).1 = (first.run state).1
  latter : (second.run (first.run state).2).1 = (second.run state).1
  world : Alike (second.run (first.run state).2).2.world (first.run (second.run state).2).2.world
  metrics : Option.Rel Metrics.SameCounts (second.run (first.run state).2).2.metrics
    (first.run (second.run state).2).2.metrics

end MemoryWorld

/-- A pass that is called for, counted with the time that it takes. -/
def PassCall.monitored (call : PassCall) (seconds : Float) : Action (Monitored MemoryWorld) PassOutcome :=
  runMonitoredPass MemoryWorld.collaborators call.settings seconds call.cluster

/-- A pass is counted by what it comes to. -/
theorem PassCall.run_monitored {call : PassCall} {world after : MemoryWorld} {result : PassResult}
    (run : (runPass MemoryWorld.collaborators call.settings call.cluster).run world = (result, after)) (seconds : Float)
    (metrics : Option Metrics) :
    (call.monitored seconds).run ⟨world, metrics⟩ =
      (result, ⟨after, metrics.map fun counted => counted.recordPass seconds result⟩) := by
  simp only [monitored, runMonitoredPass, run]

/--
Passes in different namespaces are independent of each other, unless there is a limit on terminations or a race.

They can be run in either order, and nothing that stands outside the namespace of a pass has a part in its result.
-/
theorem passes_elsewhere_are_independent {state : Monitored MemoryWorld} (free : state.world.Unhindered) :
    (∀ (first second : PassCall) (seconds others : Float),
      first.target.namespaceName ≠ second.target.namespaceName →
        MemoryWorld.Interchange (first.monitored seconds) (second.monitored others) state) ∧
    ∀ (call : PassCall) (seconds : Float) (other : Monitored MemoryWorld), other.world.Unhindered →
      MemoryWorld.SameIn call.target.namespaceName state.world other.world →
        ((call.monitored seconds).run other).1 = ((call.monitored seconds).run state).1 := by
  -- The worlds do not depend on what is counted, and what is counted depends on the results.
  obtain ⟨world, metrics⟩ := state
  refine ⟨fun first second seconds others apart => ?interchange, fun call seconds other otherFree same => ?blind⟩
  case interchange =>
    obtain ⟨result, answer, middle, between, left, right, ran, ranThen, instead, insteadThen, alike⟩ :=
      (MemoryWorld.confined_runPass first.settings first.cluster).comm
        (MemoryWorld.confined_runPass second.settings second.cluster) apart free
    have firstRun := PassCall.run_monitored ran seconds metrics
    have secondRun := PassCall.run_monitored instead others metrics
    refine ⟨?_, ?_, ?_, ?_⟩
    · rw [firstRun, secondRun, PassCall.run_monitored insteadThen]
    · rw [firstRun, secondRun, PassCall.run_monitored ranThen]
    · rw [firstRun, secondRun, PassCall.run_monitored ranThen, PassCall.run_monitored insteadThen]
      exact alike
    · rw [firstRun, secondRun, PassCall.run_monitored ranThen, PassCall.run_monitored insteadThen]
      -- The two results are counted in either order, if anything is counted at all.
      cases metrics with
      | none => exact .none
      | some counted => exact .some (counted.sameCounts_recordPass_comm seconds others result answer)
  case blind =>
    obtain ⟨result, deed, -, run⟩ := MemoryWorld.confined_runPass call.settings call.cluster world free
    -- Both worlds are the same as the first as far as the namespace is concerned.
    exact (congrArg Prod.fst (run other.world otherFree same)).trans
      (congrArg Prod.fst (run world free (.refl _ _))).symm

/-- A pass for a cluster of the given namespace. -/
def namespaceCall (namespaceName : String) : PassCall :=
  ⟨.standard, { metadata := { name := some "a", namespaceName := some namespaceName, uid := some "1" } }⟩

/-- The labels of a pod that depends on the settings. -/
def dependentLabels : TextMap := (∅ : TextMap).insert "app" "rook-ceph-operator"

/-- A world without config maps, in which the dependents of two namespaces came up in turn. -/
def mixedWorld : MemoryWorld :=
  { MemoryWorld.empty none with
    pods := ((MemoryPods.empty.add ⟨"north", "x"⟩ dependentLabels).add ⟨"south", "x"⟩ dependentLabels).add
      ⟨"north", "y"⟩ dependentLabels }

/-- A world with the same dependent in the south, and nothing but a config map in the north. -/
def southernWorld : MemoryWorld :=
  { MemoryWorld.empty none with
    store := MemoryStore.empty.insert (.fresh ⟨"ocs-operator-config", "north"⟩)
    pods := MemoryPods.empty.add ⟨"south", "x"⟩ dependentLabels }

/-- Two passes come to the same in either order, though not to the same versions nor the same order of terminations. -/
theorem passes_elsewhere_are_independent_mixed :
    mixedWorld.Unhindered ∧
    (namespaceCall "north").target.namespaceName ≠ (namespaceCall "south").target.namespaceName ∧
    MemoryWorld.Interchange ((namespaceCall "north").monitored 1) ((namespaceCall "south").monitored 2)
      ⟨mixedWorld, some .empty⟩ ∧
    (∃ left right,
      (((namespaceCall "south").monitored 2).run
        (((namespaceCall "north").monitored 1).run ⟨mixedWorld, some .empty⟩).2).2.world = left ∧
      (((namespaceCall "north").monitored 1).run
        (((namespaceCall "south").monitored 2).run ⟨mixedWorld, some .empty⟩).2).2.world = right ∧
      (left.store.objects ⟨"ocs-operator-config", "north"⟩).bind ConfigMap.version = some "1" ∧
      (right.store.objects ⟨"ocs-operator-config", "north"⟩).bind ConfigMap.version = some "2" ∧
      left.pods.terminated.map PodRef.render = ["north/x", "north/y", "south/x"] ∧
      right.pods.terminated.map PodRef.render = ["south/x", "north/x", "north/y"]) ∧
    southernWorld.Unhindered ∧ MemoryWorld.SameIn "south" mixedWorld southernWorld ∧
    (((namespaceCall "south").monitored 2).run ⟨southernWorld, none⟩).1 =
      (((namespaceCall "south").monitored 2).run ⟨mixedWorld, some .empty⟩).1 := by
  have free : mixedWorld.Unhindered := ⟨rfl, rfl⟩
  have southernFree : southernWorld.Unhindered := ⟨rfl, rfl⟩
  have apart : (namespaceCall "north").target.namespaceName ≠ (namespaceCall "south").target.namespaceName := by decide
  have same : MemoryWorld.SameIn "south" mixedWorld southernWorld := by
    refine ⟨fun key there => ?_, rfl, rfl, rfl, rfl, rfl⟩
    -- The config map that one of the worlds has more is not in the south.
    have other : key ≠ (ConfigMap.fresh ⟨"ocs-operator-config", "north"⟩).key := by
      rintro rfl
      exact absurd there (by decide)
    exact (MemoryStore.objects_insert_of_ne other MemoryStore.empty).symm
  have counted : (⟨mixedWorld, some .empty⟩ : Monitored MemoryWorld).world.Unhindered := free
  obtain ⟨interchange, blind⟩ := passes_elsewhere_are_independent counted
  exact ⟨free, apart, interchange _ _ 1 2 apart, ⟨_, _, rfl, rfl, rfl, rfl, rfl, rfl⟩, southernFree, same,
    blind (namespaceCall "south") 2 ⟨southernWorld, none⟩ southernFree same⟩

end StorageConfig
