import StorageConfig.Proofs.Pass

/-!
A pass under every mix of failures.

It restarts pods only after its one write, and leaves nothing behind if it fails.
-/

namespace StorageConfig

namespace MemoryWorld

/-- The world once its store has been read, in which everyone who waited to write has done so. -/
def served (world : MemoryWorld) : MemoryWorld :=
  { world with store := world.queued.foldl MemoryStore.insert world.store, queued := [] }

/-- What a pass for a cluster finds: those who wait to write do so once it has read, and it reads as an owner only. -/
def found (world : MemoryWorld) (cluster : StorageCluster) : MemoryWorld :=
  if cluster.metadata.uid.isSome && world.getFault.isNone then world.served else world

/-- Serving those who wait to write lets the store grow by their keys. -/
theorem grows_served (world : MemoryWorld) :
    world.store.Grows (world.queued.map ConfigMap.key) world.served.store :=
  .foldl_insert world.queued world.store

/-- Serving those who wait to write counts no write of one's own. -/
@[simp] theorem writes_served (world : MemoryWorld) : world.served.store.writes = world.store.writes :=
  world.store.writes_foldl_insert world.queued

/-- A cluster that cannot be an owner finds the world as it is. -/
theorem found_of_unowned {cluster : StorageCluster} {failure : Failure} (unowned : cluster.owner = .error failure)
    (world : MemoryWorld) : world.found cluster = world := by
  -- It has no uid, and so never comes to read.
  unfold StorageCluster.owner at unowned
  split at unowned
  · cases unowned
  · rename_i missing
    simp [found, missing]

/-- Reading the store lets those write who wait to, unless it fails. -/
theorem run_get_served (key : ResourceKey) (world : MemoryWorld) :
    (collaborators.get key).run world =
      match world.getFault with
      | some text => (.error (.internal text), world)
      | none => (.ok (world.store.objects key), world.served) := rfl

/-- A pass fails without an owner or on a failed reading, and else goes on in the world that has been served. -/
theorem run_runPass (settings : Settings) (cluster : StorageCluster) (world : MemoryWorld) :
    (runPass collaborators settings cluster).run world =
      match cluster.owner, world.getFault with
      | .error failure, _ => (.error failure, world)
      | .ok _, some text => (.error (.internal text), world)
      | .ok owner, none =>
        (finishPass collaborators settings cluster (world.passReading settings cluster owner)).run world.served := by
  rw [runPass_eq, readForPass]
  -- The owner comes first, then the identity, which never fails a pass, then the store.
  cases cluster.owner with
  | error failure => rfl
  | ok owner =>
    rw [Action.ofExcept_ok_bind, Action.bind_assoc,
      Action.run_bind_of_ok (run_resolveIdentity settings.identitySingleton world), Action.bind_assoc,
      Action.run_bind, run_get_served]
    cases world.getFault <;> rfl

/-- The second step of a pass fails exactly where its writing back does. -/
theorem finishPass_error_iff {settings : Settings} {cluster : StorageCluster} {reading : PassReading}
    {world : MemoryWorld} {failure : Failure} :
    ((finishPass collaborators settings cluster reading).run world).1 = .error failure ↔
      ((writeBack collaborators (settings.targetOf cluster) (reading.values.mergeInto reading.owner)
        reading.stored).run world).1 = .error failure := by
  cases run : (writeBack collaborators (settings.targetOf cluster) (reading.values.mergeInto reading.owner)
      reading.stored).run world with
  | mk result after =>
    cases result with
    | error cause =>
      rw [finishPass, Action.run_bind_of_error run]
      simp
    | ok outcome =>
      obtain ⟨plan, made, -, rfl, -⟩ := writeBack_ok run
      -- Neither keeping the config map nor the restart after a write can fail.
      by_cases writes : plan = .keep
      · subst writes
        rw [run_finishPass_of_keep made]
        exact iff_of_false (by simp) (by simp)
      · rw [run_finishPass_of_write writes run]
        exact iff_of_false (by simp) (by simp)

/-- Writing back overlooks what the store is not part of. -/
theorem overlooks_writeBack {change : MemoryWorld → MemoryWorld}
    (performs : ∀ plan : WritePlan, Action.Overlooks change (plan.perform collaborators))
    (key : ResourceKey) (mutation : Mutation) (stored : Option ConfigMap) :
    Action.Overlooks change (writeBack collaborators key mutation stored) :=
  (Action.overlooks_ofExcept _ _).bind fun plan => (performs plan).bind fun _ => Action.overlooks_ofExcept _ _

/-- A pass that can read goes on in the world that has been served. -/
theorem run_runPass_served {settings : Settings} {cluster : StorageCluster} {world : MemoryWorld} {owner : Owner}
    (owned : cluster.owner = .ok owner) (readable : world.getFault = none) :
    (runPass collaborators settings cluster).run world =
      (finishPass collaborators settings cluster (world.passReading settings cluster owner)).run world.served := by
  have run := run_runPass settings cluster world
  rw [owned, readable] at run
  exact run

/-- A pass that cannot read ends there and changes nothing. -/
theorem run_runPass_unreadable {settings : Settings} {cluster : StorageCluster} {world : MemoryWorld}
    {owner : Owner} {text : String} (owned : cluster.owner = .ok owner) (fault : world.getFault = some text) :
    (runPass collaborators settings cluster).run world = (.error (.internal text), world) := by
  have run := run_runPass settings cluster world
  rw [owned, fault] at run
  exact run

/-- A pass without an owner ends at once and changes nothing. -/
theorem run_runPass_unowned {settings : Settings} {cluster : StorageCluster} {failure : Failure}
    (unowned : cluster.owner = .error failure) (world : MemoryWorld) :
    (runPass collaborators settings cluster).run world = (.error failure, world) := by
  have run := run_runPass settings cluster world
  rw [unowned] at run
  exact run

/-- A pass that succeeds goes by what it read, and has carried out its plan in the world that has been served. -/
theorem runPass_ok_served {settings : Settings} {cluster : StorageCluster} {world after : MemoryWorld}
    {outcome : PassOutcome} (ok : (runPass collaborators settings cluster).run world = (.ok outcome, after)) :
    ∃ owner plan, cluster.owner = .ok owner ∧ world.getFault = none ∧
      PassDone (settings.targetOf cluster) (world.passReading settings cluster owner) plan world.served outcome
        after := by
  cases owned : cluster.owner with
  | error failure =>
    rw [run_runPass_unowned owned] at ok
    cases (Prod.mk.inj ok).1
  | ok owner =>
    rcases Option.eq_none_or_eq_some world.getFault with readable | ⟨text, fault⟩
    · rw [run_runPass_served owned readable] at ok
      obtain ⟨plan, done⟩ := finishPass_ok ok
      exact ⟨owner, plan, rfl, readable, done⟩
    · rw [run_runPass_unreadable owned fault] at ok
      cases (Prod.mk.inj ok).1

/-- A pass that succeeds restarts the pods of its namespace if it tells of a change, and else leaves them alone. -/
theorem runPass_ok_pods {settings : Settings} {cluster : StorageCluster} {world after : MemoryWorld}
    {outcome : PassOutcome} (ok : (runPass collaborators settings cluster).run world = (.ok outcome, after)) :
    outcome.restart = (if outcome.changed then
      some (world.pods.restartReport (settings.targetOf cluster).namespaceName settings.dependents) else none) ∧
    after.pods = if outcome.changed then
      world.pods.culled (world.pods.doomed (settings.targetOf cluster).namespaceName settings.dependents)
      else world.pods := by
  obtain ⟨owner, -, owned, readable, -⟩ := runPass_ok_served ok
  rw [run_runPass_served owned readable] at ok
  -- Those who waited to write did not touch the pods.
  have unserved : world.served.pods = world.pods := rfl
  rw [← unserved]
  exact finishPass_ok_pods ok

/-- Whether a pass fails, and with what, is the same whatever pods there are and however they fail. -/
theorem runPass_error_congr_pods (settings : Settings) (cluster : StorageCluster) (world : MemoryWorld)
    (pods : MemoryPods) (failure : Failure) :
    ((runPass collaborators settings cluster).run { world with pods }).1 = .error failure ↔
      ((runPass collaborators settings cluster).run world).1 = .error failure := by
  cases owned : cluster.owner with
  | error cause => rw [run_runPass_unowned owned, run_runPass_unowned owned]
  | ok owner =>
    rcases Option.eq_none_or_eq_some world.getFault with readable | ⟨text, fault⟩
    · -- Writing back is all that can fail, and it looks at the store only.
      have overlooks : Action.Overlooks (fun world => { world with pods }) (writeBack collaborators
          (settings.targetOf cluster) ((world.passReading settings cluster owner).values.mergeInto owner)
          (world.store.objects (settings.targetOf cluster))) :=
        overlooks_writeBack (fun plan => by cases plan <;> exact fun _ => rfl) _ _ _
      have other : ({ world with pods } : MemoryWorld).getFault = none := readable
      rw [run_runPass_served owned other, run_runPass_served owned readable, finishPass_error_iff,
        finishPass_error_iff]
      have same := congrArg Prod.fst (overlooks world.served)
      exact Iff.of_eq (congrArg (fun result => result = Except.error failure) same)
    · have other : ({ world with pods } : MemoryWorld).getFault = some text := fault
      rw [run_runPass_unreadable owned other, run_runPass_unreadable owned fault]

/-- The collaborators of the second step of a pass overlook the cluster identity. -/
theorem overlooks_finishPass (settings : Settings) (cluster : StorageCluster) (reading : PassReading)
    (identity : Option String) :
    Action.Overlooks (fun world => { world with identity }) (finishPass collaborators settings cluster reading) := by
  -- None of the operations that follow the reading looks at the identity.
  have terminates (pods : List PodRef) :
      Action.Overlooks (fun world : MemoryWorld => { world with identity })
        (terminateInTurn collaborators pods) := by
    induction pods with
    | nil => exact Action.overlooks_ofExcept _ _
    | cons pod pods ih =>
      refine Action.Overlooks.bind (Action.Overlooks.attempt fun _ => rfl) fun result => ?_
      cases result with
      | error failure => exact Action.overlooks_ofExcept _ _
      | ok done => exact ih.bind fun _ => Action.overlooks_ofExcept _ _
  have restarts : Action.Overlooks (fun world : MemoryWorld => { world with identity })
      (restartDependents collaborators (settings.targetOf cluster).namespaceName settings.dependents) := by
    refine Action.Overlooks.bind (Action.Overlooks.attempt fun _ => rfl) fun result => ?_
    cases result with
    | error failure => exact Action.overlooks_ofExcept _ _
    | ok pods => exact (terminates pods).bind fun _ => Action.overlooks_ofExcept _ _
  refine (overlooks_writeBack (fun plan => ?_) _ _ _).bind fun outcome => ?_
  · cases plan <;> exact fun _ => rfl
  · split
    · exact restarts.bind fun _ => Action.overlooks_ofExcept _ _
    · exact Action.overlooks_ofExcept _ _

end MemoryWorld

/-- What a pass has done to a world in memory, by how it ended. -/
structure PassEnd (settings : Settings) (cluster : StorageCluster) (world : MemoryWorld)
    (result : Except Failure PassOutcome) (after : MemoryWorld) : Prop where
  /-- A pass that fails has changed nothing, neither the store nor the pods. -/
  failed : ∀ failure, result = .error failure → after = world.found cluster
  /-- Neither has one that tells of no change, and it has not restarted anything. -/
  unchanged : ∀ outcome, result = .ok outcome → outcome.changed = false →
    after = world.found cluster ∧ outcome.restart = none
  /-- One that tells of a change has written once, under its target, and restarted. -/
  changed : ∀ outcome, result = .ok outcome → outcome.changed = true →
    outcome.restart.isSome ∧ ∃ resource, resource.key = settings.targetOf cluster ∧
      after = { world.found cluster with
        store := (world.found cluster).store.write resource, pods := after.pods }

/-- A pass that fails where it stands has ended as it should. -/
theorem PassEnd.of_error {settings : Settings} {cluster : StorageCluster} {world : MemoryWorld} {failure : Failure}
    (stays : world.found cluster = world) : PassEnd settings cluster world (.error failure) world := by
  refine ⟨fun _ _ => stays.symm, ?_, ?_⟩
  · rintro outcome ⟨⟩
  · rintro outcome ⟨⟩

namespace MemoryWorld

/-- The second step of a pass ends as it should. -/
theorem passEnd_finishPass {settings : Settings} {cluster : StorageCluster} {world : MemoryWorld} {owner : Owner}
    (owned : cluster.owner = .ok owner) (readable : world.getFault = none) (reading : PassReading) :
    PassEnd settings cluster world ((finishPass collaborators settings cluster reading).run world.served).1
      ((finishPass collaborators settings cluster reading).run world.served).2 := by
  -- An owner has a uid, so the pass has come to read the store.
  obtain ⟨uid, given, -⟩ := StorageCluster.eq_of_owner_ok owned
  have met : world.found cluster = world.served := by
    simp [found, given, readable]
  cases run : (finishPass collaborators settings cluster reading).run world.served with
  | mk result after =>
    constructor
    case failed =>
      rintro failure rfl
      rw [met]
      exact finishPass_error run
    case unchanged =>
      rintro outcome rfl same
      obtain ⟨plan, done⟩ := finishPass_ok run
      refine ⟨(done.after_eq_of_unchanged same).trans met.symm, ?_⟩
      have restarted := done.restart
      rw [← done.changed, same] at restarted
      exact Option.isSome_eq_false_iff.1 restarted |> Option.isNone_iff_eq_none.1
    case changed =>
      rintro outcome rfl differs
      obtain ⟨plan, done⟩ := finishPass_ok run
      have writes := done.changed_iff.1 differs
      refine ⟨done.restart.trans (done.changed.symm.trans differs), _, WritePlan.key_of_merges done.merges, ?_⟩
      have left := done.after_eq
      rw [WritePlan.applied_of_merges done.merges writes] at left
      rw [met]
      exact left

/-- A pass that fails leaves behind the world that it found. -/
theorem runPass_error {settings : Settings} {cluster : StorageCluster} {world after : MemoryWorld} {failure : Failure}
    (failed : (runPass collaborators settings cluster).run world = (.error failure, after)) :
    after = world.found cluster := by
  cases owned : cluster.owner with
  | error cause =>
    rw [run_runPass_unowned owned] at failed
    rw [found_of_unowned owned]
    exact (Prod.mk.inj failed).2.symm
  | ok owner =>
    rcases Option.eq_none_or_eq_some world.getFault with readable | ⟨text, fault⟩
    · -- An owner has a uid, so the pass has come to read the store.
      obtain ⟨uid, given, -⟩ := StorageCluster.eq_of_owner_ok owned
      rw [run_runPass_served owned readable] at failed
      rw [finishPass_error failed]
      simp [found, given, readable]
    · rw [run_runPass_unreadable owned fault] at failed
      simpa [found, fault] using (Prod.mk.inj failed).2.symm

/-- What a pass finds has the pods of the world. -/
@[simp] theorem pods_found (cluster : StorageCluster) (world : MemoryWorld) :
    (world.found cluster).pods = world.pods := by
  unfold found
  split <;> rfl

end MemoryWorld

/--
Whatever is made to fail, and whoever writes in between, a pass restarts pods only after its one write.

No failure of the pods fails it, an identity that cannot be read counts as empty, and a cluster without a uid
gets it nowhere near the store.
-/
theorem pass_restarts_only_after_write (settings : Settings) (cluster : StorageCluster) (world : MemoryWorld) :
    PassEnd settings cluster world ((runPass MemoryWorld.collaborators settings cluster).run world).1
      ((runPass MemoryWorld.collaborators settings cluster).run world).2 ∧
    (∀ pods failure,
      ((runPass MemoryWorld.collaborators settings cluster).run { world with pods }).1 = .error failure ↔
        ((runPass MemoryWorld.collaborators settings cluster).run world).1 = .error failure) ∧
    (runPass MemoryWorld.collaborators settings cluster).run { world with identity := none } =
      (((runPass MemoryWorld.collaborators settings cluster).run { world with identity := some "" }).1,
        { ((runPass MemoryWorld.collaborators settings cluster).run { world with identity := some "" }).2 with
          identity := none }) ∧
    (cluster.metadata.uid = none →
      ∃ text, (runPass MemoryWorld.collaborators settings cluster).run world = (.error (.internal text), world)) := by
  refine ⟨?ends, world.runPass_error_congr_pods settings cluster, ?identity, fun missing => ?unowned⟩
  case unowned =>
    have unowned : cluster.owner = .error (.internal
        ("StorageCluster " ++ cluster.displayName ++ " has no uid; it must be read from the API server")) := by
      rw [StorageCluster.owner, missing]
    exact ⟨_, MemoryWorld.run_runPass_unowned unowned world⟩
  case ends =>
    cases owned : cluster.owner with
    | error failure =>
      rw [MemoryWorld.run_runPass_unowned owned]
      exact .of_error (MemoryWorld.found_of_unowned owned world)
    | ok owner =>
      rcases Option.eq_none_or_eq_some world.getFault with readable | ⟨text, fault⟩
      · rw [MemoryWorld.run_runPass_served owned readable]
        exact MemoryWorld.passEnd_finishPass owned readable _
      · rw [MemoryWorld.run_runPass_unreadable owned fault]
        exact .of_error (by simp [MemoryWorld.found, fault])
  case identity =>
    cases owned : cluster.owner with
    | error failure => rw [MemoryWorld.run_runPass_unowned owned, MemoryWorld.run_runPass_unowned owned]
    | ok owner =>
      rcases Option.eq_none_or_eq_some world.getFault with readable | ⟨text, fault⟩
      · -- The pass reads the same either way, and looks at the identity no more.
        have silent : ({ world with identity := none } : MemoryWorld).getFault = none := readable
        have empty : ({ world with identity := some "" } : MemoryWorld).getFault = none := readable
        rw [MemoryWorld.run_runPass_served owned silent, MemoryWorld.run_runPass_served owned empty]
        exact MemoryWorld.overlooks_finishPass settings cluster _ none
          ({ world with identity := some "" } : MemoryWorld).served
      · have silent : ({ world with identity := none } : MemoryWorld).getFault = some text := fault
        have empty : ({ world with identity := some "" } : MemoryWorld).getFault = some text := fault
        rw [MemoryWorld.run_runPass_unreadable owned silent, MemoryWorld.run_runPass_unreadable owned empty]

/-- A config map that someone else is about to store. -/
def rivalMap : ConfigMap := ⟨⟨"ocs-operator-config", "openshift-storage"⟩, ∅, [], none⟩

/-- A world without a config map, in which one gets stored right after a pass has found none, and a pod runs. -/
def racedWorld : MemoryWorld :=
  { MemoryWorld.empty (some "cluster-1") with
    pods := MemoryPods.empty.add ⟨"openshift-storage", "rook"⟩ ((∅ : TextMap).insert "app" "rook-ceph-operator")
    queued := [rivalMap] }

/-- That world once the config map has been stored. -/
def outpacedWorld : MemoryWorld := { racedWorld with store := racedWorld.store.insert rivalMap, queued := [] }

/-- The cluster that passes are run for in it. -/
def racedCluster : StorageCluster := { metadata := { name := some "a", uid := some "1" } }

/--
The pass that comes too late leaves what was stored instead of it, and the next one writes and restarts the pod.

A pass without a uid leaves waiting even what was to be stored.
-/
theorem pass_restarts_only_after_write_raced :
    (runPass MemoryWorld.collaborators .standard racedCluster).run racedWorld =
      (.error (.alreadyExists "ConfigMap" "openshift-storage/ocs-operator-config"), outpacedWorld) ∧
    (∃ outcome after,
      (runPass MemoryWorld.collaborators .standard racedCluster).run outpacedWorld = (.ok outcome, after) ∧
      outcome.changed = true ∧ outcome.restart = some ⟨1, 1, false⟩ ∧
      after.pods.running = [] ∧ after.pods.terminated = [⟨"openshift-storage", "rook"⟩] ∧
      ∃ resource, resource.key = rivalMap.key ∧
        after = { outpacedWorld with store := outpacedWorld.store.write resource, pods := after.pods }) ∧
    ({ metadata := { name := some "a" } } : StorageCluster).metadata.uid = none ∧
    ∃ text, (runPass MemoryWorld.collaborators .standard { metadata := { name := some "a" } }).run racedWorld =
      (.error (.internal text), racedWorld) := by
  obtain ⟨late, run⟩ : ∃ late, (runPass MemoryWorld.collaborators .standard racedCluster).run racedWorld =
      (.error (.alreadyExists "ConfigMap" "openshift-storage/ocs-operator-config"), late) := ⟨_, rfl⟩
  have ends := (pass_restarts_only_after_write .standard racedCluster racedWorld).1
  rw [run] at ends
  have left : late = outpacedWorld := ends.failed _ rfl
  rw [left] at run
  -- Nobody waits to write any more, so that the next pass finds just what the first one left.
  obtain ⟨outcome, after, rerun, changed, report, running, terminated⟩ : ∃ outcome after,
      (runPass MemoryWorld.collaborators .standard racedCluster).run outpacedWorld = (.ok outcome, after) ∧
        outcome.changed = true ∧ outcome.restart = some ⟨1, 1, false⟩ ∧ after.pods.running = [] ∧
        after.pods.terminated = [⟨"openshift-storage", "rook"⟩] := ⟨_, _, rfl, rfl, rfl, rfl, rfl⟩
  have goesOn := (pass_restarts_only_after_write .standard racedCluster outpacedWorld).1
  rw [rerun] at goesOn
  obtain ⟨-, written⟩ := goesOn.changed outcome rfl changed
  have unowned := (pass_restarts_only_after_write .standard { metadata := { name := some "a" } } racedWorld).2.2.2
  exact ⟨run, ⟨outcome, after, rerun, changed, report, running, terminated, written⟩, rfl, unowned rfl⟩

end StorageConfig
