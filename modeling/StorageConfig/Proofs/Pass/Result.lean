import StorageConfig.Proofs.Pass.Atomicity

/-! What the result of a pass tells: how often the pass wrote, which pods it restarted, and how far it got with them. -/

namespace StorageConfig

/-- What a pass comes to. -/
abbrev PassResult := Except Failure PassOutcome

namespace PassResult

/-- Whether the pass wrote its config map. -/
def wrote : PassResult → Bool
  | .ok outcome => outcome.changed
  | .error _ => false

/-- The report of the restart, if the pass restarted anything. -/
def report? : PassResult → Option RestartReport
  | .ok outcome => outcome.restart
  | .error _ => none

/-- How many pods the pass terminated. -/
def terminated (result : PassResult) : Nat := ((report? result).map RestartReport.terminated).getD 0

/-- Whether the restart of the pass was cut short. -/
def wasAborted (result : PassResult) : Bool := (report? result).any RestartReport.aborted

end PassResult

namespace MemoryWorld

/-- What a pass finds counts no write of its own. -/
@[simp] theorem writes_found (cluster : StorageCluster) (world : MemoryWorld) :
    (world.found cluster).store.writes = world.store.writes := by
  -- What others were waiting to store is not counted as a write.
  unfold found
  split
  · exact world.writes_served
  · rfl

variable (settings : Settings) (cluster : StorageCluster) (world : MemoryWorld)

/-- A pass has written once if its result says so, and else not at all. -/
theorem writes_runPass :
    ((runPass collaborators settings cluster).run world).2.store.writes =
      world.store.writes + (PassResult.wrote ((runPass collaborators settings cluster).run world).1).toNat := by
  cases run : (runPass collaborators settings cluster).run world with
  | mk result after =>
    cases result with
    | error failure =>
      -- A pass that fails leaves at most what others were waiting to store.
      rw [runPass_error run]
      exact writes_found cluster world
    | ok outcome =>
      obtain ⟨owner, plan, -, -, done⟩ := runPass_ok_served run
      rw [PassResult.wrote]
      cases changed : outcome.changed with
      | false =>
        rw [done.after_eq_of_unchanged changed, writes_served]
        rfl
      | true =>
        rw [done.writes_of_changed changed, writes_served]
        rfl

/-- A pass that wrote has restarted the pods of its namespace, and any other has left them alone. -/
theorem restart_runPass :
    PassResult.report? ((runPass collaborators settings cluster).run world).1 =
      (if PassResult.wrote ((runPass collaborators settings cluster).run world).1 then
        some (world.pods.restartReport (settings.targetOf cluster).namespaceName settings.dependents) else none) ∧
    ((runPass collaborators settings cluster).run world).2.pods =
      if PassResult.wrote ((runPass collaborators settings cluster).run world).1 then
        world.pods.culled (world.pods.doomed (settings.targetOf cluster).namespaceName settings.dependents)
      else world.pods := by
  cases run : (runPass collaborators settings cluster).run world with
  | mk result after =>
    cases result with
    | error failure =>
      -- A pass that fails has not come to the pods.
      rw [runPass_error run, pods_found]
      exact ⟨rfl, rfl⟩
    | ok outcome => exact runPass_ok_pods run

/-- A pass has terminated as many pods as its result says. -/
theorem terminated_runPass :
    ((runPass collaborators settings cluster).run world).2.pods.terminated.length =
      world.pods.terminated.length +
        PassResult.terminated ((runPass collaborators settings cluster).run world).1 := by
  obtain ⟨report, pods⟩ := restart_runPass settings cluster world
  rw [pods, PassResult.terminated, report]
  -- The report counts those pods that were doomed.
  split
  · simp [MemoryPods.culled, MemoryPods.terminated_restartReport]
  · rfl

/-- Only a pass that wrote has a restart to be cut short. -/
theorem wrote_of_wasAborted
    (aborted : PassResult.wasAborted ((runPass collaborators settings cluster).run world).1 = true) :
    PassResult.wrote ((runPass collaborators settings cluster).run world).1 = true := by
  by_cases wrote : PassResult.wrote ((runPass collaborators settings cluster).run world).1 = true
  · exact wrote
  · -- Without a write there is no report.
    rw [PassResult.wasAborted, (restart_runPass settings cluster world).1, if_neg wrote] at aborted
    cases aborted

end MemoryWorld

end StorageConfig
