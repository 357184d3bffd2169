import StorageConfig.Proofs.Memory.Event
import StorageConfig.Proofs.Memory.Interplay
import StorageConfig.Proofs.Pass

/-! Passes on a world in memory, in any order with each other and with what others do. -/

namespace StorageConfig

/-- A pass to run: how the operator is set up, and the cluster that the pass is for. -/
structure PassCall where
  settings : Settings
  cluster : StorageCluster

/-- The key of the config map that a pass brings in line. -/
def PassCall.target (call : PassCall) : ResourceKey := call.settings.targetOf call.cluster

/-- Passes on a world in memory, split after their readings, among the events of that world. -/
def passing : StoreInterplay PassCall PassReading PassOutcome MemoryWorld.Event where
  read call := readForPass MemoryWorld.collaborators call.settings call.cluster
  follow call reading := finishPass MemoryWorld.collaborators call.settings call.cluster reading
  apply event world := event.apply world
  target := PassCall.target
  wrote := PassOutcome.changed
  inserted := MemoryWorld.Event.inserted
  read_world call world alone := by rw [MemoryWorld.run_readForPass alone]
  follow_ok call reading world outcome after ok := by
    obtain ⟨plan, done⟩ := MemoryWorld.finishPass_ok ok
    -- Restarting pods does not touch the store.
    rw [done.after_eq, done.changed]
    exact WritePlan.stepsTo_applied done.merges world.store
  follow_error call reading world failure after failed := MemoryWorld.finishPass_error failed
  follow_queued call reading world := by
    cases run : (finishPass MemoryWorld.collaborators call.settings call.cluster reading).run world with
    | mk result after =>
      cases result with
      | ok outcome =>
        obtain ⟨plan, done⟩ := MemoryWorld.finishPass_ok run
        rw [done.after_eq]
      | error failure => rw [MemoryWorld.finishPass_error run]
  apply_steps event world := event.stepsTo_apply world
  apply_queued event world := event.queued_apply world

/-- A pass carried through without interruption is the pass itself. -/
theorem whole_passing (call : PassCall) :
    passing.whole call = runPass MemoryWorld.collaborators call.settings call.cluster :=
  (runPass_eq MemoryWorld.collaborators call.settings call.cluster).symm

/-- A world in memory, and the passes that have been started in it. -/
abbrev PassSession := Session MemoryWorld PassCall PassReading PassOutcome

/-- A step among passes. -/
abbrev PassMove := Move PassCall MemoryWorld.Event

/-- A move does not insert anything under a key. -/
def PassMove.Spares (key : ResourceKey) (move : PassMove) : Prop :=
  ∀ event, move = .others event → event.inserted ≠ some key

/-- A pass that has just started goes by what the world holds, for the owner that its cluster is. -/
theorem eq_passReading_of_started {world : MemoryWorld} (alone : world.queued = []) {call : PassCall}
    {reading : PassReading}
    (started : Stage.underway reading = (.ofReading ((passing.read call).run world).1 : Stage _ PassOutcome)) :
    ∃ owner, call.cluster.owner = .ok owner ∧
      reading = world.passReading call.settings call.cluster owner := by
  have read : (passing.read call).run world = _ := MemoryWorld.run_readForPass alone call.settings call.cluster
  rw [read] at started
  -- A pass that could not read would have ended.
  split at started
  · cases started
  · cases started
  · rename_i owner owned _
    cases started
    exact ⟨owner, owned, rfl⟩

end StorageConfig
