import StorageConfig.Proofs.Controller
import StorageConfig.Proofs.Memory.Event
import StorageConfig.Proofs.Metrics

/-! Over any session the metrics account for the passes that were run, for their writes and for the pods they took. -/

namespace StorageConfig

/-- One turn of a session in which passes are counted. -/
inductive MeteredTurn where
  | pass (seconds : Float) (cluster : StorageCluster)
  /-- The controller looks at a cluster, which means a pass unless the cluster is being deleted. -/
  | look (seconds : Float) (cluster : StorageCluster)
  /-- Others switch failures on or off, store something, change the identity or bring up a pod. -/
  | others (event : MemoryWorld.Event)
  /-- Someone gets ready to store something right after the next reading. -/
  | race (resource : ConfigMap)

namespace MeteredTurn

/-- The state after a turn. -/
def apply (settings : Settings) (state : Monitored MemoryWorld) : MeteredTurn → Monitored MemoryWorld
  | pass seconds cluster => ((runMonitoredPass MemoryWorld.collaborators settings seconds cluster).run state).2
  | look seconds cluster => ((controlCluster MemoryWorld.collaborators settings seconds cluster).run state).2
  | others event => { state with world := event.apply state.world }
  | race resource => { state with world := { state.world with queued := state.world.queued ++ [resource] } }

/-- The result of the pass that a turn runs, if it runs one. -/
def result? (settings : Settings) (state : Monitored MemoryWorld) : MeteredTurn → Option PassResult
  | pass _ cluster => some ((runPass MemoryWorld.collaborators settings cluster).run state.world).1
  | look _ cluster =>
    if cluster.isBeingDeleted then none
    else some ((runPass MemoryWorld.collaborators settings cluster).run state.world).1
  | others _ | race _ => none

/-- The state after a number of turns. -/
def run (settings : Settings) (turns : List MeteredTurn) (state : Monitored MemoryWorld) : Monitored MemoryWorld :=
  turns.foldl (apply settings) state

/-- The results of the passes that are run in a number of turns, in their order. -/
def results (settings : Settings) (state : Monitored MemoryWorld) : List MeteredTurn → List PassResult
  | [] => []
  | turn :: turns => (turn.result? settings state).toList ++ results settings (turn.apply settings state) turns

/-- A look at a cluster that is being deleted leaves world and metrics as they are. -/
theorem apply_look_of_deleted (settings : Settings) (state : Monitored MemoryWorld) (seconds : Float)
    {cluster : StorageCluster} (deleted : cluster.metadata.deletionTimestamp.isSome = true) :
    (look seconds cluster).apply settings state = state := by
  -- Such a look calls nobody, and so counts nothing.
  rw [apply, controlCluster_of_deleted _ settings seconds deleted]
  rfl

/-- A look at any other cluster comes to what a pass for it comes to. -/
theorem apply_look_of_present (settings : Settings) (state : Monitored MemoryWorld) (seconds : Float)
    {cluster : StorageCluster} (present : cluster.metadata.deletionTimestamp = none) :
    (look seconds cluster).apply settings state = (pass seconds cluster).apply settings state := by
  change ((controlCluster MemoryWorld.collaborators settings seconds cluster).run state).2 = _
  rw [run_controlCluster _ settings seconds present]
  rfl

end MeteredTurn

/-- World and metrics are what the passes so far have made of them. -/
structure Accounted (state : Monitored MemoryWorld) (results : List PassResult) : Prop where
  counted : ∃ metrics, state.metrics = some metrics ∧ metrics.Tallies results
  writes : state.world.store.writes = results.countP PassResult.wrote
  terminated : state.world.pods.terminated.length = (results.map PassResult.terminated).sum
  wrote : ∀ result ∈ results, result.wasAborted = true → result.wrote = true

namespace Accounted

variable {settings : Settings} {state : Monitored MemoryWorld} {results : List PassResult}

/-- Before the first turn there is nothing to account for. -/
theorem start (identity : Option String) : Accounted ⟨.empty identity, some .empty⟩ [] :=
  ⟨⟨.empty, rfl, Metrics.tallies_empty⟩, rfl, rfl, nofun⟩

/-- What touches neither writes nor terminations needs no account. -/
theorem of_world (accounted : Accounted state results) {world : MemoryWorld}
    (writes : world.store.writes = state.world.store.writes)
    (terminated : world.pods.terminated = state.world.pods.terminated) :
    Accounted { state with world } results :=
  ⟨accounted.counted, writes.trans accounted.writes,
    (congrArg List.length terminated).trans accounted.terminated, accounted.wrote⟩

/-- A pass is accounted for by its result. -/
theorem pass (accounted : Accounted state results) (seconds : Float) (cluster : StorageCluster) :
    Accounted ((MeteredTurn.pass seconds cluster).apply settings state)
      (results ++ [((runPass MemoryWorld.collaborators settings cluster).run state.world).1]) := by
  obtain ⟨metrics, known, tallies⟩ := accounted.counted
  refine ⟨⟨_, congrArg (Option.map _) known, tallies.recordPass seconds _⟩, ?writes, ?terminated, ?wrote⟩
  case writes =>
    rw [countP_concat, ← accounted.writes]
    exact state.world.writes_runPass settings cluster
  case terminated =>
    rw [List.map_append, List.sum_append, ← accounted.terminated, List.map_singleton, List.sum_singleton]
    exact state.world.terminated_runPass settings cluster
  case wrote =>
    intro result member
    -- The result is one of those before or that of this pass.
    rcases List.mem_append.1 member with earlier | last
    · exact accounted.wrote result earlier
    · obtain rfl := List.mem_singleton.1 last
      exact state.world.wrote_of_wasAborted settings cluster

/-- Every turn is accounted for by the pass that it runs, if it runs one. -/
theorem apply (accounted : Accounted state results) (turn : MeteredTurn) :
    Accounted (turn.apply settings state) (results ++ (turn.result? settings state).toList) := by
  cases turn with
  | pass seconds cluster => exact accounted.pass seconds cluster
  | look seconds cluster =>
    -- A pass is run only for a cluster that stays.
    cases given : cluster.metadata.deletionTimestamp with
    | some time =>
      have deleted : cluster.isBeingDeleted = true := by simp [StorageCluster.isBeingDeleted, given]
      rw [MeteredTurn.apply_look_of_deleted settings state seconds deleted, MeteredTurn.result?, if_pos deleted,
        Option.toList_none, List.append_nil]
      exact accounted
    | none =>
      have stays : ¬ cluster.isBeingDeleted = true := by simp [StorageCluster.isBeingDeleted, given]
      rw [MeteredTurn.apply_look_of_present settings state seconds given, MeteredTurn.result?, if_neg stays]
      exact accounted.pass seconds cluster
  | others event =>
    -- No event writes on behalf of a pass, and none terminates a pod.
    rw [MeteredTurn.result?, Option.toList_none, List.append_nil]
    exact accounted.of_world (by cases event <;> rfl) (by cases event <;> rfl)
  | race resource =>
    rw [MeteredTurn.result?, Option.toList_none, List.append_nil]
    exact accounted.of_world rfl rfl

/-- A session is accounted for by the passes that are run in it, after those that were run before. -/
theorem run (accounted : Accounted state results) (turns : List MeteredTurn) :
    Accounted (MeteredTurn.run settings turns state) (results ++ MeteredTurn.results settings state turns) := by
  -- The induction is on the turns, and the results of each join those before it.
  induction turns generalizing state results with
  | nil =>
    rw [MeteredTurn.results, List.append_nil]
    exact accounted
  | cons turn turns ih =>
    rw [MeteredTurn.results, ← List.append_assoc]
    exact ih (accounted.apply turn)

end Accounted

/-- What metrics have to say of the passes that were run and of the world that they were run in. -/
structure Metrics.AccountsFor (metrics : Metrics) (results : List PassResult) (world : MemoryWorld) : Prop where
  passes : metrics.passCount "changed" + metrics.passCount "unchanged" + metrics.passCount "error" =
    UInt64.ofNat results.length
  observed : metrics.duration.count = UInt64.ofNat results.length
  changed : metrics.passCount "changed" = UInt64.ofNat world.store.writes
  podsRestarted : metrics.podsRestarted = UInt64.ofNat world.pods.terminated.length
  restartsAborted : metrics.restartsAborted =
    UInt64.ofNat (results.countP fun result => result.wrote && result.wasAborted)
  /-- As long as the number of passes fits into a word, no counter of passes has started again at zero. -/
  numbers : results.length < UInt64.size →
    (metrics.passCount "changed").toNat + (metrics.passCount "unchanged").toNat
        + (metrics.passCount "error").toNat = results.length ∧
      metrics.duration.count.toNat = results.length ∧
      (metrics.passCount "changed").toNat = world.store.writes ∧
      metrics.restartsAborted.toNat = results.countP fun result => result.wrote && result.wasAborted

/-- The passes that count as changes are those that wrote. -/
theorem Metrics.Tallies.changed {metrics : Metrics} {results : List PassResult} (tallies : metrics.Tallies results) :
    metrics.passCount "changed" = UInt64.ofNat (results.countP PassResult.wrote) := by
  rw [tallies.passes, funext outcomeName_beq_changed]

/-- A count among fewer results than words fits into a word. -/
theorem toNat_ofNat_countP {results : List PassResult} (room : results.length < UInt64.size)
    (counted : PassResult → Bool) : (UInt64.ofNat (results.countP counted)).toNat = results.countP counted :=
  UInt64.toNat_ofNat_of_lt' (Nat.lt_of_le_of_lt List.countP_le_length room)

/-- Metrics that have kept up with the passes account for them. -/
theorem Accounted.accountsFor {state : Monitored MemoryWorld} {results : List PassResult}
    (accounted : Accounted state results) :
    ∃ metrics, state.metrics = some metrics ∧ metrics.AccountsFor results state.world := by
  obtain ⟨metrics, known, tallies⟩ := accounted.counted
  have aborted : metrics.restartsAborted =
      UInt64.ofNat (results.countP fun result => result.wrote && result.wasAborted) := by
    -- A restart that was cut short follows a write, so that asking for the write makes no difference.
    rw [tallies.restartsAborted]
    congr 1
    refine List.countP_congr fun result member => ?_
    by_cases cut : result.wasAborted = true
    · simp [cut, accounted.wrote result member cut]
    · simp [cut]
  refine ⟨metrics, known, ⟨?passes, tallies.observed, ?changed, ?podsRestarted, aborted, fun room => ?numbers⟩⟩
  case passes =>
    -- The three outcomes are added up before they are cut to a word.
    rw [tallies.passes, tallies.passes, tallies.passes, ← UInt64.ofNat_add, ← UInt64.ofNat_add,
      Metrics.countP_outcomes]
  case changed => rw [tallies.changed, accounted.writes]
  case podsRestarted => rw [tallies.podsRestarted, accounted.terminated]
  case numbers =>
    -- No count among the passes exceeds their number.
    refine ⟨?_, ?_, ?_, ?_⟩
    · simp only [tallies.passes, toNat_ofNat_countP room]
      exact Metrics.countP_outcomes results
    · rw [tallies.observed, UInt64.toNat_ofNat_of_lt' room]
    · rw [tallies.changed, toNat_ofNat_countP room, accounted.writes]
    · rw [aborted, toNat_ofNat_countP room]

/--
In every session the metrics account for the passes that were run.

Counters are words of 64 bits, and a look at a cluster that is being deleted moves none of them.
-/
theorem metrics_account_for_passes (settings : Settings) (identity : Option String) (turns : List MeteredTurn) :
    ∃ metrics, (MeteredTurn.run settings turns ⟨.empty identity, some .empty⟩).metrics = some metrics ∧
      metrics.AccountsFor (MeteredTurn.results settings ⟨.empty identity, some .empty⟩ turns)
        (MeteredTurn.run settings turns ⟨.empty identity, some .empty⟩).world ∧
      ∀ seconds cluster, cluster.metadata.deletionTimestamp.isSome = true →
        MeteredTurn.run settings (turns ++ [.look seconds cluster]) ⟨.empty identity, some .empty⟩ =
          MeteredTurn.run settings turns ⟨.empty identity, some .empty⟩ := by
  -- At the start nothing has been counted, so that the results of the session are all there are.
  have accounted : Accounted (MeteredTurn.run settings turns ⟨.empty identity, some .empty⟩)
      (MeteredTurn.results settings ⟨.empty identity, some .empty⟩ turns) := (Accounted.start identity).run turns
  obtain ⟨metrics, known, accounts⟩ := accounted.accountsFor
  refine ⟨metrics, known, accounts, fun seconds cluster deleted => ?_⟩
  -- The look is the last turn, and finds nothing to do.
  rw [MeteredTurn.run, MeteredTurn.run, List.foldl_append]
  exact MeteredTurn.apply_look_of_deleted settings _ seconds deleted

/-- A session with a restart that is cut short, a pass that cannot write, and a look at a cluster on its way out. -/
def interruptedSession : List MeteredTurn :=
  let labels := (∅ : TextMap).insert "app" "rook-ceph-operator"
  [.others (.addPod ⟨"openshift-storage", "rook-a"⟩ labels), .others (.addPod ⟨"openshift-storage", "rook-b"⟩ labels),
    .others (.limitTerminations (some 1)), .race (.fresh ⟨"other", "openshift-storage"⟩),
    .pass 1 { metadata := { name := some "a", uid := some "1" } }, .others (.setIdentity (some "cluster-1")),
    .others (.failWrites true), .look 1 { metadata := { name := some "a", uid := some "1" } }, .look 1 departingCluster]

/-- The pass that wrote and the one that could not are counted, and so is the one pod that was terminated. -/
theorem metrics_account_for_passes_interrupted :
    ∃ metrics, (MeteredTurn.run .standard interruptedSession ⟨.empty none, some .empty⟩).metrics = some metrics ∧
      metrics.passCount "changed" = 1 ∧ metrics.duration.count = 2 ∧ metrics.podsRestarted = 1 ∧
      metrics.restartsAborted = 1 := by
  obtain ⟨metrics, known, accounts, -⟩ := metrics_account_for_passes .standard none interruptedSession
  exact ⟨metrics, known, accounts.changed, accounts.observed, accounts.podsRestarted, accounts.restartsAborted⟩

end StorageConfig
