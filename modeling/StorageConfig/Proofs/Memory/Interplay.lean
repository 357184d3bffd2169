import StorageConfig.Proofs.Interleaving
import StorageConfig.Proofs.Memory.World

/-! Interleaved operations on a world in memory: which keys a run stores under, and when a reading has gone stale. -/

namespace StorageConfig

/-- Operations of two steps on a world in memory, each of which stores at most once, under a key of its own. -/
structure StoreInterplay (κ ρ α ε : Type) extends Interplay MemoryWorld κ ρ α ε where
  /-- The key that a task writes to, if it writes. -/
  target : κ → ResourceKey
  /-- Whether a task that succeeded has written. -/
  wrote : α → Bool
  /-- The key that an event stores under, if it does. -/
  inserted : ε → Option ResourceKey
  /-- Where nobody is waiting to write, a reading changes nothing. -/
  read_world : ∀ task world, world.queued = [] → ((read task).run world).2 = world
  /-- A second step that succeeds stores as its result tells. -/
  follow_ok : ∀ task reading world result after, (follow task reading).run world = (.ok result, after) →
    MemoryStore.StepsTo world.store after.store (if wrote result then some (target task) else none)
  /-- A second step that fails changes nothing. -/
  follow_error : ∀ task reading world failure after,
    (follow task reading).run world = (.error failure, after) → after = world
  /-- A second step leaves nobody waiting to write. -/
  follow_queued : ∀ task reading world, ((follow task reading).run world).2.queued = world.queued
  /-- An event stores as it says. -/
  apply_steps : ∀ event world, MemoryStore.StepsTo world.store (apply event world).store (inserted event)
  /-- An event leaves nobody waiting to write. -/
  apply_queued : ∀ event world, (apply event world).queued = world.queued

namespace StoreInterplay

variable {κ ρ α ε : Type} (rules : StoreInterplay κ ρ α ε)

/-- The key that a move stores under, if it stores anything. -/
def storedKey (session : Session MemoryWorld κ ρ α) : Move κ ε → Option ResourceKey
  | .start _ => none
  | .resume index =>
    match session.tasks[index]? with
    | some (task, .underway reading) =>
      match ((rules.follow task reading).run session.world).1 with
      | .ok result => if rules.wrote result then some (rules.target task) else none
      | .error _ => none
    | _ => none
  | .others event => rules.inserted event

/-- The keys that a run stores under, in order; each costs one version. -/
def storedKeys (session : Session MemoryWorld κ ρ α) : List (Move κ ε) → List ResourceKey
  | [] => []
  | move :: moves =>
    (rules.storedKey session move).toList ++ storedKeys (rules.step session move) moves

/-- A run in two stretches stores what each of them stores. -/
theorem storedKeys_append (session : Session MemoryWorld κ ρ α) (first later : List (Move κ ε)) :
    rules.storedKeys session (first ++ later) =
      rules.storedKeys session first ++ rules.storedKeys (rules.run session first) later := by
  -- The second stretch begins in the session that the first one has led to.
  induction first generalizing session with
  | nil => rfl
  | cons move moves ih => simp [storedKeys, ih]

/-- Where nobody is waiting to write, starting a task leaves the world as it was. -/
theorem world_step_start {session : Session MemoryWorld κ ρ α} (alone : session.world.queued = []) (task : κ) :
    (rules.step session (.start task)).world = session.world := rules.read_world task session.world alone

/-- A move leaves the world as it was, or carries a task through, or is an event. -/
theorem world_step_cases {session : Session MemoryWorld κ ρ α} (alone : session.world.queued = [])
    (move : Move κ ε) :
    (rules.step session move).world = session.world ∨
    (∃ index task reading result, move = .resume index ∧
      session.tasks[index]? = some (task, .underway reading) ∧
      (rules.follow task reading).run session.world = (.ok result, (rules.step session move).world)) ∨
    ∃ event, move = .others event ∧ (rules.step session move).world = rules.apply event session.world := by
  cases move with
  | start task => exact .inl (rules.world_step_start alone task)
  | others event => exact .inr (.inr ⟨event, rfl, rfl⟩)
  | resume index =>
    by_cases underway : ∃ task reading, session.tasks[index]? = some (task, .underway reading)
    · -- A task that fails in its second step changes nothing either.
      obtain ⟨task, reading, waits⟩ := underway
      rw [Interplay.step_resume waits]
      cases run : (rules.follow task reading).run session.world with
      | mk result after =>
        cases result with
        | ok result => exact .inr (.inl ⟨index, task, reading, result, rfl, waits, run⟩)
        | error failure => exact .inl (rules.follow_error task reading session.world failure after run)
    · rw [Interplay.step_resume_of_not_underway underway]
      exact .inl rfl

variable {rules}

/-- A task that is not underway stores nothing. -/
theorem storedKey_of_not_underway {session : Session MemoryWorld κ ρ α} {index : Nat}
    (idle : ¬ ∃ task reading, session.tasks[index]? = some (task, .underway reading)) :
    rules.storedKey session (.resume index) = none := by
  -- The index either names no task or names one that has ended.
  rw [storedKey]
  split
  · rename_i task reading waits
    exact absurd ⟨task, reading, waits⟩ idle
  · rfl

/-- A move leaves nobody waiting to write. -/
theorem queued_step {session : Session MemoryWorld κ ρ α} (alone : session.world.queued = [])
    (move : Move κ ε) : (rules.step session move).world.queued = [] := by
  -- Nothing that can happen to the world fills the queue.
  rcases rules.world_step_cases alone move with same | ⟨_, task, reading, _, -, -, run⟩ | ⟨event, -, applied⟩
  · rw [same, alone]
  · have kept := rules.follow_queued task reading session.world
    rw [run] at kept
    exact kept.trans alone
  · rw [applied, rules.apply_queued, alone]

/-- A move changes the store by what it stores and by nothing else. -/
theorem stepsTo_step {session : Session MemoryWorld κ ρ α} (alone : session.world.queued = [])
    (move : Move κ ε) :
    MemoryStore.StepsTo session.world.store (rules.step session move).world.store
      (rules.storedKey session move) := by
  cases move with
  | start task =>
    -- A first step only reads.
    rw [rules.world_step_start alone task]
    exact .idle rfl rfl
  | resume index =>
    by_cases underway : ∃ task reading, session.tasks[index]? = some (task, .underway reading)
    · -- The result of the second step tells whether it has stored.
      obtain ⟨task, reading, waits⟩ := underway
      rw [Interplay.step_resume waits]
      simp only [storedKey, waits]
      cases run : (rules.follow task reading).run session.world with
      | mk result after =>
        cases result with
        | ok result => exact rules.follow_ok task reading session.world result after run
        | error failure =>
          rw [rules.follow_error task reading session.world failure after run]
          exact .idle rfl rfl
    · rw [Interplay.step_resume_of_not_underway underway, storedKey_of_not_underway underway]
      exact .idle rfl rfl
  | others event => exact rules.apply_steps event session.world

/-- A run changes the store by what it stores and by nothing else, and leaves nobody waiting to write. -/
theorem grows_run (rules : StoreInterplay κ ρ α ε) (session : Session MemoryWorld κ ρ α)
    (alone : session.world.queued = []) (moves : List (Move κ ε)) :
    MemoryStore.Grows session.world.store (rules.storedKeys session moves)
        (rules.run session moves).world.store ∧
      (rules.run session moves).world.queued = [] := by
  -- The induction is on the moves, and each of them leaves nobody waiting.
  induction moves generalizing session with
  | nil => exact ⟨.still _, alone⟩
  | cons move moves ih =>
    obtain ⟨growth, quiet⟩ := ih (rules.step session move) (queued_step alone move)
    exact ⟨.step (stepsTo_step alone move) growth, quiet⟩

/-- What every allowed move keeps up while versions last, a run of them keeps up. -/
theorem run_induction {kept : Session MemoryWorld κ ρ α → Prop} {allowed : Move κ ε → Prop}
    (alone : ∀ session, kept session → session.world.queued = [])
    (step : ∀ session move, kept session → allowed move →
      session.world.store.version.toNat + (rules.storedKey session move).toList.length < UInt64.size →
      kept (rules.step session move))
    {session : Session MemoryWorld κ ρ α} (start : kept session) (moves : List (Move κ ε))
    (every : ∀ move ∈ moves, allowed move)
    (room : session.world.store.version.toNat + (rules.storedKeys session moves).length < UInt64.size) :
    kept (rules.run session moves) := by
  induction moves generalizing session with
  | nil => exact start
  | cons move moves ih =>
    rw [storedKeys, List.length_append] at room
    -- The versions left after the move are those that it did not use up.
    have moved : MemoryStore.StepsTo session.world.store (rules.step session move).world.store
        (rules.storedKey session move) := stepsTo_step (alone session start) move
    have given := moved.version_eq (by omega)
    have next := step session move start (every move List.mem_cons_self) (by omega)
    exact ih next (fun later member => every later (List.mem_cons_of_mem move member)) (by omega)

end StoreInterplay

end StorageConfig
