import StorageConfig.Collaborators

/-! Operations of two steps on one world, a reading and what follows from it, in any order with each other. -/

namespace StorageConfig

/-- Operations of two steps, and what others may do to the world in between. -/
structure Interplay (σ κ ρ α ε : Type) where
  /-- The first step of a task, up to and including its reading. -/
  read : κ → Action σ ρ
  /-- The second step of a task, which goes by what was read. -/
  follow : κ → ρ → Action σ α
  /-- What an event outside the tasks does. -/
  apply : ε → σ → σ

/-- How far a task has come. -/
inductive Stage (ρ α : Type) where
  /-- The first step is done, the second is still to come. -/
  | underway (reading : ρ)
  | ended (result : Except Failure α)

/-- A task that could not read has ended. -/
def Stage.ofReading {ρ α : Type} : Except Failure ρ → Stage ρ α
  | .ok reading => .underway reading
  | .error failure => .ended (.error failure)

/-- A world, and the tasks that have been started in it, in the order in which they were. -/
structure Session (σ κ ρ α : Type) where
  world : σ
  tasks : List (κ × Stage ρ α)

/-- A session in which no task has been started. -/
def Session.opening {σ κ ρ α : Type} (world : σ) : Session σ κ ρ α := ⟨world, []⟩

/-- One atomic step of a session. -/
inductive Move (κ ε : Type) where
  /-- A task takes its first step. -/
  | start (task : κ)
  /-- The task of an index takes its second step. -/
  | resume (index : Nat)
  /-- Something happens outside the tasks. -/
  | others (event : ε)

namespace Interplay

variable {σ κ ρ α ε : Type} (rules : Interplay σ κ ρ α ε)

/-- A task carried through without interruption. -/
def whole (task : κ) : Action σ α := rules.read task >>= rules.follow task

/-- The session after one move; a task that is not underway cannot go on. -/
def step (session : Session σ κ ρ α) : Move κ ε → Session σ κ ρ α
  | .start task =>
    let (result, after) := (rules.read task).run session.world
    ⟨after, session.tasks ++ [(task, .ofReading result)]⟩
  | .resume index =>
    match session.tasks[index]? with
    | some (task, .underway reading) =>
      let (result, after) := (rules.follow task reading).run session.world
      ⟨after, session.tasks.set index (task, .ended result)⟩
    | _ => session
  | .others event => { session with world := rules.apply event session.world }

/-- The session after a run of moves. -/
def run (session : Session σ κ ρ α) (moves : List (Move κ ε)) : Session σ κ ρ α :=
  moves.foldl rules.step session

/-- A run takes its first move and then the others. -/
@[simp] theorem run_cons (session : Session σ κ ρ α) (move : Move κ ε) (moves : List (Move κ ε)) :
    rules.run session (move :: moves) = rules.run (rules.step session move) moves := rfl

/-- A run in two stretches is the one stretch and then the other. -/
theorem run_append (session : Session σ κ ρ α) (first later : List (Move κ ε)) :
    rules.run session (first ++ later) = rules.run (rules.run session first) later :=
  List.foldl_append

/-- Events alone start no task and bring none further. -/
@[simp] theorem tasks_run_others (session : Session σ κ ρ α) (events : List ε) :
    (rules.run session (events.map .others)).tasks = session.tasks := by
  -- An event touches the world only.
  induction events generalizing session with
  | nil => rfl
  | cons event events ih => exact ih (rules.step session (.others event))

variable {rules}

/-- A task that has read in full is underway at the end of the list. -/
theorem step_start_of_ok {session : Session σ κ ρ α} {task : κ} {reading : ρ} {after : σ}
    (passed : (rules.read task).run session.world = (.ok reading, after)) :
    rules.step session (.start task) = ⟨after, session.tasks ++ [(task, .underway reading)]⟩ := by
  simp [step, passed, Stage.ofReading]

/-- A task that is underway goes on from what it read, in the world as it is by then. -/
theorem step_resume {session : Session σ κ ρ α} {index : Nat} {task : κ} {reading : ρ}
    (waits : session.tasks[index]? = some (task, .underway reading)) :
    rules.step session (.resume index) =
      ⟨((rules.follow task reading).run session.world).2,
        session.tasks.set index (task, .ended ((rules.follow task reading).run session.world).1)⟩ := by
  simp [step, waits]

/-- Resuming a task that is not underway does nothing. -/
theorem step_resume_of_not_underway {session : Session σ κ ρ α} {index : Nat}
    (idle : ¬ ∃ task reading, session.tasks[index]? = some (task, .underway reading)) :
    rules.step session (.resume index) = session := by
  -- The index either names no task or names one that has ended.
  rw [step]
  split
  · rename_i task reading waits
    exact absurd ⟨task, reading, waits⟩ idle
  · rfl

/-- A task that is resumed ends with the result of its second step. -/
theorem getElem?_step_resume {session : Session σ κ ρ α} {index : Nat} {task : κ} {reading : ρ}
    (waits : session.tasks[index]? = some (task, .underway reading)) :
    (rules.step session (.resume index)).tasks[index]? =
      some (task, .ended ((rules.follow task reading).run session.world).1) := by
  -- Only a place within the list can be resumed.
  have within : index < session.tasks.length := (List.getElem?_eq_some_iff.1 waits).1
  rw [step_resume waits]
  exact List.getElem?_set_self within

/-- A task after a move is as it was before, or has just read, or has just ended. -/
theorem getElem?_step_cases {session : Session σ κ ρ α} {move : Move κ ε} {index : Nat} {task : κ}
    {stage : Stage ρ α} (found : (rules.step session move).tasks[index]? = some (task, stage)) :
    session.tasks[index]? = some (task, stage) ∨
    (move = .start task ∧ index = session.tasks.length ∧
      stage = .ofReading ((rules.read task).run session.world).1) ∨
    ∃ reading, move = .resume index ∧ session.tasks[index]? = some (task, .underway reading) ∧
      stage = .ended ((rules.follow task reading).run session.world).1 := by
  cases move with
  -- Events leave the tasks alone.
  | others event => exact .inl found
  | start first =>
    -- Starting adds one task behind the others.
    change (session.tasks ++ [(first, Stage.ofReading ((rules.read first).run session.world).1)])[index]? = _
      at found
    rw [List.getElem?_append] at found
    split at found
    · exact .inl found
    · -- Behind the others there is the new task and nothing more.
      rw [List.getElem?_singleton] at found
      split at found
      · rename_i last
        obtain ⟨rfl, rfl⟩ := Prod.mk.inj (Option.some.inj found)
        exact .inr (.inl ⟨rfl, by omega, rfl⟩)
      · cases found
  | resume place =>
    by_cases underway : ∃ task reading, session.tasks[place]? = some (task, .underway reading)
    · -- Resuming touches the one task that it names.
      obtain ⟨resumed, reading, waits⟩ := underway
      by_cases same : place = index
      · subst same
        rw [getElem?_step_resume waits] at found
        obtain ⟨rfl, rfl⟩ := Prod.mk.inj (Option.some.inj found)
        exact .inr (.inr ⟨reading, rfl, waits, rfl⟩)
      · rw [step_resume waits] at found
        exact .inl ((List.getElem?_set_ne same).symm.trans found)
    · rw [step_resume_of_not_underway underway] at found
      exact .inl found

/-- A task stays as it is until it is resumed. -/
theorem getElem?_step_of_ne {session : Session σ κ ρ α} {index : Nat} {entry : κ × Stage ρ α}
    (present : session.tasks[index]? = some entry) {move : Move κ ε} (other : move ≠ .resume index) :
    (rules.step session move).tasks[index]? = some entry := by
  -- Starting adds at the end, and resuming touches one place only.
  cases move with
  | start task => exact (List.getElem?_append_left (List.getElem?_eq_some_iff.1 present).1).trans present
  | others event => exact present
  | resume place =>
    have apart : place ≠ index := fun same => other (congrArg Move.resume same)
    by_cases underway : ∃ task reading, session.tasks[place]? = some (task, .underway reading)
    · obtain ⟨task, reading, waits⟩ := underway
      rw [step_resume waits, ← present]
      exact List.getElem?_set_ne apart
    · rw [step_resume_of_not_underway underway]
      exact present

/-- A task stays as it is through a run that does not resume it. -/
theorem getElem?_run_of_not_mem {session : Session σ κ ρ α} {index : Nat} {entry : κ × Stage ρ α}
    (present : session.tasks[index]? = some entry) {moves : List (Move κ ε)}
    (waiting : .resume index ∉ moves) : (rules.run session moves).tasks[index]? = some entry := by
  -- The induction is on the moves, from whatever session they have led to.
  induction moves generalizing session with
  | nil => exact present
  | cons move moves ih =>
    rw [List.mem_cons, not_or] at waiting
    exact ih (getElem?_step_of_ne present (Ne.symm waiting.1)) waiting.2

end Interplay

end StorageConfig
