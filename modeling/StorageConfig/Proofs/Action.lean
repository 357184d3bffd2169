import StorageConfig.Collaborators

/-! Actions in sequence: grouping does not matter, and a failure ends the sequence where it happens. -/

namespace StorageConfig

namespace Action

variable {σ α β γ : Type}

/-- Two actions are the same if they run the same from every state. -/
@[ext] theorem ext {first second : Action σ α} (same : ∀ state, first.run state = second.run state) :
    first = second := by
  -- An action is nothing more than its run.
  cases first
  cases second
  congr
  exact funext same

/-- A value given by a pure action goes straight to what follows. -/
@[simp] theorem pure_bind (value : α) (next : α → Action σ β) : (pure value >>= next) = next value := rfl

/-- A result worked out already goes straight to what follows. -/
@[simp] theorem ofExcept_ok_bind (value : α) (next : α → Action σ β) :
    (ofExcept (.ok value) >>= next) = next value := rfl

/-- A sequence of three actions can be grouped either way. -/
theorem bind_assoc (first : Action σ α) (next : α → Action σ β) (last : β → Action σ γ) :
    (first >>= next >>= last) = first >>= fun value => next value >>= last := by
  -- Only the result of the first action decides how the run goes on.
  ext state : 1
  simp only [run_bind]
  rcases first.run state with ⟨result, after⟩
  cases result <;> rfl

/-- After a success the next action runs from the state that was reached. -/
theorem run_bind_of_ok {first : Action σ α} {state after : σ} {value : α}
    (ok : first.run state = (.ok value, after)) (next : α → Action σ β) :
    (first >>= next).run state = (next value).run after := by
  rw [run_bind, ok]

/-- After a failure nothing more runs. -/
theorem run_bind_of_error {first : Action σ α} {state after : σ} {failure : Failure}
    (failed : first.run state = (.error failure, after)) (next : α → Action σ β) :
    (first >>= next).run state = (.error failure, after) := by
  rw [run_bind, failed]

/-- A sequence that succeeds went through a success of its first action. -/
theorem of_run_bind_ok {first : Action σ α} {next : α → Action σ β} {state final : σ} {result : β}
    (ok : (first >>= next).run state = (.ok result, final)) :
    ∃ value after, first.run state = (.ok value, after) ∧ (next value).run after = (.ok result, final) := by
  rw [run_bind] at ok
  -- A first action that fails leaves no success to speak of.
  split at ok
  · rename_i value after passed
    exact ⟨value, after, passed, ok⟩
  · cases (Prod.mk.inj ok).1

/-- An attempt gives the result of the action as a value. -/
theorem run_attempt_of_run {action : Action σ α} {state after : σ} {result : Except Failure α}
    (run : action.run state = (result, after)) : action.attempt.run state = (.ok result, after) := by
  rw [run_attempt, run]

/-- An action overlooks a change: it gives the same result after it, and ends in the same state but for it. -/
def Overlooks (change : σ → σ) (action : Action σ α) : Prop :=
  ∀ state, action.run (change state) = ((action.run state).1, change (action.run state).2)

/-- A result worked out already overlooks everything. -/
theorem overlooks_ofExcept (change : σ → σ) (result : Except Failure α) :
    Overlooks change (ofExcept result : Action σ α) := fun _ => rfl

/-- A sequence overlooks what each of its actions overlooks. -/
theorem Overlooks.bind {change : σ → σ} {first : Action σ α} {next : α → Action σ β}
    (former : Overlooks change first) (later : ∀ value, Overlooks change (next value)) :
    Overlooks change (first >>= next) := by
  intro state
  rw [run_bind, run_bind, former state]
  -- The second action runs after the same result, or not at all.
  rcases first.run state with ⟨result, after⟩
  cases result with
  | ok value => exact later value after
  | error failure => rfl

/-- An attempt overlooks what the action overlooks. -/
theorem Overlooks.attempt {change : σ → σ} {action : Action σ α} (overlooks : Overlooks change action) :
    Overlooks change action.attempt := by
  intro state
  rw [run_attempt, run_attempt, overlooks state]

/-- An action fails with failures of one kind only, from whatever state it runs. -/
def FailsOnly (allowed : Failure → Prop) (action : Action σ α) : Prop :=
  ∀ state failure, (action.run state).1 = .error failure → allowed failure

variable {allowed : Failure → Prop}

/-- A result worked out already fails with what it is. -/
theorem failsOnly_ofExcept {result : Except Failure α} (fails : ∀ failure, result = .error failure → allowed failure) :
    FailsOnly allowed (ofExcept result : Action σ α) := fun _ => fails

/-- A failure worked out already is the only one. -/
theorem failsOnly_error {failure : Failure} (may : allowed failure) :
    FailsOnly allowed (ofExcept (.error failure) : Action σ α) :=
  failsOnly_ofExcept fun _ same => Except.error.inj same ▸ may

/-- A pure action does not fail. -/
theorem failsOnly_pure (value : α) : FailsOnly allowed (pure value : Action σ α) :=
  failsOnly_ofExcept fun _ failed => by cases failed

/-- An attempt does not fail. -/
theorem failsOnly_attempt (action : Action σ α) : FailsOnly allowed action.attempt := by
  intro state failure failed
  cases failed

/-- A sequence fails with what one of its actions fails with. -/
theorem FailsOnly.bind {first : Action σ α} {next : α → Action σ β} (former : FailsOnly allowed first)
    (later : ∀ value, FailsOnly allowed (next value)) : FailsOnly allowed (first >>= next) := by
  intro state failure failed
  rw [run_bind] at failed
  -- Either the first action has failed, or the second one has after it.
  cases run : first.run state with
  | mk result after =>
    rw [run] at failed
    cases result with
    | ok value => exact later value after failure failed
    | error cause =>
      have same : cause = failure := Except.error.inj failed
      refine former state failure ?_
      rw [run, same]

end Action

end StorageConfig
