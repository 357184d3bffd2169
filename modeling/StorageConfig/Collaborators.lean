import StorageConfig.ConfigMap
import StorageConfig.Failure
import StorageConfig.Selector

/-! The outside world as the operator sees it: actions that may fail, over whatever state the world has. -/

namespace StorageConfig

/-- An action on a state of the world; one that fails leaves the state it came to. -/
structure Action (σ α : Type) where
  /-- The result and the state after the action. -/
  run : σ → Except Failure α × σ

namespace Action

variable {σ α β : Type}

/-- The action that gives a result worked out already. -/
def ofExcept (result : Except Failure α) : Action σ α := ⟨fun state => (result, state)⟩

/-- The action that changes nothing and gives a value. -/
protected def pure (value : α) : Action σ α := ofExcept (.ok value)

/-- One action and then another that depends on its value; a failure ends both. -/
protected def bind (first : Action σ α) (next : α → Action σ β) : Action σ β :=
  ⟨fun state =>
    match first.run state with
    | (.ok value, after) => (next value).run after
    | (.error failure, after) => (.error failure, after)⟩

instance : Monad (Action σ) where
  pure := Action.pure
  bind := Action.bind

/-- An action whose failure is a value like any other. -/
def attempt (action : Action σ α) : Action σ (Except Failure α) :=
  ⟨fun state => (.ok (action.run state).1, (action.run state).2)⟩

/-- A worked out result leaves the state alone. -/
@[simp] theorem run_ofExcept (result : Except Failure α) (state : σ) :
    (ofExcept result : Action σ α).run state = (result, state) := rfl

/-- A pure action leaves the state alone. -/
@[simp] theorem run_pure (value : α) (state : σ) :
    (pure value : Action σ α).run state = (.ok value, state) := rfl

/-- Two actions run one after the other, the second only after a success. -/
theorem run_bind (first : Action σ α) (next : α → Action σ β) (state : σ) :
    (first >>= next).run state =
      match first.run state with
      | (.ok value, after) => (next value).run after
      | (.error failure, after) => (.error failure, after) := rfl

/-- An attempt never fails and ends in the same state. -/
@[simp] theorem run_attempt (action : Action σ α) (state : σ) :
    action.attempt.run state = (.ok (action.run state).1, (action.run state).2) := rfl

end Action

/-- Everything the operator works with. -/
structure Collaborators (σ : Type) where
  /-- The stored config map of a key, if there is one. -/
  get : ResourceKey → Action σ (Option ConfigMap)
  /-- Store a config map that does not exist yet. -/
  create : ConfigMap → Action σ Unit
  /-- Store a config map in place of the one it was made from. -/
  replace : ConfigMap → Action σ Unit
  /-- The cluster identity that the object of a name holds. -/
  identity : String → Action σ String
  /-- The pods of a namespace that a selector matches. -/
  list : String → Selector → Action σ (List PodRef)
  /-- Ask for a pod to be terminated. -/
  terminate : PodRef → Action σ Unit

end StorageConfig
