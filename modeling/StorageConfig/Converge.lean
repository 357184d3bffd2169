import StorageConfig.Collaborators
import StorageConfig.CsiValues
import StorageConfig.Ownership

/-!
Bringing a stored config map in line with what it should hold.

A change is planned from what was read, without touching the store, and then carried out by at most one write.
-/

namespace StorageConfig

/-- A change to a config map, which may fail. -/
abbrev Mutation := ConfigMap → Except Failure ConfigMap

/-- The write that a change calls for. -/
inductive WritePlan where
  | create (resource : ConfigMap)
  | replace (resource : ConfigMap)
  /-- The stored config map is as it should be. -/
  | keep
  deriving DecidableEq

namespace WritePlan

/-- Apply a change that must leave the resource's key alone. -/
def changed (key : ResourceKey) (change : Mutation) (resource : ConfigMap) : Except Failure ConfigMap := do
  let result ← change resource
  if result.key = key then .ok result
  else .error (.internal ("mutation moved " ++ key.render ++ " to " ++ result.key.render))

/-- The plan for a key, from what was stored there. -/
def make (key : ResourceKey) (change : Mutation) : Option ConfigMap → Except Failure WritePlan
  | none => (changed key change (.fresh key)).map create
  | some existing => do
    let result ← changed key change existing
    .ok (if result = existing then keep else replace result)

/-- What a plan does to the store. -/
def outcome : WritePlan → WriteOutcome
  | create _ => .created
  | replace _ => .updated
  | keep => .unchanged

/-- Carry out a plan. -/
def perform {σ : Type} (world : Collaborators σ) : WritePlan → Action σ Unit
  | create resource => world.create resource
  | replace resource => world.replace resource
  | keep => pure ()

end WritePlan

/-- Create what a key names or update what it holds, and write only where the change made a difference. -/
def createOrUpdate {σ : Type} (world : Collaborators σ) (key : ResourceKey) (change : Mutation) :
    Action σ WriteOutcome := do
  let stored ← world.get key
  let plan ← Action.ofExcept (WritePlan.make key change stored)
  plan.perform world
  pure plan.outcome

/-- Set one key where its value differs. -/
def setKey (data : TextMap) (entry : String × String) : TextMap :=
  if data.get? entry.1 = some entry.2 then data else data.insert entry.1 entry.2

/-- The change that brings the managed keys and the ownership of a config map in line. -/
def CsiValues.mergeInto (values : CsiValues) (owner : Owner) : Mutation := fun resource =>
  { resource with
    ownerRefs := handOff owner resource.ownerRefs
    data := values.entries.foldl setKey resource.data }.setController owner

/-- Bring the config map of a key in line; the result says whether it was written. -/
def converge {σ : Type} (world : Collaborators σ) (values : CsiValues) (target : ResourceKey) (owner : Owner) :
    Action σ Bool := do
  let outcome ← createOrUpdate world target (values.mergeInto owner)
  pure outcome.isChange

end StorageConfig
