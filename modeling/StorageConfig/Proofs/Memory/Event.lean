import StorageConfig.Memory.World
import StorageConfig.Proofs.Memory.Growth

/-! What others do to a world in memory, outside every operation on it. -/

namespace StorageConfig

namespace MemoryWorld

/-- What others do to a world in memory. -/
inductive Event where
  /-- A config map is stored, whatever its key held. -/
  | insert (resource : ConfigMap)
  /-- Writes are made to fail, or to fail no longer. -/
  | failWrites (failing : Bool)
  /-- Readings of the store are made to fail, or to fail no longer. -/
  | failGet (fault : Option String)
  /-- The cluster identity becomes known, or unknown. -/
  | setIdentity (identity : Option String)
  | addPod (pod : PodRef) (labels : TextMap)
  /-- Listing pods is made to fail, or to fail no longer. -/
  | failList (failing : Bool)
  /-- Only so many terminations succeed in all. -/
  | limitTerminations (limit : Option Nat)

namespace Event

/-- The world after an event. -/
def apply (world : MemoryWorld) : Event → MemoryWorld
  | insert resource => { world with store := world.store.insert resource }
  | failWrites failing => { world with store := { world.store with failsWrites := failing } }
  | failGet fault => { world with getFault := fault }
  | setIdentity identity => { world with identity }
  | addPod pod labels => { world with pods := world.pods.add pod labels }
  | failList failing => { world with pods := { world.pods with failsList := failing } }
  | limitTerminations limit => { world with pods := { world.pods with limit } }

/-- The key that an event stores under, if it stores anything. -/
def inserted : Event → Option ResourceKey
  | insert resource => some resource.key
  | _ => none

/-- An event changes what is stored by what it inserts and by nothing else. -/
theorem stepsTo_apply (world : MemoryWorld) (event : Event) :
    MemoryStore.StepsTo world.store (event.apply world).store event.inserted := by
  cases event with
  | insert resource => exact world.store.stepsTo_insert resource
  -- The others turn a switch or touch something else than the store.
  | failWrites => exact .idle rfl rfl
  | failGet => exact .idle rfl rfl
  | setIdentity => exact .idle rfl rfl
  | addPod => exact .idle rfl rfl
  | failList => exact .idle rfl rfl
  | limitTerminations => exact .idle rfl rfl

/-- An event leaves nobody waiting to write who was not. -/
@[simp] theorem queued_apply (world : MemoryWorld) (event : Event) :
    (event.apply world).queued = world.queued := by
  cases event <;> rfl

end Event

end MemoryWorld

end StorageConfig
