import StorageConfig.Memory.Pods
import StorageConfig.Memory.Store

/-! A whole world in memory, in which each collaborator can be made to fail and others can write in between. -/

namespace StorageConfig

/-- The state of a world in memory. -/
structure MemoryWorld where
  store : MemoryStore
  pods : MemoryPods
  /-- The cluster identity; nothing makes looking it up fail. -/
  identity : Option String
  /-- With what reading the store is made to fail. -/
  getFault : Option String
  /-- What someone else stores right after the next reading of the store. -/
  queued : List ConfigMap

namespace MemoryWorld

/-- The world that holds nothing, under the given identity. -/
def empty (identity : Option String) : MemoryWorld := ⟨.empty, .empty, identity, none, []⟩

/-- Read the store; then whatever is queued gets stored. -/
def get (world : MemoryWorld) (key : ResourceKey) : Except Failure (Option ConfigMap) × MemoryWorld :=
  match world.getFault with
  | some text => (.error (.internal text), world)
  | none =>
    (.ok (world.store.objects key),
      { world with store := world.queued.foldl MemoryStore.insert world.store, queued := [] })

/-- A step of the store as a step of the world. -/
def onStore {α : Type} (step : MemoryStore → Except Failure α × MemoryStore) : Action MemoryWorld α :=
  ⟨fun world =>
    let (result, store) := step world.store
    (result, { world with store })⟩

/-- A step of the pods as a step of the world. -/
def onPods {α : Type} (step : MemoryPods → Except Failure α × MemoryPods) : Action MemoryWorld α :=
  ⟨fun world =>
    let (result, pods) := step world.pods
    (result, { world with pods })⟩

/-- The identity, of which a name is only reported where there is none. -/
def lookUpIdentity (world : MemoryWorld) (singleton : String) : Except Failure String :=
  match world.identity with
  | some identity => .ok identity
  | none => .error (.identityLookup ("clusterversions/" ++ singleton ++ " not found"))

/-- The collaborators that act on a world in memory. -/
def collaborators : Collaborators MemoryWorld :=
  { get := fun key => ⟨fun world => world.get key⟩
    create := fun resource => onStore (·.create resource)
    replace := fun resource => onStore (·.replace resource)
    identity := fun singleton => ⟨fun world => (world.lookUpIdentity singleton, world)⟩
    list := fun namespaceName selector => ⟨fun world => (world.pods.list namespaceName selector, world)⟩
    terminate := fun pod => onPods (·.terminate pod) }

end MemoryWorld

end StorageConfig
