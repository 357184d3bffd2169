import StorageConfig.Collaborators

/-!
A store of config maps in memory.

Every successful write stores its resource under the next version, and a replacement has to name the stored one.
-/

namespace StorageConfig

/-- The config maps of a store and the counters that go with them. -/
structure MemoryStore where
  /-- What is stored under each key. -/
  objects : ResourceKey → Option ConfigMap
  /-- How many writes succeeded. -/
  writes : Nat
  /-- Whether writes are made to fail. -/
  failsWrites : Bool
  /-- The version given out last. -/
  version : UInt64

namespace MemoryStore

/-- The store that holds nothing. -/
def empty : MemoryStore := ⟨fun _ => none, 0, false, 0⟩

/-- The version that the next stored resource gets. -/
def nextVersion (store : MemoryStore) : String := toString (store.version + 1).toNat

/-- The store with a resource under the next version, whatever its key held. -/
def insert (store : MemoryStore) (resource : ConfigMap) : MemoryStore :=
  let stored := { resource with version := some store.nextVersion }
  { store with
    objects := fun key => if key = resource.key then some stored else store.objects key
    version := store.version + 1 }

/-- The store after a successful write. -/
def write (store : MemoryStore) (resource : ConfigMap) : MemoryStore :=
  { store.insert resource with writes := store.writes + 1 }

/-- The conflict over a key. -/
def conflict (key : ResourceKey) (reason : String) : Failure := .conflict "ConfigMap" key.render reason

/-- Why a resource cannot be created, if it cannot. -/
def createFault (store : MemoryStore) (resource : ConfigMap) : Option Failure :=
  if store.failsWrites then some (conflict resource.key "injected failure")
  else if (store.objects resource.key).isSome then
    some (.alreadyExists "ConfigMap" resource.key.render)
  else none

/-- Why a resource cannot replace the stored one, if it cannot. -/
def replaceFault (store : MemoryStore) (resource : ConfigMap) : Option Failure :=
  if store.failsWrites then some (conflict resource.key "injected failure")
  else
    match store.objects resource.key with
    | none => some (.notFound "ConfigMap" resource.key.render)
    | some current =>
      if current.version = resource.version then none
      else some (conflict resource.key "resourceVersion mismatch")

/-- Write a resource unless there is a fault. -/
def writeUnless (store : MemoryStore) (fault : Option Failure) (resource : ConfigMap) :
    Except Failure Unit × MemoryStore :=
  match fault with
  | some failure => (.error failure, store)
  | none => (.ok (), store.write resource)

/-- Store a resource whose key holds nothing. -/
def create (store : MemoryStore) (resource : ConfigMap) : Except Failure Unit × MemoryStore :=
  store.writeUnless (store.createFault resource) resource

/-- Store a resource in place of the one of the same version. -/
def replace (store : MemoryStore) (resource : ConfigMap) : Except Failure Unit × MemoryStore :=
  store.writeUnless (store.replaceFault resource) resource

end MemoryStore

end StorageConfig
