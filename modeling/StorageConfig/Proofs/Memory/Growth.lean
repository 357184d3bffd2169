import StorageConfig.Memory.Store
import Std.Data.String.ToNat

/-! How a store in memory grows: versions are given out in turn, and while they last none is given out twice. -/

namespace StorageConfig

namespace MemoryStore

/-- Every object is stored under its own key, and under a version that has been given out. -/
structure Sound (store : MemoryStore) : Prop where
  /-- No object stands under another's key. -/
  key_eq : ∀ key resource, store.objects key = some resource → resource.key = key
  /-- No object carries a version still to come. -/
  version_given : ∀ key resource, store.objects key = some resource →
    ∃ number, number ≤ store.version.toNat ∧ resource.version = some (toString number)

/-- A store that holds nothing is sound. -/
theorem sound_empty : empty.Sound := by
  constructor
  · intro key resource found
    cases found
  · intro key resource found
    cases found

/-- What one step does to a store: it leaves objects and versions alone, or stores one resource. -/
inductive StepsTo (before after : MemoryStore) : Option ResourceKey → Prop
  | idle (objects : after.objects = before.objects) (version : after.version = before.version) :
    StepsTo before after none
  | stores (resource : ConfigMap) (objects : after.objects = (before.insert resource).objects)
      (version : after.version = before.version + 1) :
    StepsTo before after (some resource.key)

/-- One store comes from another by storing resources under the listed keys, in that order. -/
inductive Grows : MemoryStore → List ResourceKey → MemoryStore → Prop
  | still (store : MemoryStore) : Grows store [] store
  | step {before middle after : MemoryStore} {key : Option ResourceKey} {keys : List ResourceKey} :
    StepsTo before middle key → Grows middle keys after → Grows before (key.toList ++ keys) after

/-- Inserting stores the resource under its key. -/
theorem stepsTo_insert (store : MemoryStore) (resource : ConfigMap) :
    StepsTo store (store.insert resource) (some resource.key) :=
  .stores resource rfl rfl

/-- A write stores the resource under its key. -/
theorem stepsTo_write (store : MemoryStore) (resource : ConfigMap) :
    StepsTo store (store.write resource) (some resource.key) :=
  .stores resource rfl rfl

/-- A stored resource is found under its key, with the next version. -/
@[simp] theorem objects_insert_self (store : MemoryStore) (resource : ConfigMap) :
    (store.insert resource).objects resource.key =
      some { resource with version := some store.nextVersion } := by
  simp [insert]

/-- What others store does not count as a write. -/
theorem writes_foldl_insert (resources : List ConfigMap) (store : MemoryStore) :
    (resources.foldl insert store).writes = store.writes := by
  induction resources generalizing store with
  | nil => rfl
  | cons resource rest ih => exact ih (store.insert resource)

/-- Storing a resource leaves every other key alone. -/
theorem objects_insert_of_ne {key : ResourceKey} {resource : ConfigMap} (other : key ≠ resource.key)
    (store : MemoryStore) : (store.insert resource).objects key = store.objects key := by
  simp [insert, other]

/-- A written resource is found under its key, with the next version. -/
theorem objects_write {key : ResourceKey} {resource : ConfigMap} (at_key : resource.key = key)
    (store : MemoryStore) :
    (store.write resource).objects key = some { resource with version := some store.nextVersion } := by
  subst at_key
  exact store.objects_insert_self resource

/-- While versions last, storing a resource uses up one. -/
theorem toNat_bump {version : UInt64} (room : version.toNat + 1 < UInt64.size) :
    (version + 1).toNat = version.toNat + 1 := by
  -- The sum stays below the bound, so nothing wraps around.
  rw [UInt64.toNat_add, UInt64.toNat_one, Nat.mod_eq_of_lt room]

namespace StepsTo

variable {before after : MemoryStore} {key : Option ResourceKey}

/-- A step uses up as many versions as it stores resources. -/
theorem version_eq (step : StepsTo before after key)
    (room : before.version.toNat + key.toList.length < UInt64.size) :
    after.version.toNat = before.version.toNat + key.toList.length := by
  -- Only a stored resource moves the counter, and by one.
  cases step with
  | idle _ version => simp [version]
  | stores resource _ version => rw [version]; exact toNat_bump room

/-- A step leaves the keys it does not store under alone. -/
theorem objects_eq (step : StepsTo before after key) {other : ResourceKey} (outside : other ∉ key.toList) :
    after.objects other = before.objects other := by
  cases step with
  | idle objects _ => rw [objects]
  | stores resource objects _ =>
    rw [objects]
    exact objects_insert_of_ne (by simpa using outside) before

/-- A step keeps objects under their own keys. -/
theorem key_eq (step : StepsTo before after key)
    (placed : ∀ place held, before.objects place = some held → held.key = place) {place : ResourceKey}
    {held : ConfigMap} (found : after.objects place = some held) : held.key = place := by
  cases step with
  | idle objects _ => exact placed place held (objects ▸ found)
  | stores resource objects _ =>
    -- Under the resource's key stands the resource, elsewhere what stood there.
    rw [objects] at found
    by_cases same : place = resource.key
    · subst same
      rw [objects_insert_self] at found
      rw [← Option.some.inj found]
    · rw [objects_insert_of_ne same] at found
      exact placed place held found

/-- A step keeps a store sound while versions last. -/
theorem sound (step : StepsTo before after key) (start : before.Sound)
    (room : before.version.toNat + key.toList.length < UInt64.size) : after.Sound := by
  refine ⟨fun place held => step.key_eq start.key_eq, fun place held found => ?_⟩
  have grown := step.version_eq room
  cases step with
  | idle objects _ =>
    -- What is stored is the same, and so are the versions given out.
    obtain ⟨number, given, named⟩ := start.version_given place held (objects ▸ found)
    exact ⟨number, by omega, named⟩
  | stores resource objects version =>
    have next : (before.version + 1).toNat = after.version.toNat := by rw [version]
    by_cases same : place = resource.key
    · -- The stored resource carries the version just given out.
      subst same
      rw [objects, objects_insert_self] at found
      exact ⟨after.version.toNat, Nat.le_refl _, by rw [← Option.some.inj found, ← next]; rfl⟩
    · -- Every other version was given out before.
      rw [objects, objects_insert_of_ne same] at found
      obtain ⟨number, given, named⟩ := start.version_given place held found
      exact ⟨number, by omega, named⟩

end StepsTo

namespace Grows

variable {before middle after : MemoryStore} {keys : List ResourceKey}

/-- One step is growth by what it stores. -/
theorem single {key : Option ResourceKey} (step : StepsTo before after key) :
    Grows before key.toList after := by
  simpa using Grows.step step (.still after)

/-- Growth in two stretches is growth by both. -/
theorem append {later : List ResourceKey} (first : Grows before keys middle)
    (second : Grows middle later after) : Grows before (keys ++ later) after := by
  induction first with
  | still => exact second
  | step moved _ ih => simpa [List.append_assoc] using Grows.step moved (ih second)

/-- Storing resources in turn is growth by their keys. -/
theorem foldl_insert (resources : List ConfigMap) (store : MemoryStore) :
    Grows store (resources.map ConfigMap.key) (resources.foldl MemoryStore.insert store) := by
  induction resources generalizing store with
  | nil => exact .still store
  | cons resource rest ih => exact .step (store.stepsTo_insert resource) (ih (store.insert resource))

/-- Growth uses up as many versions as it stores resources. -/
theorem version_eq (growth : Grows before keys after)
    (room : before.version.toNat + keys.length < UInt64.size) :
    after.version.toNat = before.version.toNat + keys.length := by
  -- The induction is on the growth, and each of its steps has room within the whole.
  induction growth with
  | still => simp
  | step moved _ ih =>
    rw [List.length_append] at room ⊢
    have first := moved.version_eq (by omega)
    have rest := ih (by omega)
    omega

/-- Growth keeps a store sound while versions last. -/
theorem sound (growth : Grows before keys after) (start : before.Sound)
    (room : before.version.toNat + keys.length < UInt64.size) : after.Sound := by
  -- The room left after the first step is what the others need.
  induction growth with
  | still => exact start
  | step moved _ ih =>
    rw [List.length_append] at room
    have first := moved.version_eq (by omega)
    exact ih (moved.sound start (by omega)) (by omega)

/-- Growth keeps objects under their own keys, for as long as it goes on. -/
theorem key_eq (growth : Grows before keys after)
    (placed : ∀ place held, before.objects place = some held → held.key = place) {place : ResourceKey}
    {held : ConfigMap} (found : after.objects place = some held) : held.key = place := by
  induction growth with
  | still => exact placed place held found
  | step moved _ ih => exact ih (fun place held => moved.key_eq placed) found

/-- Growth leaves the keys it does not store under alone. -/
theorem objects_eq (growth : Grows before keys after) {key : ResourceKey} (outside : key ∉ keys) :
    after.objects key = before.objects key := by
  induction growth with
  | still => rfl
  | step moved _ ih =>
    rw [List.mem_append, not_or] at outside
    rw [ih outside.2, moved.objects_eq outside.1]

/-- A key that growth stores under ends up with a version that had not been given out before. -/
theorem exists_newer (growth : Grows before keys after)
    (room : before.version.toNat + keys.length < UInt64.size) {key : ResourceKey} (stored : key ∈ keys) :
    ∃ resource number, after.objects key = some resource ∧
      resource.version = some (toString number) ∧ before.version.toNat < number := by
  -- The last step that stores under the key decides, and versions only rise up to it.
  induction growth with
  | still => simp at stored
  | @step before middle after first keys moved rest ih =>
    rw [List.length_append] at room
    have given := moved.version_eq (by omega)
    by_cases later : key ∈ keys
    · -- A later step stores under the key again, with a version that is newer still.
      obtain ⟨resource, number, found, named, above⟩ := ih (by omega) later
      exact ⟨resource, number, found, named, by omega⟩
    · -- This is the last step under the key, so its resource stays.
      have now : key ∈ first.toList := (List.mem_append.mp stored).resolve_right later
      cases moved with
      | idle => simp at now
      | stores resource objects version =>
        have same : key = resource.key := by simpa using now
        subst same
        refine ⟨{ resource with version := some before.nextVersion }, (before.version + 1).toNat, ?_, rfl, ?_⟩
        · rw [rest.objects_eq later, objects, objects_insert_self]
        · have next : (before.version + 1).toNat = middle.version.toNat := by rw [version]
          simp only [Option.toList_some, List.length_singleton] at given
          omega

/-- A key that growth stores under holds another version than it held before. -/
theorem version_ne (growth : Grows before keys after) (start : before.Sound)
    (room : before.version.toNat + keys.length < UInt64.size) {key : ResourceKey} (stored : key ∈ keys) :
    ∃ current, after.objects key = some current ∧
      ∀ earlier, before.objects key = some earlier → current.version ≠ earlier.version := by
  -- The earlier version was given out before the growth, the current one during it.
  obtain ⟨current, number, found, named, above⟩ := growth.exists_newer room stored
  refine ⟨current, found, fun earlier held same => ?_⟩
  obtain ⟨older, given, olderNamed⟩ := start.version_given key earlier held
  -- Versions are written as numerals, which name one number each.
  rw [named, olderNamed] at same
  have equal : number = older := Nat.repr_injective (Option.some.inj same)
  omega

end Grows

/-- A store that was reached from one that holds nothing. -/
def Reachable (store : MemoryStore) : Prop := ∃ keys, empty.Grows keys store

/-- Whatever is stored in a reachable store is stored under its own key. -/
theorem Reachable.key_eq {store : MemoryStore} (reached : store.Reachable) {key : ResourceKey}
    {resource : ConfigMap} (held : store.objects key = some resource) : resource.key = key := by
  obtain ⟨keys, growth⟩ := reached
  exact growth.key_eq sound_empty.key_eq held

/-- A version that nothing has ever been stored under, on any way to a store on which versions last. -/
def IsFresh (store : MemoryStore) (version : String) : Prop :=
  ∀ earlier former later, empty.Grows former earlier → earlier.Grows later store →
    former.length + later.length + 1 < UInt64.size →
    ∀ key resource, earlier.objects key = some resource → resource.version ≠ some version

/-- The next version of a store is a fresh one. -/
theorem isFresh_nextVersion (store : MemoryStore) : store.IsFresh store.nextVersion := by
  intro earlier former later before since room key resource held same
  have start : empty.version.toNat = 0 := rfl
  have sound := before.sound sound_empty (by omega)
  obtain ⟨number, given, named⟩ := sound.version_given key resource held
  -- The counter has only risen since the resource was stored, and the next version is beyond it.
  have earlierCount := before.version_eq (by omega)
  have count := since.version_eq (by omega)
  have next : (store.version + 1).toNat = store.version.toNat + 1 := toNat_bump (by omega)
  have equal : number = (store.version + 1).toNat :=
    Nat.repr_injective (Option.some.inj (named.symm.trans same))
  omega

/-- What is given stood under a key at some time, and versions have not run out since. -/
def Recalls (store : MemoryStore) (key : ResourceKey) (stored : Option ConfigMap) : Prop :=
  -- The time is told by the store as it was, from which the present one has grown.
  ∃ earlier keys, Sound earlier ∧ earlier.objects key = stored ∧ Grows earlier keys store ∧
    earlier.version.toNat + keys.length < UInt64.size

/-- What stands under a key now is recalled. -/
theorem recalls_now {store : MemoryStore} (sound : store.Sound) (key : ResourceKey) :
    store.Recalls key (store.objects key) :=
  ⟨store, [], sound, rfl, .still store, store.version.toNat_lt⟩

namespace Recalls

variable {store : MemoryStore} {key : ResourceKey} {stored : Option ConfigMap}

/-- What was recalled still is after one more step, while versions last. -/
theorem step (recalls : store.Recalls key stored) {after : MemoryStore} {place : Option ResourceKey}
    (moved : StepsTo store after place) (room : store.version.toNat + place.toList.length < UInt64.size) :
    after.Recalls key stored := by
  obtain ⟨earlier, keys, sound, held, growth, enough⟩ := recalls
  -- The counter tells how much room the growth so far has left.
  have given := growth.version_eq enough
  refine ⟨earlier, keys ++ place.toList, sound, held, growth.append (.single moved), ?_⟩
  rw [List.length_append]
  omega

/-- What is recalled stands under its own key. -/
theorem key_eq (recalls : store.Recalls key stored) {resource : ConfigMap} (held : stored = some resource) :
    resource.key = key := by
  obtain ⟨earlier, keys, sound, found, -⟩ := recalls
  exact sound.key_eq key resource (found.trans held)

end Recalls

end MemoryStore

end StorageConfig
