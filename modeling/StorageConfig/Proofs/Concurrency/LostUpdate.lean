import StorageConfig.Proofs.Memory.Interplay

/-!
Calls that bring config maps in line, in any order with each other and with what others insert.

No update is lost: a write goes through only onto the very object that its call has read.
-/

namespace StorageConfig

/-- The arguments of a call that brings a config map in line. -/
structure ConvergeCall where
  values : CsiValues
  target : ResourceKey
  owner : Owner

namespace ConvergeCall

/-- What a call does once it has read its key. -/
def follow {σ : Type} (world : Collaborators σ) (call : ConvergeCall) (seen : Option ConfigMap) :
    Action σ Bool := do
  let outcome ← writeBack world call.target (call.values.mergeInto call.owner) seen
  pure outcome.isChange

/-- A call that succeeds tells whether its write changed the store. -/
theorem of_follow_ok {call : ConvergeCall} {seen : Option ConfigMap} {world after : MemoryWorld}
    {changed : Bool} (ok : (call.follow MemoryWorld.collaborators seen).run world = (.ok changed, after)) :
    ∃ plan, WritePlan.make call.target (call.values.mergeInto call.owner) seen = .ok plan ∧
      changed = plan.outcome.isChange ∧ after = { world with store := plan.applied world.store } := by
  -- The telling touches nothing, so the world is as the write left it.
  obtain ⟨outcome, middle, wrote, told⟩ := Action.of_run_bind_ok ok
  obtain ⟨plan, made, -, rfl, rfl⟩ := MemoryWorld.writeBack_ok wrote
  obtain ⟨result, state⟩ := Prod.mk.inj told
  exact ⟨plan, made, (Except.ok.inj result).symm, state.symm⟩

/-- A call that fails leaves the world as it was. -/
theorem of_follow_error {call : ConvergeCall} {seen : Option ConfigMap} {world after : MemoryWorld}
    {failure : Failure}
    (failed : (call.follow MemoryWorld.collaborators seen).run world = (.error failure, after)) :
    after = world := by
  -- Only writing back can fail.
  cases run : (writeBack MemoryWorld.collaborators call.target (call.values.mergeInto call.owner) seen).run world with
  | mk result middle =>
    cases result with
    | error cause =>
      rw [follow, Action.run_bind_of_error run] at failed
      rw [← (Prod.mk.inj failed).2]
      exact MemoryWorld.writeBack_error run
    | ok outcome =>
      -- What follows a write only tells of it.
      rw [follow, Action.run_bind_of_ok run] at failed
      cases (Prod.mk.inj failed).1

end ConvergeCall

/-- Calls on a world in memory, split after their readings, among inserts by others. -/
def converging : StoreInterplay ConvergeCall (Option ConfigMap) Bool ConfigMap where
  read call := MemoryWorld.collaborators.get call.target
  follow call seen := call.follow MemoryWorld.collaborators seen
  apply resource world := { world with store := world.store.insert resource }
  target := ConvergeCall.target
  wrote := id
  inserted resource := some resource.key
  read_world call world alone := by
    rw [MemoryWorld.run_get alone]
    cases world.getFault <;> rfl
  follow_ok call seen world changed after ok := by
    obtain ⟨plan, made, rfl, rfl⟩ := ConvergeCall.of_follow_ok ok
    exact WritePlan.stepsTo_applied (WritePlan.merges_of_make made) world.store
  follow_error call seen world failure after failed := ConvergeCall.of_follow_error failed
  follow_queued call seen world := by
    cases run : (call.follow MemoryWorld.collaborators seen).run world with
    | mk result after =>
      cases result with
      | ok changed =>
        obtain ⟨plan, -, -, rfl⟩ := ConvergeCall.of_follow_ok run
        rfl
      | error failure => rw [ConvergeCall.of_follow_error run]
  apply_steps resource world := world.store.stepsTo_insert resource
  apply_queued _ _ := rfl

/-- A call carried through without interruption is the operation itself. -/
theorem whole_converging (call : ConvergeCall) :
    converging.whole call = converge MemoryWorld.collaborators call.values call.target call.owner := by
  -- The operation groups its steps the other way.
  rw [converge, createOrUpdate_eq, Action.bind_assoc]
  rfl

/-- Calls and inserts make nothing fail. -/
theorem calm_step_converging {session : Session MemoryWorld ConvergeCall (Option ConfigMap) Bool}
    (calm : session.world.Calm) (move : Move ConvergeCall ConfigMap) :
    (converging.step session move).world.Calm := by
  rcases converging.world_step_cases calm.queued move with
    same | ⟨_, call, seen, changed, -, -, ok⟩ | ⟨resource, -, inserted⟩
  · rw [same]
    exact calm
  · -- A write leaves the switch for failures where it is.
    obtain ⟨plan, -, -, left⟩ := ConvergeCall.of_follow_ok ok
    rw [left]
    exact calm.applied plan
  · rw [inserted]
    exact ⟨calm.queued, calm.getFault, calm.failsWrites⟩

/-- A run of calls and inserts makes nothing fail. -/
theorem calm_run_converging {session : Session MemoryWorld ConvergeCall (Option ConfigMap) Bool}
    (calm : session.world.Calm) (moves : List (Move ConvergeCall ConfigMap)) :
    (converging.run session moves).world.Calm := by
  induction moves generalizing session with
  | nil => exact calm
  | cons move moves ih => exact ih (calm_step_converging calm move)

/-- A call within a run from a store that holds nothing. -/
structure InterruptedCall where
  identity : Option String
  /-- What happens before the call takes its first step. -/
  before : List (Move ConvergeCall ConfigMap)
  call : ConvergeCall
  /-- What happens between the two steps of the call. -/
  between : List (Move ConvergeCall ConfigMap)

namespace InterruptedCall

variable (race : InterruptedCall)

/-- The session in which the run begins. -/
def opening : Session MemoryWorld ConvergeCall (Option ConfigMap) Bool := .opening (.empty race.identity)

/-- The session in which the call takes its first step. -/
def opened : Session MemoryWorld ConvergeCall (Option ConfigMap) Bool :=
  converging.run race.opening race.before

/-- The place of the call among the tasks of the run. -/
def index : Nat := race.opened.tasks.length

/-- What is stored under the key of the call when it reads it. -/
def seen : Option ConfigMap := race.opened.world.store.objects race.call.target

/-- The session once the call has read its key. -/
def begun : Session MemoryWorld ConvergeCall (Option ConfigMap) Bool :=
  converging.step race.opened (.start race.call)

/-- The session in which the call takes its second step. -/
def ready : Session MemoryWorld ConvergeCall (Option ConfigMap) Bool :=
  converging.run race.begun race.between

/-- The keys that others stored under between the two steps of the call. -/
def written : List ResourceKey := converging.storedKeys race.begun race.between

/-- The session once the call has ended. -/
def ended : Session MemoryWorld ConvergeCall (Option ConfigMap) Bool :=
  converging.step race.ready (.resume race.index)

/-- How many versions the run uses up before the second step of the call. -/
def bumps : Nat :=
  (converging.storedKeys race.opening (race.before ++ .start race.call :: race.between)).length

/-- The call writes, going by what it read. -/
def Writes : Prop :=
  ∃ plan, WritePlan.make race.call.target (race.call.values.mergeInto race.call.owner) race.seen = .ok plan ∧
    plan ≠ .keep

/-- The versions that the run uses up are those before the call and those between its steps. -/
theorem bumps_eq :
    race.bumps = (converging.storedKeys race.opening race.before).length + race.written.length := by
  -- The call's own first step stores nothing.
  simp only [bumps, StoreInterplay.storedKeys_append, StoreInterplay.storedKeys, StoreInterplay.storedKey,
    Option.toList_none, List.nil_append, List.length_append]
  rfl

/-- What the call reads comes from nothing by what was stored before it. -/
theorem grows_opened :
    MemoryStore.empty.Grows (converging.storedKeys race.opening race.before) race.opened.world.store :=
  (StoreInterplay.grows_run converging race.opening rfl race.before).1

/-- The versions given out when the call reads are those used up before it. -/
theorem version_opened (few : race.bumps < UInt64.size) :
    race.opened.world.store.version.toNat = (converging.storedKeys race.opening race.before).length := by
  -- Nothing had been given out in the beginning.
  have zero : MemoryStore.empty.version.toNat = 0 := rfl
  have counted := race.bumps_eq
  have given := race.grows_opened.version_eq (by omega)
  omega

/-- The store that the call reads holds every object under its key and a version given out. -/
theorem sound_opened (few : race.bumps < UInt64.size) : race.opened.world.store.Sound := by
  have zero : MemoryStore.empty.version.toNat = 0 := rfl
  have counted := race.bumps_eq
  exact race.grows_opened.sound MemoryStore.sound_empty (by omega)

/-- The call's first step only reads. -/
theorem begun_eq :
    race.begun = ⟨race.opened.world, race.opened.tasks ++ [(race.call, .underway race.seen)]⟩ := by
  -- Nothing makes the reading fail, and nobody waits for it.
  have calm : race.opened.world.Calm := calm_run_converging (MemoryWorld.calm_empty race.identity) race.before
  apply Interplay.step_start_of_ok
  exact (MemoryWorld.run_get calm.queued race.call.target).trans (by rw [calm.getFault]; rfl)

/-- When the call takes its second step, nothing is made to fail. -/
theorem calm_ready : race.ready.world.Calm :=
  calm_run_converging (calm_step_converging
    (calm_run_converging (MemoryWorld.calm_empty race.identity) race.before) _) race.between

/-- The store changes between the two steps of the call by what others store. -/
theorem grows_ready : race.opened.world.store.Grows race.written race.ready.world.store := by
  have calm : race.opened.world.Calm := calm_run_converging (MemoryWorld.calm_empty race.identity) race.before
  have same : race.begun.world = race.opened.world := by rw [begun_eq]
  rw [← same] at calm ⊢
  exact (StoreInterplay.grows_run converging race.begun calm.queued race.between).1

/-- A call that is not resumed in between still waits with what it has read. -/
theorem getElem?_ready (waiting : .resume race.index ∉ race.between) :
    race.ready.tasks[race.index]? = some (race.call, .underway race.seen) := by
  -- It stands last in the list when it has read, and nothing else moves it.
  apply Interplay.getElem?_run_of_not_mem _ waiting
  rw [begun_eq]
  exact List.getElem?_concat_length

/-- A write of the call goes through exactly if nothing was stored under its key in between. -/
theorem run_follow_ready (few : race.bumps < UInt64.size) (writes : race.Writes) :
    (race.call.follow MemoryWorld.collaborators race.seen).run race.ready.world =
      if race.call.target ∈ race.written then
        (.error (WritePlan.staleFault race.call.target race.seen), race.ready.world)
      else
        (.ok true, { race.ready.world with
          store := race.ready.world.store.write
            (race.call.values.merged race.call.owner (race.seen.getD (.fresh race.call.target))) }) := by
  obtain ⟨plan, made, writes⟩ := writes
  -- The versions last from the reading to the write.
  have counted := race.bumps_eq
  have given := race.version_opened few
  have wrote := MemoryWorld.run_writeBack_of_grows made writes (race.sound_opened few) rfl race.grows_ready
    (by omega)
  rw [race.calm_ready.failsWrites, if_neg Bool.false_ne_true] at wrote
  rw [ConvergeCall.follow, Action.run_bind, wrote]
  -- What the call tells follows from whether the key was touched.
  by_cases touched : race.call.target ∈ race.written
  · simp [touched]
  · simp [touched, (WritePlan.isChange_outcome plan).2 writes]

end InterruptedCall

/-- The merge of a call has been stored in place of what its key held, and nothing else has changed. -/
structure ConvergeCall.StoredOnto (call : ConvergeCall) (before after : MemoryStore) : Prop where
  /-- The merge is of what the key held right before, and stands under the next version. -/
  merged : ∃ result,
    call.values.mergeInto call.owner ((before.objects call.target).getD (.fresh call.target)) = .ok result ∧
      after.objects call.target = some { result with version := some before.nextVersion }
  /-- What the key held right before has lost nothing. -/
  kept : ∀ current, before.objects call.target = some current →
    ∃ stored, after.objects call.target = some stored ∧ current.KeptIn stored
  others : ∀ key, key ≠ call.target → after.objects key = before.objects key
  writes : after.writes = before.writes + 1

/-- Storing the merge of what is held is storing onto it. -/
theorem ConvergeCall.storedOnto_write {call : ConvergeCall} {store : MemoryStore} {seen : Option ConfigMap}
    (held : store.objects call.target = seen) {plan : WritePlan}
    (merges : WritePlan.Merges call.values call.owner call.target seen plan) :
    call.StoredOnto store (store.write (call.values.merged call.owner (seen.getD (.fresh call.target)))) := by
  have at_key := WritePlan.key_of_merges merges
  have found := store.objects_write at_key
  constructor
  · -- What was read is what is held, so its merge is the one that is stored.
    rw [held]
    exact ⟨_, WritePlan.mergeInto_of_merges merges, found⟩
  · intro current now
    rw [held] at now
    subst now
    -- The version is no part of what a config map keeps.
    have kept := call.values.keptIn_merged call.owner current
    exact ⟨_, found, kept.atVersion (some store.nextVersion)⟩
  · intro key other
    exact MemoryStore.objects_insert_of_ne (by rw [at_key]; exact other) store
  · rfl

/--
No update is lost, whatever the order of steps.

The two steps of a call make up the whole operation where nothing comes between them. A call that has written did
so onto the very object it had read, and nobody had stored under its key since. A call that would write after
someone has fails, and leaves the world as it was.
-/
theorem no_update_is_lost (race : InterruptedCall) (few : race.bumps < UInt64.size)
    (waiting : .resume race.index ∉ race.between) :
    (∀ call : ConvergeCall, converging.whole call =
      converge MemoryWorld.collaborators call.values call.target call.owner) ∧
    race.ready.tasks[race.index]? = some (race.call, .underway race.seen) ∧
    (race.ended.tasks[race.index]? = some (race.call, .ended (.ok true)) →
      race.ready.world.store.objects race.call.target = race.seen ∧
      race.call.target ∉ race.written ∧
      race.call.StoredOnto race.ready.world.store race.ended.world.store) ∧
    (race.Writes → race.call.target ∉ race.written →
      race.ended.tasks[race.index]? = some (race.call, .ended (.ok true))) ∧
    (race.Writes → race.call.target ∈ race.written →
      race.ended.tasks[race.index]? =
        some (race.call, .ended (.error (WritePlan.staleFault race.call.target race.seen))) ∧
      race.ended.world = race.ready.world) := by
  have waits := race.getElem?_ready waiting
  -- The second step of the call runs in the world as it is by then.
  have stepped : race.ended.tasks[race.index]? =
      some (race.call, .ended ((race.call.follow MemoryWorld.collaborators race.seen).run race.ready.world).1) :=
    Interplay.getElem?_step_resume waits
  have left : race.ended.world =
      ((race.call.follow MemoryWorld.collaborators race.seen).run race.ready.world).2 := by
    rw [InterruptedCall.ended, Interplay.step_resume waits]
    rfl
  refine ⟨whole_converging, waits, ?_, ?_, ?_⟩
  · intro success
    -- Only a call that writes tells of a change, and only a fresh reading lets it through.
    rw [stepped] at success
    have result : ((race.call.follow MemoryWorld.collaborators race.seen).run race.ready.world).1 = .ok true := by
      simpa using success
    obtain ⟨plan, made, told, -⟩ := ConvergeCall.of_follow_ok (Prod.ext result rfl)
    have writes : race.Writes := ⟨plan, made, (WritePlan.isChange_outcome plan).1 told.symm⟩
    have run := race.run_follow_ready few writes
    have fresh : race.call.target ∉ race.written := by
      intro touched
      rw [run, if_pos touched] at result
      cases result
    have held : race.ready.world.store.objects race.call.target = race.seen := race.grows_ready.objects_eq fresh
    rw [run, if_neg fresh] at left
    refine ⟨held, fresh, ?_⟩
    rw [left]
    exact ConvergeCall.storedOnto_write held (WritePlan.merges_of_make made)
  · -- Without a write in between the call gets through.
    intro writes fresh
    rw [stepped, race.run_follow_ready few writes, if_neg fresh]
  · -- With one it is told that its reading is stale.
    intro writes touched
    rw [stepped, left, race.run_follow_ready few writes, if_pos touched]
    exact ⟨rfl, rfl⟩

/-- Two calls that both find their key missing, of which the second one to read writes first. -/
def twoCreators : InterruptedCall where
  identity := none
  before := []
  call :=
    { values := ⟨"cluster-a", true, .preferCrc, false, ""⟩
      target := ⟨"settings", "storage"⟩
      owner := ⟨"ocs.openshift.io/v1", "StorageCluster", "a", "1"⟩ }
  between :=
    [.start
      { values := ⟨"cluster-b", true, .preferCrc, false, ""⟩
        target := ⟨"settings", "storage"⟩
        owner := ⟨"ocs.openshift.io/v1", "StorageCluster", "b", "2"⟩ },
      .resume 1]

/-- Of two calls that both find their key missing, the one that writes second is told that it exists. -/
theorem no_update_is_lost_twoCreators :
    twoCreators.bumps < UInt64.size ∧ .resume twoCreators.index ∉ twoCreators.between ∧
      twoCreators.Writes ∧ twoCreators.call.target ∈ twoCreators.written ∧
      converging.whole twoCreators.call =
        converge MemoryWorld.collaborators twoCreators.call.values twoCreators.call.target twoCreators.call.owner ∧
      twoCreators.ended.tasks[twoCreators.index]? = some (twoCreators.call,
        .ended (.error (.alreadyExists "ConfigMap" "storage/settings"))) ∧
      twoCreators.ended.world = twoCreators.ready.world := by
  have one : twoCreators.bumps = 1 := rfl
  have few : twoCreators.bumps < UInt64.size := by rw [one]; decide
  have place : twoCreators.index = 0 := rfl
  have waiting : .resume twoCreators.index ∉ twoCreators.between := by
    rw [place]
    simp [twoCreators]
  have writes : twoCreators.Writes := ⟨_, WritePlan.make_mergeInto_none _ _ _, nofun⟩
  have keys : twoCreators.written = [⟨"settings", "storage"⟩] := rfl
  have touched : twoCreators.call.target ∈ twoCreators.written := by rw [keys]; exact List.mem_singleton.2 rfl
  obtain ⟨whole, -, -, -, stale⟩ := no_update_is_lost twoCreators few waiting
  obtain ⟨result, world⟩ := stale writes touched
  have name : (⟨"settings", "storage"⟩ : ResourceKey).render = "storage/settings" := by decide
  exact ⟨few, waiting, writes, touched, whole twoCreators.call, result.trans (by rw [← name]; rfl), world⟩

end StorageConfig
