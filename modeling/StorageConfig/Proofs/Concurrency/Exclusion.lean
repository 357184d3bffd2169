import StorageConfig.Proofs.Concurrency.Passes
import StorageConfig.Proofs.Pass.Atomicity

/-!
Passes for clusters that target one config map, in any order with each other.

Once one of them has succeeded, no cluster of another name gets to write the map any more.
-/

namespace StorageConfig

namespace StorageCluster

/-- The group and kind that all clusters share. -/
def groupKind : String × String := (apiGroup apiVersion, kind)

/-- A cluster owns what it owns under its own name, as one of the clusters. -/
theorem of_owner_ok {cluster : StorageCluster} {owner : Owner} (owned : cluster.owner = .ok owner) :
    owner.groupKind = groupKind ∧ owner.kind = kind ∧ owner.name = cluster.displayName := by
  obtain ⟨uid, -, rfl⟩ := eq_of_owner_ok owned
  exact ⟨rfl, rfl, rfl⟩

end StorageCluster

/-- The name of the cluster that controls what a key holds in a world, if one does. -/
def MemoryWorld.holder (world : MemoryWorld) (key : ResourceKey) : Option String :=
  holderIn StorageCluster.groupKind (world.store.objects key)

/-- A pass goes by what its key has held, and the cluster that controlled it then still does. -/
structure MemoryWorld.Recollects (world : MemoryWorld) (call : PassCall) (reading : PassReading) : Prop where
  owner : call.cluster.owner = .ok reading.owner
  recalls : world.store.Recalls call.target reading.stored
  holder : ∀ name, holderIn StorageCluster.groupKind reading.stored = some name →
    world.holder call.target = some name

namespace MemoryWorld.Recollects

variable {world after : MemoryWorld} {call : PassCall} {reading : PassReading}

/-- A pass that succeeds met no other holder, and leaves its own cluster as the holder. -/
theorem finishes (recollects : world.Recollects call reading) {outcome : PassOutcome}
    (ok : (passing.follow call reading).run world = (.ok outcome, after)) :
    after.holder call.target = some call.cluster.displayName ∧
      ∀ name, world.holder call.target = some name → name = call.cluster.displayName := by
  obtain ⟨plan, done⟩ := finishPass_ok ok
  obtain ⟨kind, -, named⟩ := StorageCluster.of_owner_ok recollects.owner
  have left : after.store = plan.applied world.store := by rw [done.after_eq]
  have merges := done.merges
  by_cases writes : plan = .keep
  · -- A map that was found in line was held by the cluster, which it still is.
    subst writes
    have own : holderIn StorageCluster.groupKind reading.stored = some call.cluster.displayName := by
      rw [← kind, ← named]
      exact WritePlan.holderIn_of_merges_keep merges
    have now := recollects.holder _ own
    -- The holder is there already, and there is one holder only.
    refine ⟨?_, fun name held => ?_⟩
    · rw [MemoryWorld.holder, left]
      exact now
    · exact Option.some.inj (held.symm.trans now)
  · -- A write needs that the map is still the one that was read.
    have fresh : world.store.objects call.target = reading.stored :=
      WritePlan.objects_eq_of_fault_eq_none merges writes recollects.recalls done.healthy
    have current : WritePlan.Merges reading.values reading.owner call.target
        (world.store.objects call.target) plan := by
      rw [fresh]
      exact merges
    refine ⟨?_, fun name held => ?_⟩
    · rw [MemoryWorld.holder, left, ← kind, ← named]
      exact WritePlan.holderIn_applied current
    · rw [MemoryWorld.holder, ← kind] at held
      rw [← named]
      exact WritePlan.free_of_merges current held

/-- What is recollected still is after one more step that leaves the holder where it is. -/
theorem step (recollects : world.Recollects call reading) {place : Option ResourceKey}
    (moved : MemoryStore.StepsTo world.store after.store place)
    (room : world.store.version.toNat + place.toList.length < UInt64.size)
    (keeps : ∀ name, world.holder call.target = some name → after.holder call.target = some name) :
    after.Recollects call reading :=
  ⟨recollects.owner, recollects.recalls.step moved room, fun name held => keeps name (recollects.holder name held)⟩

/-- A pass of another cluster than the holder fails, and leaves the world as it was. -/
theorem refused (recollects : world.Recollects call reading) {name : String}
    (held : world.holder call.target = some name) (rival : call.cluster.displayName ≠ name) :
    (holderIn StorageCluster.groupKind reading.stored = some name ∧
      (passing.follow call reading).run world =
        (.error (.alreadyOwned ("ConfigMap/" ++ call.target.render) StorageCluster.kind name), world)) ∨
    (holderIn StorageCluster.groupKind reading.stored = none ∧
      (passing.follow call reading).run world =
        (.error (if world.store.failsWrites then MemoryStore.conflict call.target "injected failure"
          else WritePlan.staleFault call.target reading.stored), world)) := by
  obtain ⟨kind, named, own⟩ := StorageCluster.of_owner_ok recollects.owner
  cases seen : holderIn StorageCluster.groupKind reading.stored with
  | some earlier =>
    -- Whoever held the map when it was read is the holder.
    left
    have same : earlier = name := Option.some.inj ((recollects.holder earlier seen).symm.trans held)
    subst same
    refine ⟨rfl, run_finishPass_of_error ?_⟩
    obtain ⟨existing, stored, holds⟩ := Option.bind_eq_some_iff.1 seen
    rw [run_writeBack, stored, WritePlan.make_mergeInto_rival (by rw [kind]; exact holds)
      (by rw [own]; exact Ne.symm rival), recollects.recalls.key_eq stored, named]
  | none =>
    -- The map was free when it was read, so the pass would write, but onto something newer.
    right
    refine ⟨rfl, run_finishPass_of_error ?_⟩
    obtain ⟨plan, made⟩ : ∃ plan, WritePlan.make call.target (reading.values.mergeInto reading.owner)
        reading.stored = .ok plan :=
      WritePlan.exists_make_mergeInto (fun existing stored => recollects.recalls.key_eq stored)
        (fun other holds => by rw [kind, seen] at holds; cases holds)
    have merges := WritePlan.merges_of_make made
    -- A plan to keep would need the cluster to be the holder of what was read.
    have writes : plan ≠ .keep := by
      intro keeps
      subst keeps
      have holds := WritePlan.holderIn_of_merges_keep merges
      rw [kind, seen] at holds
      cases holds
    -- What is stored now has a holder, and what was read had none.
    have stale : world.store.objects call.target ≠ reading.stored := by
      intro same
      rw [MemoryWorld.holder, same, seen] at held
      cases held
    have fault := WritePlan.fault_of_recalls merges writes recollects.recalls
    rw [if_neg stale] at fault
    rw [PassCall.target] at made fault ⊢
    rw [run_writeBack, made]
    dsimp only
    rw [fault]
    cases world.store.failsWrites <;> rfl

end MemoryWorld.Recollects

/-- What a session keeps up about a key under which nobody inserts. -/
structure OrderlyAt (key : ResourceKey) (session : PassSession) : Prop where
  sound : session.world.store.Sound
  alone : session.world.queued = []
  /-- Every pass that is underway goes by what the key has held. -/
  underway : ∀ (index : Nat) (call : PassCall) (reading : PassReading),
    session.tasks[index]? = some (call, .underway reading) → call.target = key →
      session.world.Recollects call reading
  /-- The cluster of every pass that has succeeded is the holder. -/
  succeeded : ∀ (index : Nat) (call : PassCall) (outcome : PassOutcome),
    session.tasks[index]? = some (call, .ended (.ok outcome)) → call.target = key →
      session.world.holder key = some call.cluster.displayName

namespace OrderlyAt

variable {key : ResourceKey} {session : PassSession}

/-- No move but an insert changes the holder, once there is one. -/
theorem holder_step (orderly : OrderlyAt key session) {move : PassMove}
    (spares : PassMove.Spares key move) {name : String}
    (held : session.world.holder key = some name) :
    (passing.step session move).world.holder key = some name := by
  rcases passing.world_step_cases orderly.alone move with
    same | ⟨index, call, reading, outcome, -, waits, ok⟩ | ⟨event, is_event, applied⟩
  · -- Readings and failures change nothing.
    rw [same]
    exact held
  · by_cases target : call.target = key
    · -- Only the holder's own pass gets through, and it makes the holder the holder.
      subst target
      obtain ⟨holds, only⟩ := (orderly.underway index call reading waits rfl).finishes ok
      rw [only name held]
      exact holds
    · -- A pass with another target leaves the key alone.
      obtain ⟨plan, done⟩ := MemoryWorld.finishPass_ok ok
      rw [MemoryWorld.holder, done.objects_of_ne (Ne.symm target)]
      exact held
  · -- An event that inserts elsewhere, if at all, leaves the key alone.
    have outside : key ∉ event.inserted.toList := by simpa [eq_comm] using spares event is_event
    have alike := (event.stepsTo_apply session.world).objects_eq outside
    rw [MemoryWorld.holder, applied]
    exact (congrArg (holderIn StorageCluster.groupKind) alike).trans held

/-- What a pass reads now it recollects. -/
theorem recollects_now (orderly : OrderlyAt key session) {call : PassCall} {owner : Owner}
    (owned : call.cluster.owner = .ok owner) :
    session.world.Recollects call (session.world.passReading call.settings call.cluster owner) :=
  ⟨owned, MemoryStore.recalls_now orderly.sound call.target, fun _ held => held⟩

/-- A move but for an insert keeps a session orderly while versions last. -/
theorem step (orderly : OrderlyAt key session) {move : PassMove}
    (spares : PassMove.Spares key move)
    (room : session.world.store.version.toNat + (passing.storedKey session move).toList.length < UInt64.size) :
    OrderlyAt key (passing.step session move) := by
  have moved : MemoryStore.StepsTo session.world.store (passing.step session move).world.store
      (passing.storedKey session move) := StoreInterplay.stepsTo_step orderly.alone move
  refine ⟨moved.sound orderly.sound room, StoreInterplay.queued_step orderly.alone move, ?_, ?_⟩
  · intro index call reading found target
    -- A pass is underway because it was before, or because it has just read.
    rcases Interplay.getElem?_step_cases found with old | ⟨rfl, -, started⟩ | ⟨earlier, -, -, ended⟩
    · subst target
      exact (orderly.underway index call reading old rfl).step moved room
        fun name held => orderly.holder_step spares held
    · -- What has just been read stands in the world that nothing has changed since.
      obtain ⟨owner, owned, rfl⟩ := eq_passReading_of_started orderly.alone started
      rw [passing.world_step_start orderly.alone call]
      exact orderly.recollects_now owned
    · cases ended
  · intro index call outcome found target
    -- A pass has succeeded because it had before, or because it has just gone on.
    rcases Interplay.getElem?_step_cases found with old | ⟨rfl, -, started⟩ | ⟨reading, rfl, waits, ended⟩
    · exact orderly.holder_step spares (orderly.succeeded index call outcome old target)
    · -- No pass succeeds with its reading alone.
      generalize ((passing.read call).run session.world).1 = result at started
      cases result <;> cases started
    · subst target
      rw [Interplay.step_resume waits]
      have ok := (Stage.ended.inj ended).symm
      exact ((orderly.underway index call reading waits rfl).finishes (Prod.ext ok rfl)).1

/-- A run of moves among which nobody inserts under the key keeps a session orderly while versions last. -/
theorem run (orderly : OrderlyAt key session) (moves : List PassMove)
    (spares : ∀ move ∈ moves, PassMove.Spares key move)
    (room : session.world.store.version.toNat + (passing.storedKeys session moves).length < UInt64.size) :
    OrderlyAt key (passing.run session moves) :=
  StoreInterplay.run_induction (fun _ orderly => orderly.alone)
    (fun _ _ orderly spares room => orderly.step spares room) orderly moves spares room

end OrderlyAt

/-- What a session keeps up about a key since a cluster held it, and so many passes had been started. -/
structure HeldAt (key : ResourceKey) (name : String) (count : Nat) (session : PassSession) : Prop
    extends OrderlyAt key session where
  holder : session.world.holder key = some name
  /-- Every pass that was started later has found that cluster as the holder. -/
  late : ∀ (index : Nat) (call : PassCall) (reading : PassReading), count ≤ index →
    session.tasks[index]? = some (call, .underway reading) → call.target = key →
      holderIn StorageCluster.groupKind reading.stored = some name

namespace HeldAt

variable {key : ResourceKey} {name : String} {count : Nat} {session : PassSession}

/-- A holder stays the holder with every move but an insert, and later passes find it so. -/
theorem step (held : HeldAt key name count session) {move : PassMove}
    (spares : PassMove.Spares key move)
    (room : session.world.store.version.toNat + (passing.storedKey session move).toList.length < UInt64.size) :
    HeldAt key name count (passing.step session move) := by
  refine ⟨held.toOrderlyAt.step spares room, held.toOrderlyAt.holder_step spares held.holder, ?_⟩
  intro index call reading after found target
  rcases Interplay.getElem?_step_cases found with old | ⟨rfl, -, started⟩ | ⟨earlier, -, -, ended⟩
  · exact held.late index call reading after old target
  · -- What a pass reads now is what the holder holds.
    subst target
    obtain ⟨owner, owned, rfl⟩ := eq_passReading_of_started held.alone started
    exact held.holder
  · cases ended

/-- A holder stays the holder throughout a run in which nobody inserts, and later passes find it so. -/
theorem run (held : HeldAt key name count session) (moves : List PassMove)
    (spares : ∀ move ∈ moves, PassMove.Spares key move)
    (room : session.world.store.version.toNat + (passing.storedKeys session moves).length < UInt64.size) :
    HeldAt key name count (passing.run session moves) :=
  StoreInterplay.run_induction (fun _ held => held.alone) (fun _ _ held spares room => held.step spares room)
    held moves spares room

end HeldAt

/-- A run of passes in a world that has been set up before, cut in two. -/
structure Contest where
  identity : Option String
  /-- How the world is set up, which includes what its config maps hold. -/
  setting : List MemoryWorld.Event
  first : List PassMove
  later : List PassMove

namespace Contest

variable (contest : Contest)

/-- The session in which the world is set up. -/
def opening : PassSession := .opening (.empty contest.identity)

/-- The session in which the run begins. -/
def opened : PassSession := passing.run contest.opening (contest.setting.map .others)

/-- The session in which the run is cut in two. -/
def middle : PassSession := passing.run contest.opened contest.first

/-- The session at the end of the run. -/
def ended : PassSession := passing.run contest.middle contest.later

/-- How many versions setting up the world and the run use up. -/
def bumps : Nat :=
  (passing.storedKeys contest.opening (contest.setting.map .others ++ contest.first ++ contest.later)).length

/-- The versions that are used up are those of the setting and of both parts of the run. -/
theorem bumps_eq :
    contest.bumps = (passing.storedKeys contest.opening (contest.setting.map .others)).length +
      (passing.storedKeys contest.opened contest.first).length +
      (passing.storedKeys contest.middle contest.later).length := by
  -- Each part stores from the session that the parts before it have led to.
  simp only [bumps, StoreInterplay.storedKeys_append, Interplay.run_append, List.length_append]
  rfl

variable {contest} {key : ResourceKey}

/-- The run begins with as many versions given out as the setting has used up. -/
theorem version_opened (few : contest.bumps < UInt64.size) :
    contest.opened.world.store.version.toNat =
      (passing.storedKeys contest.opening (contest.setting.map .others)).length := by
  have zero : contest.opening.world.store.version.toNat = 0 := rfl
  have counted := contest.bumps_eq
  have growth := (StoreInterplay.grows_run passing contest.opening rfl (contest.setting.map .others)).1
  have given := growth.version_eq (by omega)
  rw [zero, Nat.zero_add] at given
  exact given

/-- The run begins orderly, whatever the world has been set up with. -/
theorem orderly_opened (few : contest.bumps < UInt64.size) : OrderlyAt key contest.opened := by
  -- There are no passes yet, and inserting keeps the store sound.
  have none_yet : contest.opened.tasks = [] := Interplay.tasks_run_others _ contest.opening contest.setting
  have zero : contest.opening.world.store.version.toNat = 0 := rfl
  have counted := contest.bumps_eq
  obtain ⟨growth, alone⟩ := StoreInterplay.grows_run passing contest.opening rfl (contest.setting.map .others)
  refine ⟨growth.sound MemoryStore.sound_empty (by omega), alone, ?_, ?_⟩
  · intro index call reading found
    rw [none_yet] at found
    cases found
  · intro index call outcome found
    rw [none_yet] at found
    cases found

/-- Where the run is cut, as many versions are given out as have been used up by then. -/
theorem version_middle (few : contest.bumps < UInt64.size) :
    contest.middle.world.store.version.toNat +
      (passing.storedKeys contest.middle contest.later).length = contest.bumps := by
  have counted := contest.bumps_eq
  have given := version_opened few
  -- The first part of the run adds what it stores to what was there.
  have alone := (StoreInterplay.grows_run passing contest.opening rfl (contest.setting.map .others)).2
  have growth := (StoreInterplay.grows_run passing contest.opened alone contest.first).1
  have grown := growth.version_eq (by omega)
  change contest.middle.world.store.version.toNat = _ at grown
  omega

/-- Since a pass has succeeded, its cluster holds the config map, to the end of a run without inserts. -/
theorem heldAt_ended (few : contest.bumps < UInt64.size)
    (spares : ∀ move ∈ contest.first ++ contest.later, PassMove.Spares key move)
    {index : Nat} {winner : PassCall} {outcome : PassOutcome} (target : winner.target = key)
    (returned : contest.middle.tasks[index]? = some (winner, .ended (.ok outcome))) :
    HeldAt key winner.cluster.displayName contest.middle.tasks.length contest.ended := by
  have counted := contest.bumps_eq
  have begun := version_opened few
  have cut := version_middle few
  -- The first part of the run is orderly, and so its winner is the holder.
  have orderly : OrderlyAt key contest.middle :=
    (orderly_opened few).run contest.first
      (fun move member => spares move (List.mem_append_left contest.later member)) (by omega)
  have held : HeldAt key winner.cluster.displayName contest.middle.tasks.length contest.middle := by
    refine ⟨orderly, orderly.succeeded index winner outcome returned target, ?_⟩
    -- No pass has been started later yet.
    intro place call reading after found
    have within := (List.getElem?_eq_some_iff.1 found).1
    omega
  exact held.run contest.later
    (fun move member => spares move (List.mem_append_right contest.first member)) (by omega)

end Contest

/-- What a pass fails with while another name holds its map: it is told of the holder if it gets to read the map. -/
def PassCall.faultUnder (call : PassCall) (world : MemoryWorld) (holder : String) : Failure :=
  match call.cluster.owner, world.getFault with
  | .error failure, _ => failure
  | .ok _, some text => .internal text
  | .ok _, none => .alreadyOwned ("ConfigMap/" ++ call.target.render) StorageCluster.kind holder

/-- A pass cannot touch the config map of a key, which a cluster of another name holds. -/
structure ShutOut (key : ResourceKey) (name : String) (count : Nat) (session : PassSession) (rival : PassCall) :
    Prop where
  /-- Without interruption it fails and changes nothing. -/
  whole : (runPass MemoryWorld.collaborators rival.settings rival.cluster).run session.world =
    (.error (rival.faultUnder session.world name), session.world)
  /-- Its reading changes nothing. -/
  start : (passing.step session (.start rival)).world = session.world
  /-- Wherever it has ended, it has failed. -/
  failed : ∀ (place : Nat) (result : Except Failure PassOutcome),
    session.tasks[place]? = some (rival, .ended result) → ∃ failure, result = .error failure
  /-- Wherever it is underway, going on changes nothing, neither the store nor the pods. -/
  resume : ∀ (place : Nat) (reading : PassReading), session.tasks[place]? = some (rival, .underway reading) →
    (passing.step session (.resume place)).world = session.world
  /-- If it has read the map since it was held, it is told of the holder. -/
  told : ∀ (place : Nat) (reading : PassReading), session.tasks[place]? = some (rival, .underway reading) →
    holderIn StorageCluster.groupKind reading.stored = some name →
      (passing.step session (.resume place)).tasks[place]? = some (rival, .ended (.error
        (.alreadyOwned ("ConfigMap/" ++ key.render) StorageCluster.kind name)))
  /-- If it has read the map before, it is told that its reading is stale, or meets the injected failure. -/
  stale : ∀ (place : Nat) (reading : PassReading), session.tasks[place]? = some (rival, .underway reading) →
    holderIn StorageCluster.groupKind reading.stored ≠ some name →
      place < count ∧ (passing.step session (.resume place)).tasks[place]? = some (rival, .ended (.error
        (if session.world.store.failsWrites then MemoryStore.conflict key "injected failure"
          else WritePlan.staleFault key reading.stored)))

/-- A pass gets through, and leaves a config map under the key that its cluster controls by the uid it has now. -/
structure GetsThrough (key : ResourceKey) (world : MemoryWorld) (call : PassCall) (owner : Owner)
    (outcome : PassOutcome) (after : MemoryWorld) : Prop where
  ok : (runPass MemoryWorld.collaborators call.settings call.cluster).run world = (.ok outcome, after)
  claims : ∃ stored, after.store.objects key = some stored ∧ .controlling owner ∈ stored.ownerRefs
  /-- It writes where the map did not have that reference yet. -/
  writes : ∀ before, world.store.objects key = some before → .controlling owner ∉ before.ownerRefs →
    outcome.changed = true ∧ after.store.writes = world.store.writes + 1

namespace HeldAt

variable {key : ResourceKey} {name : String} {count : Nat} {session : PassSession}

/-- A rival's pass that nothing interrupts fails and changes nothing. -/
theorem run_runPass_of_rival (held : HeldAt key name count session) {rival : PassCall} (target : rival.target = key)
    (other : rival.cluster.displayName ≠ name) :
    (runPass MemoryWorld.collaborators rival.settings rival.cluster).run session.world =
      (.error (rival.faultUnder session.world name), session.world) := by
  subst target
  rw [PassCall.faultUnder]
  cases owned : rival.cluster.owner with
  | error failure => exact MemoryWorld.run_runPass_unowned owned session.world
  | ok owner =>
    rcases Option.eq_none_or_eq_some session.world.getFault with readable | ⟨text, fault⟩
    · rw [readable, MemoryWorld.run_runPass_of_readable held.alone owned readable]
      -- What it reads is what is held now, so that it cannot have missed the holder.
      rcases (held.recollects_now owned).refused held.holder other with ⟨-, run⟩ | ⟨free, -⟩
      · exact run
      · cases free.symm.trans held.holder
    · rw [fault]
      exact MemoryWorld.run_runPass_unreadable owned fault

/-- Whoever does not have the holder's name is shut out. -/
theorem shutsOut (held : HeldAt key name count session) {rival : PassCall} (target : rival.target = key)
    (other : rival.cluster.displayName ≠ name) : ShutOut key name count session rival := by
  subst target
  constructor
  case whole => exact held.run_runPass_of_rival rfl other
  case start => exact passing.world_step_start held.alone rival
  case failed =>
    intro place result found
    -- A rival that had succeeded would be the holder.
    cases result with
    | error failure => exact ⟨failure, rfl⟩
    | ok outcome =>
      have holds := held.succeeded place rival outcome found rfl
      exact absurd (Option.some.inj (holds.symm.trans held.holder)) other
  case resume =>
    intro place reading waits
    rw [Interplay.step_resume waits]
    rcases (held.underway place rival reading waits rfl).refused held.holder other with ⟨-, run⟩ | ⟨-, run⟩
    · rw [run]
    · rw [run]
  case told =>
    intro place reading waits seen
    rw [Interplay.getElem?_step_resume waits]
    rcases (held.underway place rival reading waits rfl).refused held.holder other with ⟨-, run⟩ | ⟨free, -⟩
    · rw [run]
    · rw [free] at seen
      cases seen
  case stale =>
    intro place reading waits unseen
    rw [Interplay.getElem?_step_resume waits]
    rcases (held.underway place rival reading waits rfl).refused held.holder other with ⟨seen, -⟩ | ⟨-, run⟩
    · exact absurd seen unseen
    · refine ⟨?_, by rw [run]⟩
      -- Every later pass has found the holder.
      rcases Nat.lt_or_ge place count with before | after
      · exact before
      · exact absurd (held.late place rival reading after waits rfl) unseen

/-- A pass of the holder's namesake gets through unless a failure is injected. -/
theorem namesake_getsThrough (held : HeldAt key name count session) {call : PassCall}
    (target : call.target = key) (named : call.cluster.displayName = name) {owner : Owner}
    (owned : call.cluster.owner = .ok owner) (readable : session.world.getFault = none)
    (writable : session.world.store.failsWrites = false) :
    ∃ outcome after, GetsThrough key session.world call owner outcome after := by
  subst target
  obtain ⟨kind, -, own⟩ := StorageCluster.of_owner_ok owned
  have placed : ∀ existing, session.world.store.objects call.target = some existing → existing.key = call.target :=
    fun existing found => held.sound.key_eq call.target existing found
  have free : ∀ other, holderIn owner.groupKind (session.world.store.objects call.target) = some other →
      other = owner.name := by
    intro other holds
    rw [kind] at holds
    rw [own, named]
    exact Option.some.inj (holds.symm.trans held.holder)
  -- Nothing stands in the way of the pass, as it has no rival.
  obtain ⟨outcome, after, ok⟩ := MemoryWorld.exists_runPass_ok held.alone owned readable writable placed free
  obtain ⟨same, plan, owned', -, done⟩ := MemoryWorld.runPass_ok held.alone ok
  obtain rfl : owner = same := Except.ok.inj (owned.symm.trans owned')
  obtain ⟨version, stored, -⟩ := done.objects_target rfl
  refine ⟨outcome, after, ok, ⟨_, stored, done.controlling_mem rfl stored⟩, ?_⟩
  intro before found absent
  have changed : outcome.changed = true := by
    cases told : outcome.changed with
    | true => rfl
    | false =>
      -- A map that needs no change has the reference already.
      have same := done.after_eq_of_unchanged told
      rw [← same] at found
      exact absurd (done.controlling_mem rfl found) absent
  exact ⟨changed, done.writes_of_changed changed⟩

end HeldAt

/--
Two clusters never fight over one config map, whatever it holds at first and in whatever order passes take steps.

The two steps of a pass make up the whole pass where nothing comes between them. Once a pass has succeeded, clusters
of another name are shut out while versions last, and a cluster of the same name still gets through, whatever its uid.
The map may be inserted while the world is set up, but from the first move of the run to its last nobody inserts
under its key.
-/
theorem rivals_never_write (contest : Contest) (few : contest.bumps < UInt64.size) {index : Nat} {winner : PassCall}
    {outcome : PassOutcome}
    (returned : contest.middle.tasks[index]? = some (winner, .ended (.ok outcome)))
    (spares : ∀ move ∈ contest.first ++ contest.later, PassMove.Spares winner.target move) :
    (∀ call : PassCall, passing.whole call = runPass MemoryWorld.collaborators call.settings call.cluster) ∧
    (∀ rival : PassCall, rival.target = winner.target →
      rival.cluster.displayName ≠ winner.cluster.displayName →
        ShutOut winner.target winner.cluster.displayName contest.middle.tasks.length contest.ended rival) ∧
    ∀ peer : PassCall, peer.target = winner.target → peer.cluster.displayName = winner.cluster.displayName →
      ∀ owner, peer.cluster.owner = .ok owner → contest.ended.world.getFault = none →
        contest.ended.world.store.failsWrites = false →
          ∃ outcome after, GetsThrough winner.target contest.ended.world peer owner outcome after := by
  have held := Contest.heldAt_ended few spares rfl returned
  refine ⟨whole_passing, ?_, ?_⟩
  · -- Whoever has another name meets the holder, or what the holder has written.
    intro rival same other
    exact held.shutsOut same other
  · -- A namesake is the same object to the map, whatever its uid.
    intro peer same named owner owned readable writable
    exact held.namesake_getsThrough same named owned readable writable

/-- The pass of a standard operator for the cluster of a name and a uid. -/
def namedPass (name uid : String) : PassCall :=
  ⟨.standard, { metadata := { name := some name, uid := some uid } }⟩

/-- A pod of the operator that a standard pass restarts. -/
def rookPod : PodRef := ⟨"openshift-storage", "rook"⟩

/--
One cluster reads a map that an initializer controls, another takes it over, and the first one reads it again.

A pod of the operator has come up by then.
-/
def twoClusters : Contest where
  identity := some "cluster-1"
  setting :=
    [.insert
      { key := ⟨"ocs-operator-config", "openshift-storage"⟩
        data := ∅
        ownerRefs := [⟨⟨"ocs.openshift.io/v1", "OCSInitialization", "init", "0"⟩, some true, none⟩]
        version := none }]
  first := [.start (namedPass "b" "2"), .start (namedPass "a" "1"), .resume 1]
  later :=
    [.others (.addPod rookPod ((∅ : TextMap).insert "app" "rook-ceph-operator")), .start (namedPass "b" "2")]

/-- The slower of two clusters is told that its first reading is stale, and of the faster one after the second. -/
theorem rivals_never_write_twoClusters :
    twoClusters.bumps < UInt64.size ∧
    (∃ outcome, twoClusters.middle.tasks[1]? = some (namedPass "a" "1", .ended (.ok outcome))) ∧
    (∀ move ∈ twoClusters.first ++ twoClusters.later, PassMove.Spares (namedPass "a" "1").target move) ∧
    twoClusters.ended.world.pods.selected "openshift-storage" Settings.standard.dependents = [rookPod] ∧
    passing.whole (namedPass "b" "2") = runPass MemoryWorld.collaborators .standard (namedPass "b" "2").cluster ∧
    (runPass MemoryWorld.collaborators .standard (namedPass "b" "2").cluster).run twoClusters.ended.world =
      (.error (.alreadyOwned ("ConfigMap/" ++ (namedPass "a" "1").target.render) "StorageCluster" "a"),
        twoClusters.ended.world) ∧
    (passing.step twoClusters.ended (.resume 0)).world = twoClusters.ended.world ∧
    (passing.step twoClusters.ended (.resume 0)).tasks[0]? = some (namedPass "b" "2", .ended (.error
      (MemoryStore.conflict (namedPass "a" "1").target "resourceVersion mismatch"))) ∧
    (passing.step twoClusters.ended (.resume 2)).world = twoClusters.ended.world ∧
    (passing.step twoClusters.ended (.resume 2)).tasks[2]? = some (namedPass "b" "2", .ended (.error
      (.alreadyOwned ("ConfigMap/" ++ (namedPass "a" "1").target.render) "StorageCluster" "a"))) ∧
    ∃ outcome after, GetsThrough (namedPass "a" "1").target twoClusters.ended.world (namedPass "a" "3")
      ⟨"ocs.openshift.io/v1", "StorageCluster", "a", "3"⟩ outcome after ∧ outcome.changed = true := by
  have two : twoClusters.bumps = 2 := rfl
  have few : twoClusters.bumps < UInt64.size := by rw [two]; decide
  obtain ⟨outcome, returned⟩ : ∃ outcome,
      twoClusters.middle.tasks[1]? = some (namedPass "a" "1", .ended (.ok outcome)) := ⟨_, rfl⟩
  have spares : ∀ move ∈ twoClusters.first ++ twoClusters.later, PassMove.Spares (namedPass "a" "1").target move := by
    -- The one event of this run is about a pod.
    rintro move member event rfl
    simp only [twoClusters, List.cons_append, List.nil_append, List.mem_cons, Move.others.injEq, reduceCtorEq,
      List.not_mem_nil, or_false, false_or] at member
    subst member
    nofun
  obtain ⟨whole, rivals, peers⟩ := rivals_never_write twoClusters few returned spares
  have out := rivals (namedPass "b" "2") rfl (by decide)
  -- The first reading finds the initializer's map, the second one the map of the faster cluster.
  obtain ⟨early, existing, begun, stored, free⟩ : ∃ reading existing,
      twoClusters.ended.tasks[0]? = some (namedPass "b" "2", .underway reading) ∧
        reading.stored = some existing ∧ holderIn StorageCluster.groupKind (some existing) = none :=
    ⟨_, _, rfl, rfl, rfl⟩
  obtain ⟨late, again, held⟩ : ∃ reading,
      twoClusters.ended.tasks[2]? = some (namedPass "b" "2", .underway reading) ∧
        holderIn StorageCluster.groupKind reading.stored = some (namedPass "a" "1").cluster.displayName :=
    ⟨_, rfl, rfl⟩
  have writable : twoClusters.ended.world.store.failsWrites = false := rfl
  have stale := (out.stale 0 early begun (by rw [stored, free]; nofun)).2
  rw [writable, stored] at stale
  -- The faster cluster comes again under a new uid, which the map does not know yet.
  obtain ⟨changed, after, through⟩ := peers (namedPass "a" "3") rfl rfl _ rfl rfl writable
  obtain ⟨before, found, absent⟩ : ∃ before,
      twoClusters.ended.world.store.objects (namedPass "a" "1").target = some before ∧
        .controlling ⟨"ocs.openshift.io/v1", "StorageCluster", "a", "3"⟩ ∉ before.ownerRefs :=
    ⟨_, rfl, by decide⟩
  have written := (through.writes before found absent).1
  exact ⟨few, ⟨outcome, returned⟩, spares, rfl, whole _, out.whole, out.resume 0 early begun, stale,
    out.resume 2 late again, out.told 2 late again held, changed, after, through, written⟩

end StorageConfig
