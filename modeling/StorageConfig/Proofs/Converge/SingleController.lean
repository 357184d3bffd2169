import StorageConfig.Proofs.Concurrency.LostUpdate
import StorageConfig.Proofs.Memory.Event

/-!
Calls that bring config maps in line, one after the other: no config map ever gets a second controller.

That there is one controller only needs that no object is referred to twice, so both are kept up together.
-/

namespace StorageConfig

/-- At most one reference marks a controller, and no two are to objects of one group, kind and name. -/
structure WellOwned (refs : List OwnerRef) : Prop where
  one : (refs.filter OwnerRef.isController).length ≤ 1
  distinct : (refs.map fun ref => ref.owner.identity).Nodup

/-- Only the controllers of the new owner's kind are left after the hand-off, and those as they were. -/
theorem filter_isController_handOff (owner : Owner) (refs : List OwnerRef) :
    (handOff owner refs).filter OwnerRef.isController =
      refs.filter fun ref => ref.isController && ref.owner.sameKind owner := by
  rw [handOff, List.filter_map]
  -- The marks after the hand-off are looked up before it, where nothing has to be released.
  have marks : OwnerRef.isController ∘ OwnerRef.yieldTo owner =
      fun ref => ref.isController && ref.owner.sameKind owner := by
    funext ref
    exact ref.isController_yieldTo owner
  rw [marks]
  refine (List.map_congr_left fun ref member => ?_).trans (List.map_id _)
  have stays := (List.mem_filter.1 member).2
  rw [← OwnerRef.isController_yieldTo] at stays
  exact OwnerRef.yieldTo_of_isController stays

/-- Claiming control adds the owner's object to those referred to, unless it is among them. -/
theorem map_identity_claimControl (owner : Owner) (refs : List OwnerRef) :
    (claimControl owner refs).map (fun ref => ref.owner.identity) =
      if owner.identity ∈ refs.map fun ref => ref.owner.identity
        then refs.map fun ref => ref.owner.identity
        else refs.map (fun ref => ref.owner.identity) ++ [owner.identity] := by
  induction refs with
  | nil => simp [claimControl]
  | cons ref refs ih =>
    rw [claimControl]
    by_cases same : ref.owner.identity = owner.identity
    · -- The first reference is to the object, and the one in its place is too.
      simp [Owner.sameObject, same]
    · have other : ¬ owner.identity = ref.owner.identity := fun equal => same equal.symm
      simp only [Owner.sameObject, beq_iff_eq, same, if_false, List.map_cons, List.mem_cons, other,
        false_or, ih]
      split <;> rfl

/-- Claiming control leaves the owner alone in control, if only its own object was and is referred to once. -/
theorem filter_isController_claimControl {owner : Owner} {refs : List OwnerRef}
    (distinct : (refs.map fun ref => ref.owner.identity).Nodup)
    (own : ∀ ref ∈ refs, ref.isController = true → ref.owner.identity = owner.identity) :
    (claimControl owner refs).filter OwnerRef.isController = [.controlling owner] := by
  induction refs with
  | nil => simp [claimControl]
  | cons ref refs ih =>
    rw [List.map_cons, List.nodup_cons] at distinct
    rw [claimControl]
    by_cases same : ref.owner.identity = owner.identity
    · -- The object is not referred to again, so nothing behind is marked.
      have plain : refs.filter OwnerRef.isController = [] := by
        rw [List.filter_eq_nil_iff]
        intro later member control
        have again := own later (List.mem_cons_of_mem ref member) control
        exact distinct.1 (List.mem_map.2 ⟨later, member, again.trans same.symm⟩)
      rw [if_pos (by simpa [Owner.sameObject] using same),
        List.filter_cons_of_pos (OwnerRef.isController_controlling owner), plain]
    · have unmarked : ¬ ref.isController = true := fun control => same (own ref List.mem_cons_self control)
      have rest := ih distinct.2 fun later member => own later (List.mem_cons_of_mem ref member)
      simp [Owner.sameObject, same, unmarked, rest]

/-- A takeover that no rival stands against leaves the owner alone in control. -/
theorem WellOwned.controllers_takeover {owner : Owner} {refs : List OwnerRef} (owned : WellOwned refs)
    (free : ∀ name, holderOf owner.groupKind refs = some name → name = owner.name) :
    (claimControl owner (handOff owner refs)).filter OwnerRef.isController = [.controlling owner] := by
  have identities : (handOff owner refs).map (fun ref => ref.owner.identity) =
      refs.map fun ref => ref.owner.identity := by
    simp [handOff]
  refine filter_isController_claimControl (by rw [identities]; exact owned.distinct) fun ref member control => ?_
  -- Whoever is still marked is the only controller there was, of the owner's kind, and so its holder.
  have left := List.mem_filter.2 ⟨member, control⟩
  rw [filter_isController_handOff] at left
  obtain ⟨held, marked⟩ := List.mem_filter.1 left
  simp only [Bool.and_eq_true, Owner.sameKind, beq_iff_eq] at marked
  have holds : holderOf owner.groupKind refs = some ref.owner.name :=
    (holderOf_eq_some_iff owned.one).2 ⟨ref, held, marked, rfl⟩
  exact Prod.ext marked.2 (free ref.owner.name holds)

/-- A takeover that no rival stands against keeps the references well owned. -/
theorem WellOwned.takeover {owner : Owner} {refs : List OwnerRef} (owned : WellOwned refs)
    (free : ∀ name, holderOf owner.groupKind refs = some name → name = owner.name) :
    WellOwned (claimControl owner (handOff owner refs)) := by
  constructor
  · rw [owned.controllers_takeover free]
    exact Nat.le_refl 1
  · have identities : (handOff owner refs).map (fun ref => ref.owner.identity) =
        refs.map fun ref => ref.owner.identity := by
      simp [handOff]
    rw [map_identity_claimControl, identities]
    -- An object that is added was not referred to before.
    split
    · exact owned.distinct
    · rename_i missing
      refine List.nodup_append.2 ⟨owned.distinct, by simp, fun one there other here => ?_⟩
      rw [List.mem_singleton] at here
      rintro rfl
      exact missing (here ▸ there)

/-- The references of every stored config map are well owned. -/
def MemoryStore.WellOwned (store : MemoryStore) : Prop :=
  ∀ key resource, store.objects key = some resource → StorageConfig.WellOwned resource.ownerRefs

/-- Storing a well-owned config map keeps a store well owned. -/
theorem MemoryStore.WellOwned.insert {store : MemoryStore} (owned : store.WellOwned) {resource : ConfigMap}
    (fair : StorageConfig.WellOwned resource.ownerRefs) : (store.insert resource).WellOwned := by
  intro key stored found
  by_cases same : key = resource.key
  · subst same
    rw [objects_insert_self] at found
    rw [← Option.some.inj found]
    exact fair
  · rw [objects_insert_of_ne same] at found
    exact owned key stored found

namespace ConvergeCall

/-- The operation that a call runs. -/
def action {σ : Type} (world : Collaborators σ) (call : ConvergeCall) : Action σ Bool :=
  converge world call.values call.target call.owner

variable {call : ConvergeCall} {world after : MemoryWorld}

/-- A call that succeeds without anyone in between has carried out a plan made from what is stored. -/
theorem of_action_ok (alone : world.queued = []) {changed : Bool}
    (ok : (call.action MemoryWorld.collaborators).run world = (.ok changed, after)) :
    ∃ plan, WritePlan.Merges call.values call.owner call.target (world.store.objects call.target) plan ∧
      after = { world with store := plan.applied world.store } := by
  rw [action, ← whole_converging] at ok
  obtain ⟨seen, middle, read, followed⟩ := Action.of_run_bind_ok ok
  -- A reading that succeeds gives what is stored and changes nothing.
  have reading : (MemoryWorld.collaborators.get call.target).run world = (.ok seen, middle) := read
  obtain rfl := MemoryWorld.eq_of_run_get alone reading
  obtain rfl := MemoryWorld.objects_of_run_get reading
  obtain ⟨plan, made, -, left⟩ := of_follow_ok followed
  exact ⟨plan, WritePlan.merges_of_make made, left⟩

/-- A call that fails without anyone in between changes nothing. -/
theorem of_action_error (alone : world.queued = []) {failure : Failure}
    (failed : (call.action MemoryWorld.collaborators).run world = (.error failure, after)) : after = world := by
  rw [action, ← whole_converging] at failed
  -- Either nothing can be read, or what follows the reading fails.
  rcases reading : (MemoryWorld.collaborators.get call.target).run world with ⟨cause | seen, middle⟩
  · obtain rfl := MemoryWorld.eq_of_run_get alone reading
    have ended := Action.run_bind_of_error reading (call.follow MemoryWorld.collaborators)
    exact (Prod.mk.inj (failed.symm.trans ended)).2
  · obtain rfl := MemoryWorld.eq_of_run_get alone reading
    have went := Action.run_bind_of_ok reading (call.follow MemoryWorld.collaborators)
    exact of_follow_error (went.symm.trans failed)

/-- A call that succeeds on a well-owned config map leaves its owner alone in control. -/
theorem controllers_of_action_ok (alone : world.queued = []) (owned : world.store.WellOwned) {changed : Bool}
    (ok : (call.action MemoryWorld.collaborators).run world = (.ok changed, after)) :
    ∃ stored, after.store.objects call.target = some stored ∧
      stored.ownerRefs.filter OwnerRef.isController = [.controlling call.owner] ∧
      StorageConfig.WellOwned stored.ownerRefs := by
  obtain ⟨plan, merges, rfl⟩ := of_action_ok alone ok
  obtain ⟨version, found, -⟩ := WritePlan.objects_applied merges
  -- A missing config map starts out without references, any other is well owned.
  have fair : StorageConfig.WellOwned
      ((world.store.objects call.target).getD (.fresh call.target)).ownerRefs := by
    cases held : world.store.objects call.target with
    | none => exact ⟨Nat.zero_le 1, List.nodup_nil⟩
    | some current => exact owned call.target current held
  have free := (CsiValues.mergeInto_eq_ok_iff.1 (WritePlan.mergeInto_of_merges merges)).1
  refine ⟨_, found, ?_, ?_⟩
  · rw [ConfigMap.ownerRefs_atVersion, CsiValues.ownerRefs_merged]
    exact fair.controllers_takeover free
  · rw [ConfigMap.ownerRefs_atVersion, CsiValues.ownerRefs_merged]
    exact fair.takeover free

/-- A call keeps a store well owned, whether it succeeds or fails. -/
theorem wellOwned_action (alone : world.queued = []) (owned : world.store.WellOwned) :
    ((call.action MemoryWorld.collaborators).run world).2.store.WellOwned := by
  cases run : (call.action MemoryWorld.collaborators).run world with
  | mk result after =>
    cases result with
    | error failure =>
      rw [of_action_error alone run]
      exact owned
    | ok changed =>
      obtain ⟨stored, found, -, fair⟩ := controllers_of_action_ok alone owned run
      obtain ⟨plan, merges, rfl⟩ := of_action_ok alone run
      intro key resource held
      -- Under the target stands what was just looked at, elsewhere what stood there.
      by_cases same : key = call.target
      · subst same
        rw [Option.some.inj (held.symm.trans found)]
        exact fair
      · have outside : key ∉ (if plan.outcome.isChange then some call.target else none : Option ResourceKey).toList := by
          split <;> simp [same]
        have kept := (WritePlan.stepsTo_applied merges world.store).objects_eq outside
        exact owned key resource (kept.symm.trans held)

end ConvergeCall

/-- One of the things that happen in turn. -/
inductive Turn where
  | own (call : ConvergeCall)
  /-- Others switch failures on or off, or store something. -/
  | others (event : MemoryWorld.Event)

namespace Turn

/-- The world after a turn. -/
def apply (world : MemoryWorld) : Turn → MemoryWorld
  | .own call => ((call.action MemoryWorld.collaborators).run world).2
  | .others event => event.apply world

/-- Others store only config maps that are well owned. -/
def Fair : Turn → Prop
  | .others (.insert resource) => WellOwned resource.ownerRefs
  | _ => True

/-- A turn leaves nobody waiting to write. -/
theorem queued_apply {world : MemoryWorld} (alone : world.queued = []) (turn : Turn) :
    (turn.apply world).queued = [] := by
  cases turn with
  | others event => exact (event.queued_apply world).trans alone
  | own call =>
    rw [apply]
    cases run : (call.action MemoryWorld.collaborators).run world with
    | mk result after =>
      cases result with
      | ok changed =>
        obtain ⟨plan, -, rfl⟩ := ConvergeCall.of_action_ok alone run
        exact alone
      | error failure =>
        rw [ConvergeCall.of_action_error alone run]
        exact alone

/-- A fair turn keeps a store well owned. -/
theorem wellOwned_apply {world : MemoryWorld} (alone : world.queued = []) (owned : world.store.WellOwned)
    {turn : Turn} (fair : turn.Fair) : (turn.apply world).store.WellOwned := by
  cases turn with
  | own call => exact call.wellOwned_action alone owned
  | others event =>
    -- Only an insert touches what is stored.
    cases event with
    | insert resource => exact owned.insert fair
    | _ => exact owned

/-- Any number of fair turns keep a store well owned, and leave nobody waiting to write. -/
theorem wellOwned_foldl {world : MemoryWorld} (alone : world.queued = []) (owned : world.store.WellOwned)
    {turns : List Turn} (fair : ∀ turn ∈ turns, turn.Fair) :
    (turns.foldl apply world).store.WellOwned ∧ (turns.foldl apply world).queued = [] := by
  -- The induction is on the turns, and each of them leaves what the next one needs.
  induction turns generalizing world with
  | nil => exact ⟨owned, alone⟩
  | cons turn turns ih =>
    exact ih (queued_apply alone turn) (wellOwned_apply alone owned (fair turn List.mem_cons_self))
      fun later member => fair later (List.mem_cons_of_mem turn member)

end Turn

/--
A store of well-owned config maps stays one through any number of calls, failing ones among them.

A call that succeeds leaves its owner, as it is now, alone in control.
-/
theorem single_controller_throughout {world : MemoryWorld} (alone : world.queued = [])
    (owned : world.store.WellOwned) (turns : List Turn) (fair : ∀ turn ∈ turns, turn.Fair) :
    (turns.foldl Turn.apply world).store.WellOwned ∧
    ∀ first call rest changed after, turns = first ++ .own call :: rest →
      (converge MemoryWorld.collaborators call.values call.target call.owner).run (first.foldl Turn.apply world) =
        (.ok changed, after) →
      ∃ stored, after.store.objects call.target = some stored ∧
        stored.ownerRefs.filter OwnerRef.isController = [⟨call.owner, some true, some true⟩] := by
  refine ⟨(Turn.wellOwned_foldl alone owned fair).1, ?_⟩
  rintro first call rest changed after rfl ok
  -- The turns before the call have kept the store well owned.
  have earlier := Turn.wellOwned_foldl alone owned fun turn member =>
    fair turn (List.mem_append_left _ member)
  obtain ⟨stored, found, controllers, -⟩ := ConvergeCall.controllers_of_action_ok earlier.2 earlier.1 ok
  exact ⟨stored, found, controllers⟩

/-- A world whose config map an initializer controls, and to which a cluster belongs already. -/
def bootstrappedWorld : MemoryWorld :=
  { MemoryWorld.empty none with
    store := MemoryStore.empty.insert
      { key := ⟨"ocs-operator-config", "openshift-storage"⟩
        data := ∅
        ownerRefs :=
          [⟨⟨"ocs.openshift.io/v1", "OCSInitialization", "init", "0"⟩, some true, some true⟩,
            ⟨⟨"ocs.openshift.io/v1alpha1", "StorageCluster", "a", "1"⟩, none, none⟩]
        version := none } }

/-- A call on that config map for a cluster of the given name and uid. -/
def claimBy (name uid : String) : ConvergeCall :=
  { values := ⟨"cluster-1", true, .preferCrc, false, ""⟩
    target := ⟨"ocs-operator-config", "openshift-storage"⟩
    owner := ⟨"ocs.openshift.io/v1", "StorageCluster", name, uid⟩ }

/-- A rival is refused and a write is lost before the cluster comes back with another uid, and takes its place. -/
theorem single_controller_throughout_rivals :
    bootstrappedWorld.queued = [] ∧ bootstrappedWorld.store.WellOwned ∧
    ∃ first changed after stored,
      first = [.own (claimBy "a" "2"), .own (claimBy "b" "3"), .others (.failWrites true), .own (claimBy "a" "4"),
        .others (.failWrites false)] ∧
      (∀ turn ∈ first ++ [.own (claimBy "a" "4")], turn.Fair) ∧
      (converge MemoryWorld.collaborators (claimBy "a" "4").values (claimBy "a" "4").target
        (claimBy "a" "4").owner).run (first.foldl Turn.apply bootstrappedWorld) = (.ok changed, after) ∧
      after.store.objects ⟨"ocs-operator-config", "openshift-storage"⟩ = some stored ∧
      stored.ownerRefs.filter OwnerRef.isController =
        [⟨⟨"ocs.openshift.io/v1", "StorageCluster", "a", "4"⟩, some true, some true⟩] := by
  have alone : bootstrappedWorld.queued = [] := rfl
  have owned : bootstrappedWorld.store.WellOwned := by
    refine MemoryStore.WellOwned.insert (fun key resource found => ?_) ⟨by decide, by decide⟩
    cases found
  obtain ⟨first, given⟩ : ∃ first : List Turn, first = [.own (claimBy "a" "2"), .own (claimBy "b" "3"),
    .others (.failWrites true), .own (claimBy "a" "4"), .others (.failWrites false)] := ⟨_, rfl⟩
  have fair : ∀ turn ∈ first ++ [.own (claimBy "a" "4")], turn.Fair := by
    subst given
    simp [Turn.Fair]
  obtain ⟨changed, after, ok⟩ : ∃ changed after, (converge MemoryWorld.collaborators (claimBy "a" "4").values
      (claimBy "a" "4").target (claimBy "a" "4").owner).run (first.foldl Turn.apply bootstrappedWorld) =
        (.ok changed, after) := by
    subst given
    exact ⟨_, _, rfl⟩
  obtain ⟨stored, found, controllers⟩ :=
    (single_controller_throughout alone owned (first ++ [.own (claimBy "a" "4")]) fair).2 first _ [] changed
      after rfl ok
  exact ⟨alone, owned, first, changed, after, stored, given, fair, ok, found, controllers⟩

end StorageConfig
