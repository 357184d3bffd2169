import StorageConfig.Proofs.Action
import StorageConfig.Proofs.Merge

/-! Bringing a config map in line in two steps: the reading, and the writing that follows from what was read. -/

namespace StorageConfig

/-- Who controls what is stored, if anything is, among the objects of one group and kind. -/
def holderIn (groupKind : String × String) (stored : Option ConfigMap) : Option String :=
  stored.bind fun resource => holderOf groupKind resource.ownerRefs

/-- Create or update what a key names, going by what was stored there. -/
def writeBack {σ : Type} (world : Collaborators σ) (key : ResourceKey) (change : Mutation)
    (stored : Option ConfigMap) : Action σ WriteOutcome := do
  let plan ← Action.ofExcept (WritePlan.make key change stored)
  plan.perform world
  pure plan.outcome

/-- A create-or-update reads the key and then writes back. -/
theorem createOrUpdate_eq {σ : Type} (world : Collaborators σ) (key : ResourceKey) (change : Mutation) :
    createOrUpdate world key change = world.get key >>= writeBack world key change := rfl

section CreateOrUpdate

variable {σ : Type} {world : Collaborators σ} {key : ResourceKey} {change : Mutation} {stored : Option ConfigMap}
  {state middle : σ}

/-- Where a plan is made, a create-or-update carries it out after the reading, and tells what it was. -/
theorem run_createOrUpdate_of_ok {plan : WritePlan} (read : (world.get key).run state = (.ok stored, middle))
    (made : WritePlan.make key change stored = .ok plan) :
    (createOrUpdate world key change).run state =
      (((plan.perform world).run middle).1.map fun _ => plan.outcome, ((plan.perform world).run middle).2) := by
  rw [createOrUpdate_eq, Action.run_bind_of_ok read, writeBack, made, Action.ofExcept_ok_bind, Action.run_bind]
  -- A write that fails ends the call, and one that goes through counts as what was planned.
  rcases (plan.perform world).run middle with ⟨result, after⟩
  cases result <;> rfl

/-- Where no plan can be made, a create-or-update fails for that reason after the reading. -/
theorem run_createOrUpdate_of_error {failure : Failure} (read : (world.get key).run state = (.ok stored, middle))
    (refused : WritePlan.make key change stored = .error failure) :
    (createOrUpdate world key change).run state = (.error failure, middle) := by
  rw [createOrUpdate_eq, Action.run_bind_of_ok read, writeBack, refused]
  rfl

/-- Where the plan is a replacement, a create-or-update is that replacement after the reading. -/
theorem run_createOrUpdate_of_replace {resource : ConfigMap}
    (read : (world.get key).run state = (.ok stored, middle))
    (made : WritePlan.make key change stored = .ok (.replace resource)) :
    (createOrUpdate world key change).run state =
      (((world.replace resource).run middle).1.map fun _ => .updated, ((world.replace resource).run middle).2) :=
  run_createOrUpdate_of_ok read made

end CreateOrUpdate

section Converge

variable {σ : Type} {world : Collaborators σ} {values : CsiValues} {owner : Owner} {key : ResourceKey}
  {stored : Option ConfigMap} {state middle after : σ}

/-- A config map is brought in line by carrying out the plan that is made from what was stored. -/
theorem run_converge_of_ok {plan : WritePlan} (read : (world.get key).run state = (.ok stored, middle))
    (made : WritePlan.make key (values.mergeInto owner) stored = .ok plan)
    (done : (plan.perform world).run middle = (.ok (), after)) :
    (converge world values key owner).run state = (.ok plan.outcome.isChange, after) := by
  rw [converge, Action.run_bind, run_createOrUpdate_of_ok read made, done]
  rfl

/-- Where no plan can be made nothing is done but the reading. -/
theorem run_converge_of_error {failure : Failure} (read : (world.get key).run state = (.ok stored, middle))
    (refused : WritePlan.make key (values.mergeInto owner) stored = .error failure) :
    (converge world values key owner).run state = (.error failure, middle) := by
  rw [converge, Action.run_bind, run_createOrUpdate_of_error read refused]

end Converge

namespace WritePlan

section Make

variable {key : ResourceKey} {change : Mutation} {stored : Option ConfigMap} {made : ConfigMap}

/-- There is no plan for a change that fails. -/
theorem make_of_error {failure : Failure} (failed : change (stored.getD (.fresh key)) = .error failure) :
    make key change stored = .error failure := by
  cases stored with
  | none =>
    have refused : change (.fresh key) = .error failure := failed
    simp [make, changed, refused, Bind.bind, Except.bind, Except.map]
  | some existing =>
    have refused : change existing = .error failure := failed
    simp [make, changed, refused, Bind.bind, Except.bind]

/-- There is no plan for a change that comes out under another key. -/
theorem make_of_moved (ok : change (stored.getD (.fresh key)) = .ok made) (moved : made.key ≠ key) :
    make key change stored = .error (.internal ("mutation moved " ++ key.render ++ " to " ++ made.key.render)) := by
  cases stored with
  | none =>
    have applied : change (.fresh key) = .ok made := ok
    simp [make, changed, applied, moved, Bind.bind, Except.bind, Except.map]
  | some existing =>
    have applied : change existing = .ok made := ok
    simp [make, changed, applied, moved, Bind.bind, Except.bind]

/-- What is missing is planned to be created as the change makes it. -/
theorem make_none_of_ok (ok : change (.fresh key) = .ok made) (stays : made.key = key) :
    make key change none = .ok (.create made) := by
  simp [make, changed, ok, stays, Bind.bind, Except.bind, Except.map]

/-- What is there is planned to be replaced where the change makes a difference. -/
theorem make_some_of_ok {existing : ConfigMap} (ok : change existing = .ok made) (stays : made.key = key) :
    make key change (some existing) = .ok (if made = existing then .keep else .replace made) := by
  simp [make, changed, ok, stays, Bind.bind, Except.bind]

end Make

variable {values : CsiValues} {owner : Owner} {key : ResourceKey}

/-- A config map that is missing is planned to be created, whoever asks. -/
theorem make_mergeInto_none (values : CsiValues) (owner : Owner) (key : ResourceKey) :
    make key (values.mergeInto owner) none = .ok (.create (values.merged owner (.fresh key))) := by
  -- Without references there is no rival, and the key is not touched.
  have merge : values.mergeInto owner (.fresh key) = .ok (values.merged owner (.fresh key)) :=
    CsiValues.mergeInto_of_free fun name held => by simp [ConfigMap.fresh, holderOf] at held
  exact make_none_of_ok merge rfl

/-- A config map without a rival is planned to be replaced where the merge makes a difference. -/
theorem make_mergeInto_some {existing : ConfigMap} (stored : existing.key = key)
    (free : ∀ name, holderOf owner.groupKind existing.ownerRefs = some name → name = owner.name) :
    make key (values.mergeInto owner) (some existing) =
      .ok (if values.merged owner existing = existing then .keep
        else .replace (values.merged owner existing)) :=
  make_some_of_ok (CsiValues.mergeInto_of_free free) stored

/-- A config map that is in line is planned to be kept. -/
theorem make_mergeInto_of_eq {existing : ConfigMap} (stored : existing.key = key)
    (free : ∀ name, holderOf owner.groupKind existing.ownerRefs = some name → name = owner.name)
    (same : values.merged owner existing = existing) :
    make key (values.mergeInto owner) (some existing) = .ok .keep := by
  rw [make_mergeInto_some stored free, if_pos same]

/-- A config map that is not in line is planned to be replaced. -/
theorem make_mergeInto_of_ne {existing : ConfigMap} (stored : existing.key = key)
    (free : ∀ name, holderOf owner.groupKind existing.ownerRefs = some name → name = owner.name)
    (differs : values.merged owner existing ≠ existing) :
    make key (values.mergeInto owner) (some existing) = .ok (.replace (values.merged owner existing)) := by
  rw [make_mergeInto_some stored free, if_neg differs]

/-- A rival's config map is planned not at all. -/
theorem make_mergeInto_rival {existing : ConfigMap} {name : String}
    (held : holderOf owner.groupKind existing.ownerRefs = some name) (rival : name ≠ owner.name) :
    make key (values.mergeInto owner) (some existing) =
      .error (.alreadyOwned ("ConfigMap/" ++ existing.key.render) owner.kind name) :=
  make_of_error (CsiValues.mergeInto_of_rival held rival)

/-- There is a plan for every key that is free of rivals. -/
theorem exists_make_mergeInto {stored : Option ConfigMap}
    (placed : ∀ existing, stored = some existing → existing.key = key)
    (free : ∀ name, holderIn owner.groupKind stored = some name → name = owner.name) :
    ∃ plan, make key (values.mergeInto owner) stored = .ok plan := by
  -- What is missing is created, and what is there is replaced or kept.
  cases stored with
  | none => exact ⟨_, make_mergeInto_none values owner key⟩
  | some existing => exact ⟨_, make_mergeInto_some (placed existing rfl) free⟩

/-- What a plan to bring a config map in line comes to, from what was stored. -/
inductive Merges (values : CsiValues) (owner : Owner) (key : ResourceKey) :
    Option ConfigMap → WritePlan → Prop
  | create : Merges values owner key none (.create (values.merged owner (.fresh key)))
  | replace {existing : ConfigMap} (stored : existing.key = key)
      (free : ∀ name, holderOf owner.groupKind existing.ownerRefs = some name → name = owner.name)
      (differs : values.merged owner existing ≠ existing) :
    Merges values owner key (some existing) (.replace (values.merged owner existing))
  | keep {existing : ConfigMap} (stored : existing.key = key)
      (free : ∀ name, holderOf owner.groupKind existing.ownerRefs = some name → name = owner.name)
      (same : values.merged owner existing = existing) :
    Merges values owner key (some existing) .keep

/-- Every plan that is made creates, replaces or keeps, and says why. -/
theorem merges_of_make {stored : Option ConfigMap} {plan : WritePlan}
    (made : make key (values.mergeInto owner) stored = .ok plan) : Merges values owner key stored plan := by
  cases stored with
  | none =>
    rw [make_mergeInto_none] at made
    cases made
    exact .create
  | some existing =>
    -- A plan needs a merge that succeeded and left the key as it was.
    cases merge : values.mergeInto owner existing with
    | error failure =>
      rw [make_of_error merge] at made
      cases made
    | ok result =>
      obtain ⟨free, rfl⟩ := CsiValues.mergeInto_eq_ok_iff.1 merge
      by_cases at_key : existing.key = key
      · rw [make_mergeInto_some at_key free] at made
        -- The merge itself decides between keeping and replacing.
        split at made
        · rename_i same
          cases made
          exact .keep at_key free same
        · rename_i differs
          cases made
          exact .replace at_key free differs
      · -- A merge under another key would have been refused.
        have moved : (values.merged owner existing).key ≠ key := at_key
        have refused : make key (values.mergeInto owner) (some existing) = .error _ := make_of_moved merge moved
        cases made.symm.trans refused

variable {stored : Option ConfigMap} {plan : WritePlan}

/-- What is merged belongs to the key it was read under. -/
theorem key_of_merges (merges : Merges values owner key stored plan) :
    (values.merged owner (stored.getD (.fresh key))).key = key := by
  -- Merging moves nothing, and what was planned from stood under the key.
  rw [CsiValues.key_merged]
  cases merges with
  | create => rfl
  | replace stored_at => exact stored_at
  | keep stored_at => exact stored_at

/-- A plan needs that no rival of the owner's kind held what was read. -/
theorem free_of_merges (merges : Merges values owner key stored plan) {name : String}
    (held : holderIn owner.groupKind stored = some name) : name = owner.name := by
  -- Nobody holds what is missing, and the other two plans say so themselves.
  cases merges with
  | create => cases held
  | replace _ free => exact free name held
  | keep _ free => exact free name held

/-- Nothing is planned only for what the owner holds already. -/
theorem holderIn_of_merges_keep (merges : Merges values owner key stored .keep) :
    holderIn owner.groupKind stored = some owner.name := by
  -- What was stored is its own merge, and the owner holds that.
  cases merges with
  | keep _ free same =>
    have holds := values.holderOf_merged free
    rw [same] at holds
    exact holds

/-- A plan writes exactly where data or references are to be other than what was stored, if anything was. -/
theorem ne_keep_iff (merges : Merges values owner key stored plan) :
    plan ≠ .keep ↔ ¬ ∃ current, stored = some current ∧
      current.data = (values.merged owner (stored.getD (.fresh key))).data ∧
      current.ownerRefs = (values.merged owner (stored.getD (.fresh key))).ownerRefs := by
  cases merges with
  | create =>
    refine ⟨?_, nofun⟩
    rintro - ⟨current, missing, -⟩
    cases missing
  | @replace existing _ _ differs =>
    refine ⟨?_, nofun⟩
    rintro - ⟨current, held, data, refs⟩
    obtain rfl := Option.some.inj held
    exact differs (values.merged_eq_self owner existing data.symm refs.symm)
  | @keep existing _ _ same =>
    refine ⟨fun writes => absurd rfl writes, fun differs => absurd ⟨existing, rfl, ?_, ?_⟩ differs⟩
    · rw [Option.getD_some, same]
    · rw [Option.getD_some, same]

/-- A plan comes from a merge that was not refused. -/
theorem mergeInto_of_merges (merges : Merges values owner key stored plan) :
    values.mergeInto owner (stored.getD (.fresh key)) =
      .ok (values.merged owner (stored.getD (.fresh key))) := by
  -- A fresh config map has no references, so nobody can hold it.
  cases merges with
  | create => exact CsiValues.mergeInto_of_free fun name held => by simp [ConfigMap.fresh, holderOf] at held
  | replace _ free => exact CsiValues.mergeInto_of_free free
  | keep _ free => exact CsiValues.mergeInto_of_free free

end WritePlan

end StorageConfig
