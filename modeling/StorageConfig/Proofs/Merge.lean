import StorageConfig.Converge
import StorageConfig.Proofs.Ownership
import StorageConfig.Proofs.TextMap

/-! The change that brings a config map in line: when it is refused, what it leaves, and that it settles at once. -/

namespace StorageConfig

/-- Setting a key decides what that key is bound to, and leaves every other key alone. -/
theorem get?_setKey (data : TextMap) (entry : String × String) (key : String) :
    (setKey data entry).get? key = if entry.1 = key then some entry.2 else data.get? key := by
  -- A key that has its value already is not bound again, and reads the same either way.
  unfold setKey
  split
  · rename_i present
    by_cases same : entry.1 = key
    · rw [if_pos same, ← same, present]
    · rw [if_neg same]
  · exact TextMap.get?_insert data entry.1 entry.2 key

/-- Setting a run of keys leaves every key outside the run alone. -/
theorem get?_foldl_setKey_of_not_mem {entries : List (String × String)} {key : String}
    (outside : key ∉ entries.map Prod.fst) (data : TextMap) :
    (entries.foldl setKey data).get? key = data.get? key := by
  -- The induction is on the entries, from whatever data they are set in.
  induction entries generalizing data with
  | nil => rfl
  | cons entry rest ih =>
    simp only [List.map_cons, List.mem_cons, not_or] at outside
    rw [List.foldl_cons, ih outside.2, get?_setKey, if_neg (Ne.symm outside.1)]

/-- Setting a run of different keys binds each to its value. -/
theorem get?_foldl_setKey_of_mem {entries : List (String × String)} (different : (entries.map Prod.fst).Nodup)
    {entry : String × String} (member : entry ∈ entries) (data : TextMap) :
    (entries.foldl setKey data).get? entry.1 = some entry.2 := by
  -- The entry's own step binds the key, and no later step has the same key.
  induction entries generalizing data with
  | nil => simp at member
  | cons head rest ih =>
    simp only [List.map_cons, List.nodup_cons] at different
    -- Either the entry is set first, or it waits among the rest.
    rcases List.mem_cons.mp member with same | later
    · subst same
      rw [List.foldl_cons, get?_foldl_setKey_of_not_mem different.1, get?_setKey, if_pos rfl]
    · exact ih different.2 later (setKey data head)

namespace ConfigMap

/-- The config map as it reads under a version. -/
def atVersion (resource : ConfigMap) (version : Option String) : ConfigMap := { resource with version }

variable (resource : ConfigMap) (version : Option String)

/-- Reading under a version keeps the data. -/
@[simp] theorem data_atVersion : (resource.atVersion version).data = resource.data := rfl

/-- Reading under a version keeps the references. -/
@[simp] theorem ownerRefs_atVersion : (resource.atVersion version).ownerRefs = resource.ownerRefs := rfl

/-- A config map reads the same under its own version. -/
@[simp] theorem atVersion_version : resource.atVersion resource.version = resource := rfl

end ConfigMap

/-- Modes that are written alike are one mode. -/
theorem MountMode.render_inj {left right : MountMode} (same : left.render = right.render) : left = right := by
  cases left <;> cases right <;> first | rfl | exact absurd same (by decide)

/-- A config map has lost nothing to another: no key, no foreign value and no object that it refers to. -/
structure ConfigMap.KeptIn (current stored : ConfigMap) : Prop where
  /-- Keys that are not managed read as before. -/
  foreign : ∀ key ∉ CsiValues.managedKeys, stored.data.get? key = current.data.get? key
  /-- Keys that were bound still are. -/
  bound : ∀ key, (current.data.get? key).isSome → (stored.data.get? key).isSome
  /-- Objects that were referred to still are, in the same order and before any new one. -/
  owners : current.ownerRefs.map (fun ref => ref.owner.identity) <+:
    stored.ownerRefs.map fun ref => ref.owner.identity

/-- The version has no part in what is kept. -/
theorem ConfigMap.KeptIn.atVersion {current stored : ConfigMap} (kept : current.KeptIn stored)
    (version : Option String) : current.KeptIn (stored.atVersion version) :=
  ⟨kept.foreign, kept.bound, kept.owners⟩

namespace CsiValues

/-- The settings stand under the managed keys, in their order. -/
@[simp] theorem map_fst_entries (values : CsiValues) : values.entries.map Prod.fst = managedKeys := rfl

/-- No two settings share a key. -/
theorem managedKeys_nodup : managedKeys.Nodup := by decide

/-- The config map that an owner leaves behind when it brings one in line. -/
def merged (values : CsiValues) (owner : Owner) (resource : ConfigMap) : ConfigMap :=
  { resource with
    data := values.entries.foldl setKey resource.data
    ownerRefs := claimControl owner (handOff owner resource.ownerRefs) }

variable (values : CsiValues) (owner : Owner) (resource : ConfigMap)

/-- Bringing a config map in line does not move it. -/
@[simp] theorem key_merged : (values.merged owner resource).key = resource.key := by
  rw [merged]

/-- Bringing a config map in line keeps the version it was read under. -/
@[simp] theorem version_merged : (values.merged owner resource).version = resource.version := by
  rw [merged]

/-- A config map in line has had the settings set one by one. -/
theorem data_merged : (values.merged owner resource).data = values.entries.foldl setKey resource.data := by
  rw [merged]

/-- A config map in line has been taken over by its owner. -/
theorem ownerRefs_merged :
    (values.merged owner resource).ownerRefs = claimControl owner (handOff owner resource.ownerRefs) := by
  rw [merged]

/-- A config map in line has the controlling reference to its owner. -/
theorem controlling_mem_merged : .controlling owner ∈ (values.merged owner resource).ownerRefs := by
  rw [ownerRefs_merged]
  exact controlling_mem_claimControl owner (handOff owner resource.ownerRefs)

/-- A config map whose data and references stay stays altogether. -/
theorem merged_eq_self (data : (values.merged owner resource).data = resource.data)
    (refs : (values.merged owner resource).ownerRefs = resource.ownerRefs) :
    values.merged owner resource = resource := by
  -- Key and version are not touched anyway.
  obtain ⟨key, bindings, owners, version⟩ := resource
  simp only [merged] at data refs ⊢
  rw [data, refs]

/-- The version has no part in what a config map is brought to. -/
@[simp] theorem merged_atVersion (version : Option String) :
    values.merged owner (resource.atVersion version) = (values.merged owner resource).atVersion version := by
  simp only [merged, ConfigMap.atVersion]

/-- Whether a config map is in line does not depend on the version it was read under. -/
theorem merged_atVersion_eq_iff (version : Option String) :
    values.merged owner (resource.atVersion version) = resource.atVersion version ↔
      values.merged owner resource = resource := by
  rw [merged_atVersion]
  constructor
  · intro same
    have data := congrArg ConfigMap.data same
    have refs := congrArg ConfigMap.ownerRefs same
    exact values.merged_eq_self owner resource data refs
  · intro same
    rw [same]

/-- Every managed key of a config map in line has its setting. -/
theorem get?_merged_of_mem {entry : String × String} (member : entry ∈ values.entries) :
    (values.merged owner resource).data.get? entry.1 = some entry.2 := by
  -- The managed keys are five different ones.
  rw [data_merged]
  exact get?_foldl_setKey_of_mem (by simpa using managedKeys_nodup) member resource.data

/-- Every other key of a config map is as it was. -/
theorem get?_merged_of_not_mem {key : String} (foreign : key ∉ managedKeys) :
    (values.merged owner resource).data.get? key = resource.data.get? key := by
  rw [data_merged]
  exact get?_foldl_setKey_of_not_mem (by simpa using foreign) resource.data

/-- Every managed key of a config map in line is bound. -/
theorem isSome_get?_merged {key : String} (managed : key ∈ managedKeys) :
    ((values.merged owner resource).data.get? key).isSome := by
  -- A managed key is the key of one of the settings.
  rw [← values.map_fst_entries] at managed
  obtain ⟨entry, member, rfl⟩ := List.mem_map.1 managed
  rw [values.get?_merged_of_mem owner resource member]
  rfl

/-- Bringing a config map in line loses nothing that was in it. -/
theorem keptIn_merged : resource.KeptIn (values.merged owner resource) := by
  refine ⟨fun key foreign => values.get?_merged_of_not_mem owner resource foreign, fun key bound => ?_, ?_⟩
  · -- A bound key is managed and set anew, or foreign and left alone.
    by_cases managed : key ∈ managedKeys
    · exact values.isSome_get?_merged owner resource managed
    · rw [values.get?_merged_of_not_mem owner resource managed]
      exact bound
  · -- Handing off keeps every owner, and claiming control adds at most one.
    have handed : (handOff owner resource.ownerRefs).map (fun ref => ref.owner.identity) =
        resource.ownerRefs.map fun ref => ref.owner.identity := by
      simp [handOff]
    rw [← handed, ownerRefs_merged]
    exact identities_claimControl owner (handOff owner resource.ownerRefs)

/-- What two namesakes bring a config map to, one after the other, is what the later one brings it to. -/
theorem merged_merged_of_namesake {earlier later : Owner} (same : earlier.identity = later.identity)
    (before after : CsiValues) (resource : ConfigMap) :
    after.merged later (before.merged earlier resource) = after.merged later resource := by
  -- The data read the same under every key, as both set the managed keys and no others.
  have data : (after.merged later (before.merged earlier resource)).data = (after.merged later resource).data := by
    apply TextMap.ext_get?
    intro key
    by_cases managed : key ∈ managedKeys
    · rw [← after.map_fst_entries] at managed
      obtain ⟨entry, member, rfl⟩ := List.mem_map.1 managed
      rw [after.get?_merged_of_mem later _ member, after.get?_merged_of_mem later _ member]
    · rw [after.get?_merged_of_not_mem later _ managed, after.get?_merged_of_not_mem later _ managed,
        before.get?_merged_of_not_mem earlier _ managed]
  -- The references are those of the later takeover.
  have refs : (after.merged later (before.merged earlier resource)).ownerRefs =
      (after.merged later resource).ownerRefs := by
    simp only [ownerRefs_merged, takeover_takeover same]
  simp only [merged, ConfigMap.mk.injEq] at data refs ⊢
  exact ⟨trivial, data, refs, trivial⟩

/-- A config map in line stays exactly as it is when it is brought in line again. -/
@[simp] theorem merged_merged : values.merged owner (values.merged owner resource) = values.merged owner resource :=
  merged_merged_of_namesake rfl values values resource

/-- The settings can be read off a config map in line, under the managed keys. -/
theorem entries_eq_map_merged :
    values.entries = managedKeys.map fun key => (key, ((values.merged owner resource).data.get? key).getD "") := by
  rw [← values.map_fst_entries, List.map_map]
  -- Every setting is found again under its own key.
  have found : ∀ entry ∈ values.entries,
      (entry.1, ((values.merged owner resource).data.get? entry.1).getD "") = entry := by
    intro entry member
    rw [values.get?_merged_of_mem owner resource member]
    rfl
  exact ((List.map_congr_left found).trans (List.map_id _)).symm

/-- Flags that are written alike are one flag. -/
theorem flagText_inj {left right : Bool} (same : flagText left = flagText right) : left = right := by
  revert left right
  decide

/-- Settings that are written alike are the same settings. -/
theorem entries_inj {left right : CsiValues} (same : left.entries = right.entries) : left = right := by
  simp only [entries, List.cons.injEq, Prod.mk.injEq, true_and, and_true] at same
  obtain ⟨name, affinity, mount, topology, labels⟩ := same
  -- Names and labels are written as they are, flags and modes by different words.
  obtain ⟨leftName, leftAffinity, leftMount, leftTopology, leftLabels⟩ := left
  obtain ⟨rightName, rightAffinity, rightMount, rightTopology, rightLabels⟩ := right
  simp only [CsiValues.mk.injEq]
  exact ⟨name, flagText_inj affinity, MountMode.render_inj mount, flagText_inj topology, labels⟩

/-- Namesakes bring a config map to the same exactly if both their settings and they themselves are the same. -/
theorem merged_inj {earlier later : Owner} (same : earlier.identity = later.identity)
    {before after : CsiValues} (resource : ConfigMap) :
    before.merged earlier resource = after.merged later resource ↔ before = after ∧ earlier = later := by
  constructor
  · intro equal
    have refs := congrArg ConfigMap.ownerRefs equal
    -- References to one kind were handed off alike, so the claims tell the owners apart.
    rw [ownerRefs_merged, ownerRefs_merged, handOff_congr (congrArg Prod.fst same),
      claimControl_inj same] at refs
    refine ⟨entries_inj ?_, refs⟩
    rw [before.entries_eq_map_merged earlier resource, after.entries_eq_map_merged later resource, equal]
  · rintro ⟨rfl, rfl⟩
    rfl

/-- A config map without a rival of the owner's kind can be brought in line. -/
theorem mergeInto_of_free {values : CsiValues} {owner : Owner} {resource : ConfigMap}
    (free : ∀ name, holderOf owner.groupKind resource.ownerRefs = some name → name = owner.name) :
    values.mergeInto owner resource = .ok (values.merged owner resource) := by
  -- The first controller left after the hand-off is of the owner's kind, and so the owner itself.
  unfold mergeInto ConfigMap.setController ConfigMap.controller?
  simp only [find?_isController_handOff]
  cases found : resource.ownerRefs.find? fun ref => ref.isController && ref.owner.groupKind == owner.groupKind with
  | none => rfl
  | some ref =>
    have kind : ref.owner.groupKind = owner.groupKind := by
      have holds := List.find?_some found
      simp only [Bool.and_eq_true, beq_iff_eq] at holds
      exact holds.2
    have named : ref.owner.name = owner.name := free ref.owner.name (by simp [holderOf, found])
    have own : ref.owner.sameObject owner = true := Owner.sameObject_iff.2 ⟨kind, named⟩
    rw [Option.filter_some_neg (by simp only [own, Bool.not_true])]
    rfl

/-- A config map that a rival of the owner's kind controls is refused, with the rival's name. -/
theorem mergeInto_of_rival {values : CsiValues} {owner : Owner} {resource : ConfigMap} {name : String}
    (held : holderOf owner.groupKind resource.ownerRefs = some name) (rival : name ≠ owner.name) :
    values.mergeInto owner resource =
      .error (.alreadyOwned ("ConfigMap/" ++ resource.key.render) owner.kind name) := by
  -- Handing off spares the rival, as it is of the same kind.
  obtain ⟨ref, found, named⟩ := Option.map_eq_some_iff.1 held
  have kind : ref.owner.groupKind = owner.groupKind := by
    have holds := List.find?_some found
    simp only [Bool.and_eq_true, beq_iff_eq] at holds
    exact holds.2
  have other : ref.owner.sameObject owner = false := by
    rw [Bool.eq_false_iff]
    exact fun same => rival (named.symm.trans (Owner.sameObject_iff.1 same).2)
  have kindName : ref.owner.kind = owner.kind := congrArg Prod.snd kind
  unfold mergeInto ConfigMap.setController ConfigMap.controller?
  simp only [find?_isController_handOff, found]
  rw [Option.filter_some_pos (by simp only [other, Bool.not_false])]
  simp only [named, kindName]

/-- Bringing in line succeeds only without a rival, and then leaves the merged config map. -/
theorem mergeInto_eq_ok_iff {values : CsiValues} {owner : Owner} {resource result : ConfigMap} :
    values.mergeInto owner resource = .ok result ↔
      (∀ name, holderOf owner.groupKind resource.ownerRefs = some name → name = owner.name) ∧
        result = values.merged owner resource := by
  constructor
  · intro ok
    -- A rival would have been the reason to refuse.
    have free : ∀ name, holderOf owner.groupKind resource.ownerRefs = some name → name = owner.name := by
      intro name held
      by_cases own : name = owner.name
      · exact own
      · rw [mergeInto_of_rival held own] at ok
        cases ok
    rw [mergeInto_of_free free] at ok
    exact ⟨free, (Except.ok.inj ok).symm⟩
  · rintro ⟨free, rfl⟩
    exact mergeInto_of_free free

/-- Whoever brought a config map in line holds it. -/
theorem holderOf_merged (values : CsiValues) {owner : Owner} {resource : ConfigMap}
    (free : ∀ name, holderOf owner.groupKind resource.ownerRefs = some name → name = owner.name) :
    holderOf owner.groupKind (values.merged owner resource).ownerRefs = some owner.name := by
  -- Handing off leaves a holder of the owner's kind alone.
  rw [ownerRefs_merged]
  exact holderOf_claimControl fun name held => free name (by simpa using held)

end CsiValues

end StorageConfig
