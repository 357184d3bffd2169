import StorageConfig.Proofs.Memory.World

/-!
Which config maps an owner may not take over.

A takeover releases the controllers of other kinds before it looks for one in its way, so it is refused only for a
controller of its own kind that is another object.
-/

namespace StorageConfig

/-- The group that an API version belongs to: it is written before the last slash, and the core group is not written. -/
def OfGroup (apiVersion group : String) : Prop :=
  (∃ version, '/' ∉ version.toList ∧ apiVersion = group ++ "/" ++ version) ∨
    ('/' ∉ apiVersion.toList ∧ group = "")

/-- The group read off an API version is the one that it belongs to. -/
theorem apiGroup_eq_iff {apiVersion group : String} : apiGroup apiVersion = group ↔ OfGroup apiVersion group := by
  rw [apiGroup]
  -- The cut at the last slash decides which of the two ways of writing a group it is.
  cases cut : cutAtLast '/' apiVersion.toList with
  | none =>
    have plain := cutAtLast_eq_none_iff.1 cut
    constructor
    · rintro rfl
      exact .inr ⟨plain, rfl⟩
    · rintro (⟨version, -, rfl⟩ | ⟨-, rfl⟩)
      · -- A version that names its group has a slash.
        exact absurd (by simp) plain
      · rfl
  | some parts =>
    obtain ⟨before, after⟩ := parts
    obtain ⟨whole, unmarked⟩ := cutAtLast_eq_some_iff.1 cut
    constructor
    · rintro rfl
      refine .inl ⟨String.ofList after, by simpa using unmarked, String.toList_injective ?_⟩
      simpa using whole
    · rintro (⟨version, clean, rfl⟩ | ⟨plain, -⟩)
      · -- There is one way only to cut at the last slash.
        have again : cutAtLast '/' (group ++ "/" ++ version).toList = some (group.toList, version.toList) :=
          cutAtLast_eq_some_iff.2 ⟨by simp, clean⟩
        obtain ⟨rfl, -⟩ := Prod.mk.inj (Option.some.inj (cut.symm.trans again))
        exact String.ofList_toList
      · exact absurd (by rw [whole]; simp) plain

/-- Two owners share a kind if they name one kind, in versions that belong to one group. -/
theorem groupKind_eq_iff {left right : Owner} :
    left.groupKind = right.groupKind ↔
      left.kind = right.kind ∧ ∃ group, OfGroup left.apiVersion group ∧ OfGroup right.apiVersion group := by
  simp only [Owner.groupKind, Prod.mk.injEq, ← apiGroup_eq_iff]
  constructor
  · rintro ⟨group, kind⟩
    exact ⟨kind, _, rfl, group.symm⟩
  · rintro ⟨kind, group, here, there⟩
    exact ⟨here.trans there.symm, kind⟩

/-- A reference stands in an owner's way: it marks as controller another object of the owner's kind and group. -/
structure Rivals (owner : Owner) (ref : OwnerRef) : Prop where
  controls : ref.controller = some true
  kind : ref.owner.kind = owner.kind
  /-- The versions may differ, as long as they belong to one group. -/
  group : ∃ group, OfGroup ref.owner.apiVersion group ∧ OfGroup owner.apiVersion group
  /-- Another uid alone does not make another object. -/
  name : ref.owner.name ≠ owner.name

/-- A reference stands in an owner's way if it marks a controller of the owner's kind under another name. -/
theorem rivals_iff {owner : Owner} {ref : OwnerRef} :
    Rivals owner ref ↔
      (ref.isController = true ∧ ref.owner.groupKind = owner.groupKind) ∧ ref.owner.name ≠ owner.name := by
  rw [groupKind_eq_iff, OwnerRef.isController, beq_iff_eq]
  constructor
  · rintro ⟨controls, kind, group, name⟩
    exact ⟨⟨controls, kind, group⟩, name⟩
  · rintro ⟨⟨controls, kind, group⟩, name⟩
    exact ⟨controls, kind, group, name⟩

/-- Bringing a stored config map in line has left it with its owner, and has written it only if it was not yet so. -/
structure BroughtInLine (values : CsiValues) (owner : Owner) (existing : ConfigMap) (world : MemoryWorld)
    (changed : Bool) (after : MemoryWorld) : Prop where
  /-- What is stored then has its owner for the holder, and would not be changed by another merge. -/
  held : ∃ stored, after.store.objects existing.key = some stored ∧ .controlling owner ∈ stored.ownerRefs ∧
    holderOf owner.groupKind stored.ownerRefs = some owner.name ∧ values.merged owner stored = stored
  kept : changed = false → after = world
  written : changed = true → values.merged owner existing ≠ existing ∧
    after = { world with store := world.store.write (values.merged owner existing) }

namespace MemoryWorld

variable {world : MemoryWorld} {existing : ConfigMap} {owner : Owner}

/-- A config map that a rival controls is not brought in line, and nothing is touched. -/
theorem Calm.run_converge_of_rivals (calm : world.Calm) (held : world.store.objects existing.key = some existing)
    (single : (existing.ownerRefs.filter OwnerRef.isController).length ≤ 1) (values : CsiValues) {ref : OwnerRef}
    (member : ref ∈ existing.ownerRefs) (rivals : Rivals owner ref) :
    (converge collaborators values existing.key owner).run world =
      (.error (.alreadyOwned ("ConfigMap/" ++ existing.key.render) ref.owner.kind ref.owner.name), world) := by
  obtain ⟨marks, other⟩ := rivals_iff.1 rivals
  -- The rival is the only controller there is, and so the holder that the merge meets.
  have holder : holderOf owner.groupKind existing.ownerRefs = some ref.owner.name :=
    (holderOf_eq_some_iff single).2 ⟨ref, member, marks, rfl⟩
  rw [rivals.kind]
  refine run_converge_of_error (calm.run_get existing.key) ?_
  rw [held]
  exact WritePlan.make_mergeInto_rival holder other

/-- A config map that no rival controls is brought in line. -/
theorem Calm.exists_broughtInLine (calm : world.Calm) (held : world.store.objects existing.key = some existing)
    (single : (existing.ownerRefs.filter OwnerRef.isController).length ≤ 1) (values : CsiValues)
    (free : ∀ ref ∈ existing.ownerRefs, ¬ Rivals owner ref) :
    ∃ changed after, (converge collaborators values existing.key owner).run world = (.ok changed, after) ∧
      BroughtInLine values owner existing world changed after := by
  -- Whoever holds the config map of the owner's kind would be a rival under another name.
  have unheld : ∀ name, holderOf owner.groupKind existing.ownerRefs = some name → name = owner.name := by
    intro name holder
    obtain ⟨ref, member, marks, rfl⟩ := (holderOf_eq_some_iff single).1 holder
    by_cases same : ref.owner.name = owner.name
    · exact same
    · exact absurd (rivals_iff.2 ⟨marks, same⟩) (free ref member)
  -- The plan follows from whether the merge makes a difference.
  obtain ⟨plan, made, keeps, writes⟩ : ∃ plan, WritePlan.make existing.key (values.mergeInto owner)
      (world.store.objects existing.key) = .ok plan ∧ (plan.outcome.isChange = false → plan = .keep) ∧
      (plan.outcome.isChange = true → values.merged owner existing ≠ existing ∧
        plan = .replace (values.merged owner existing)) := by
    rw [held]
    by_cases same : values.merged owner existing = existing
    · exact ⟨.keep, WritePlan.make_mergeInto_of_eq rfl unheld same, fun _ => rfl, nofun⟩
    · exact ⟨.replace _, WritePlan.make_mergeInto_of_ne rfl unheld same, nofun, fun _ => ⟨same, rfl⟩⟩
  have ran := calm.run_converge made
  obtain ⟨stored, found, holder, settled⟩ := calm.converge_ok ran
  refine ⟨_, _, ran, ⟨stored, found, ?_, holder, settled⟩, ?_, ?_⟩
  · -- A merge has the owner's reference, and what is stored is one.
    rw [← settled]
    exact values.controlling_mem_merged owner stored
  · intro unchanged
    rw [keeps unchanged]
    rfl
  · intro changed
    obtain ⟨differs, rfl⟩ := writes changed
    exact ⟨differs, rfl⟩

end MemoryWorld

/--
Bringing a stored config map in line is refused exactly for a rival of the owner's kind that controls it.

The refusal names the rival and touches nothing. Without a rival there is no failure of any sort: the owner holds
the config map then, which is written only if that makes a difference.
-/
theorem refused_exactly_for_rivals {world : MemoryWorld} (calm : world.Calm) {existing : ConfigMap}
    (held : world.store.objects existing.key = some existing)
    (single : (existing.ownerRefs.filter OwnerRef.isController).length ≤ 1) (values : CsiValues) (owner : Owner) :
    ((∃ resource kind name after, (converge MemoryWorld.collaborators values existing.key owner).run world =
        (.error (.alreadyOwned resource kind name), after)) ↔ ∃ ref ∈ existing.ownerRefs, Rivals owner ref) ∧
    (∀ ref ∈ existing.ownerRefs, Rivals owner ref →
      (converge MemoryWorld.collaborators values existing.key owner).run world =
        (.error (.alreadyOwned ("ConfigMap/" ++ existing.key.render) ref.owner.kind ref.owner.name), world)) ∧
    ((∀ ref ∈ existing.ownerRefs, ¬ Rivals owner ref) →
      ∃ changed after, (converge MemoryWorld.collaborators values existing.key owner).run world =
        (.ok changed, after) ∧ BroughtInLine values owner existing world changed after) := by
  have refused := fun ref member (rivals : Rivals owner ref) =>
    calm.run_converge_of_rivals held single values member rivals
  have accepted := fun (free : ∀ ref ∈ existing.ownerRefs, ¬ Rivals owner ref) =>
    calm.exists_broughtInLine held single values free
  refine ⟨⟨?_, ?_⟩, refused, accepted⟩
  · rintro ⟨resource, kind, name, after, failed⟩
    by_cases anyone : ∃ ref ∈ existing.ownerRefs, Rivals owner ref
    · exact anyone
    · -- Without a rival there would have been a success instead.
      obtain ⟨changed, final, ok, -⟩ := accepted fun ref member rivals => anyone ⟨ref, member, rivals⟩
      cases (Prod.mk.inj (failed.symm.trans ok)).1
  · rintro ⟨ref, member, rivals⟩
    exact ⟨_, _, _, _, refused ref member rivals⟩

/-- A cluster that asks for control. -/
def secondCluster : Owner := ⟨"ocs.openshift.io/v1", "StorageCluster", "b", "u-2"⟩

/-- A cluster of another name, referred to in another version. -/
def firstCluster : Owner := ⟨"ocs.openshift.io/v1alpha1", "StorageCluster", "a", "u-1"⟩

/-- An object of another group whose kind has the same word. -/
def foreignCluster : Owner := ⟨"ocs.openshift.io/next/v1", "StorageCluster", "a", "u-1"⟩

/-- A config map that is controlled by a given owner, behind a plain reference to one more cluster. -/
def heldConfigMap (holder : Owner) : ConfigMap :=
  { key := ⟨"ocs-operator-config", "openshift-storage"⟩
    data := ∅
    ownerRefs :=
      [⟨⟨"ocs.openshift.io/v1", "StorageCluster", "c", "u-3"⟩, none, some true⟩, ⟨holder, some true, none⟩]
    version := some "1" }

/-- A world that holds nothing but that config map. -/
def heldWorld (holder : Owner) : MemoryWorld :=
  { MemoryWorld.empty none with store := MemoryStore.empty.insert (heldConfigMap holder) }

/-- A cluster is refused for one that is referred to in another version, but takes over from one of another group. -/
theorem refused_exactly_for_rivals_versions :
    ((heldWorld firstCluster).Calm ∧ (heldWorld foreignCluster).Calm) ∧
    (∀ holder, (heldWorld holder).store.objects (heldConfigMap holder).key = some (heldConfigMap holder) ∧
      ((heldConfigMap holder).ownerRefs.filter OwnerRef.isController).length ≤ 1) ∧
    ∃ values, (converge MemoryWorld.collaborators values (heldConfigMap firstCluster).key secondCluster).run
        (heldWorld firstCluster) =
      (.error (.alreadyOwned ("ConfigMap/" ++ (heldConfigMap firstCluster).key.render) "StorageCluster" "a"),
        heldWorld firstCluster) ∧
    ∃ after stored, (converge MemoryWorld.collaborators values (heldConfigMap foreignCluster).key secondCluster).run
        (heldWorld foreignCluster) = (.ok true, after) ∧
      after.store.objects (heldConfigMap foreignCluster).key = some stored ∧
      .controlling secondCluster ∈ stored.ownerRefs := by
  have calm : ∀ holder, (heldWorld holder).Calm := fun _ => ⟨rfl, rfl, rfl⟩
  -- The config map has the version that it is stored under.
  have held : ∀ holder, (heldWorld holder).store.objects (heldConfigMap holder).key = some (heldConfigMap holder) :=
    fun holder => MemoryStore.empty.objects_insert_self (heldConfigMap holder)
  have single : ∀ holder, ((heldConfigMap holder).ownerRefs.filter OwnerRef.isController).length ≤ 1 :=
    fun _ => Nat.le_refl 1
  refine ⟨⟨calm _, calm _⟩, fun holder => ⟨held holder, single holder⟩,
    ⟨"cluster-1", true, .preferCrc, false, ""⟩, ?_, ?_⟩
  · refine (refused_exactly_for_rivals (calm firstCluster) (held _) (single _) _ secondCluster).2.1
      ⟨firstCluster, some true, none⟩ (List.mem_cons_of_mem _ List.mem_cons_self)
      ⟨rfl, rfl, ⟨"ocs.openshift.io", ?_, ?_⟩, by decide⟩
    · exact .inl ⟨"v1alpha1", by decide, rfl⟩
    · exact .inl ⟨"v1", by decide, rfl⟩
  · -- One of the references marks nothing, and the other one is to an object of another group.
    have free : ∀ ref ∈ (heldConfigMap foreignCluster).ownerRefs, ¬ Rivals secondCluster ref := by
      intro ref member rivals
      simp only [heldConfigMap, List.mem_cons, List.not_mem_nil, or_false] at member
      rcases member with rfl | rfl
      · exact absurd rivals.controls (by decide)
      · obtain ⟨group, theirs, ours⟩ := rivals.group
        have same := (apiGroup_eq_iff.2 theirs).trans (apiGroup_eq_iff.2 ours).symm
        exact absurd same (by decide)
    obtain ⟨changed, after, ran, inLine⟩ :=
      (refused_exactly_for_rivals (calm foreignCluster) (held _) (single _) _ secondCluster).2.2 free
    obtain ⟨stored, found, control, -⟩ := inLine.held
    cases changed with
    | true => exact ⟨after, stored, ran, found, control⟩
    | false =>
      -- The reference was not there before, so the config map cannot have been kept.
      rw [inLine.kept rfl, held foreignCluster] at found
      obtain rfl := Option.some.inj found
      exact absurd control (by decide)

end StorageConfig
