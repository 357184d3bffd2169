import StorageConfig.Proofs.Ownership

/-!
Who controls a resource once an owner has been made its controller.

Only the first controlling reference is checked, and only the first reference to the owner's object is replaced. Where
these are different references, the resource ends up with two controllers.
-/

namespace StorageConfig

/-- A controlling reference stands behind another reference, and that one is to the owner's object. -/
def Shadowed (owner : Owner) (refs : List OwnerRef) : Prop :=
  ∃ plain control, [plain, control].Sublist refs ∧ plain.owner.sameObject owner = true ∧ control.isController = true

/-- Claiming control leaves all references in their place but the first to the owner's object, if there is one. -/
theorem exists_split_claimControl (owner : Owner) (refs : List OwnerRef) :
    ∃ early late, claimControl owner refs = early ++ .controlling owner :: late ∧
      (∀ ref ∈ early, ref.owner.sameObject owner = false) ∧
      (refs = early ∧ late = [] ∨ ∃ ref, ref.owner.sameObject owner = true ∧ refs = early ++ ref :: late) := by
  induction refs with
  -- The controlling reference is added at the end of references to other objects.
  | nil => exact ⟨[], [], rfl, nofun, .inl ⟨rfl, rfl⟩⟩
  | cons ref refs ih =>
    rw [claimControl]
    cases same : ref.owner.sameObject owner with
    | true => exact ⟨[], refs, rfl, nofun, .inr ⟨ref, same, rfl⟩⟩
    | false =>
      -- The reference in front is of another object, so the split of those behind is the split of all.
      obtain ⟨early, late, claimed, others, found⟩ := ih
      refine ⟨ref :: early, late, by rw [claimed]; rfl, List.forall_mem_cons.2 ⟨same, others⟩, ?_⟩
      rcases found with ⟨rfl, none⟩ | ⟨own, object, rfl⟩
      · exact .inl ⟨rfl, none⟩
      · exact .inr ⟨own, object, rfl⟩

/-- Where no reference is to the owner's object, none shadows another. -/
theorem not_shadowed_of_forall {owner : Owner} {refs : List OwnerRef}
    (others : ∀ ref ∈ refs, ref.owner.sameObject owner = false) : ¬ Shadowed owner refs := by
  rintro ⟨plain, control, both, same, -⟩
  rw [others plain (both.subset List.mem_cons_self)] at same
  cases same

/-- Whatever controls behind the first reference to the owner's object is shadowed, and nothing else is. -/
theorem shadowed_append_iff {owner : Owner} {early late : List OwnerRef} {own : OwnerRef}
    (others : ∀ ref ∈ early, ref.owner.sameObject owner = false) (object : own.owner.sameObject owner = true) :
    Shadowed owner (early ++ own :: late) ↔ ∃ control ∈ late, control.isController = true := by
  -- The induction is on the references in front, none of which can shadow.
  induction early with
  | nil =>
    constructor
    · -- Whichever reference shadows, what it shadows is not the first.
      rintro ⟨plain, control, both, -, controls⟩
      exact ⟨control, List.singleton_sublist.1 both.tail, controls⟩
    · rintro ⟨control, behind, controls⟩
      exact ⟨own, control, (List.singleton_sublist.2 behind).cons_cons own, object, controls⟩
  | cons ref early ih =>
    rw [← ih fun later member => others later (List.mem_cons_of_mem ref member)]
    constructor
    · rintro ⟨plain, control, both, same, controls⟩
      rcases both with ⟨-, rest⟩ | ⟨-, rest⟩
      · exact ⟨plain, control, rest, same, controls⟩
      · -- The reference in front is of another object, so it is not the one that shadows.
        rw [others _ List.mem_cons_self] at same
        cases same
    · rintro ⟨plain, control, both, same, controls⟩
      exact ⟨plain, control, both.cons ref, same, controls⟩

namespace ConfigMap

variable {owner : Owner} {resource : ConfigMap}

/-- An owner becomes the controller unless the first controlling reference is to another object. -/
theorem setController_eq_ok_iff {after : ConfigMap} : resource.setController owner = .ok after ↔
    (∀ ref, resource.controller? = some ref → ref.owner.sameObject owner = true) ∧
      { resource with ownerRefs := claimControl owner resource.ownerRefs } = after := by
  rw [setController]
  cases resource.controller? with
  | none => simp
  | some ref => cases same : ref.owner.sameObject owner <;> simp [Option.filter, same, -Owner.sameObject_iff]

/-- An owner is refused for the first controlling reference, if that is to another object. -/
theorem setController_eq_error_iff {failure : Failure} : resource.setController owner = .error failure ↔
    ∃ rival, resource.controller? = some rival ∧ rival.owner.sameObject owner = false ∧
      .alreadyOwned ("ConfigMap/" ++ resource.key.render) rival.owner.kind rival.owner.name = failure := by
  rw [setController]
  cases resource.controller? with
  | none => simp
  | some ref => cases same : ref.owner.sameObject owner <;> simp [Option.filter, same, -Owner.sameObject_iff]

/-- A controlling reference is the one that is found if there is no other. -/
theorem controller?_eq_some_iff (single : (resource.ownerRefs.filter OwnerRef.isController).length ≤ 1)
    {ref : OwnerRef} :
    resource.controller? = some ref ↔ ref ∈ resource.ownerRefs ∧ ref.isController = true := by
  -- The first of all controlling references is looked for in a list of at most one.
  rw [controller?, ← List.head?_filter, ← List.mem_filter]
  match resource.ownerRefs.filter OwnerRef.isController, single with
  | [], _ => simp
  | [only], _ => simp [eq_comm]

/-- Where at most one reference controls, an owner is refused for any that is to another object. -/
theorem setController_eq_error_iff_rival
    (single : (resource.ownerRefs.filter OwnerRef.isController).length ≤ 1) {failure : Failure} :
    resource.setController owner = .error failure ↔
      ∃ rival ∈ resource.ownerRefs, rival.isController = true ∧ rival.owner.sameObject owner = false ∧
        .alreadyOwned ("ConfigMap/" ++ resource.key.render) rival.owner.kind rival.owner.name = failure := by
  rw [setController_eq_error_iff]
  refine exists_congr fun rival => ?_
  rw [controller?_eq_some_iff single, and_assoc]

/-- The references in front of a new controller mark nothing, so all others that do stand behind it. -/
theorem controllers_claimControl
    (own : ∀ ref, resource.controller? = some ref → ref.owner.sameObject owner = true) {early late : List OwnerRef}
    (others : ∀ ref ∈ early, ref.owner.sameObject owner = false) (front : early <+: resource.ownerRefs) :
    (early ++ .controlling owner :: late).filter OwnerRef.isController =
      .controlling owner :: late.filter OwnerRef.isController := by
  -- It remains to see that the references in front mark nothing.
  have plain : early.filter OwnerRef.isController = [] := by
    rw [← List.head?_eq_none_iff, List.head?_filter]
    cases found : early.find? OwnerRef.isController with
    | none => rfl
    | some ref =>
      -- A controller in front would be the first of all, and so the owner's object.
      obtain ⟨rest, whole⟩ := front
      have first : resource.controller? = some ref := by
        rw [controller?, ← whole, List.find?_append, found]
        rfl
      have other := others ref (List.mem_of_find?_eq_some found)
      rw [own ref first] at other
      cases other
  rw [List.filter_append, plain, List.filter_cons_of_pos (OwnerRef.isController_controlling owner)]
  rfl

end ConfigMap

/--
An owner is refused exactly for a rival in control.

Otherwise it becomes the only controller, unless the controlling reference stood behind another one to the same object.
In that case the other one is replaced, and the controlling reference stays as a second controller.
-/
theorem sole_controller_unless_shadowed (owner : Owner) {resource : ConfigMap}
    (single : (resource.ownerRefs.filter OwnerRef.isController).length ≤ 1) :
    (∀ failure, resource.setController owner = .error failure ↔
      ∃ rival ∈ resource.ownerRefs, rival.isController = true ∧ rival.owner.sameObject owner = false ∧
        .alreadyOwned ("ConfigMap/" ++ resource.key.render) rival.owner.kind rival.owner.name = failure) ∧
    ∀ after, resource.setController owner = .ok after →
      after = { resource with ownerRefs := after.ownerRefs } ∧
      (¬ Shadowed owner resource.ownerRefs →
        after.ownerRefs.filter OwnerRef.isController = [⟨owner, some true, some true⟩]) ∧
      (Shadowed owner resource.ownerRefs → ∃ control ∈ resource.ownerRefs,
        after.ownerRefs.filter OwnerRef.isController = [⟨owner, some true, some true⟩, control]) := by
  refine ⟨fun failure => ConfigMap.setController_eq_error_iff_rival single, fun after ok => ?_⟩
  obtain ⟨own, rfl⟩ := ConfigMap.setController_eq_ok_iff.1 ok
  refine ⟨rfl, ?_⟩
  obtain ⟨early, late, claimed, others, found⟩ := exists_split_claimControl owner resource.ownerRefs
  dsimp only
  rw [claimed]
  rcases found with ⟨all, rfl⟩ | ⟨first, object, all⟩
  · -- The reference is added behind all others, none of which is to the owner's object.
    have front : early <+: resource.ownerRefs := all ▸ List.prefix_rfl
    rw [ConfigMap.controllers_claimControl own others front, all]
    exact ⟨fun _ => rfl, fun shadowed => absurd shadowed (not_shadowed_of_forall others)⟩
  · have front : early <+: resource.ownerRefs := ⟨first :: late, all.symm⟩
    rw [ConfigMap.controllers_claimControl own others front, all, shadowed_append_iff others object]
    -- Behind the reference that is taken stands at most one more controller.
    have most : (late.filter OwnerRef.isController).length ≤ 1 := by
      have behind : late.Sublist resource.ownerRefs :=
        all ▸ (List.sublist_cons_self first late).trans (List.sublist_append_right early _)
      exact Nat.le_trans (behind.filter OwnerRef.isController).length_le single
    constructor
    · intro none
      rw [List.filter_eq_nil_iff.2 fun control behind controls => none ⟨control, behind, controls⟩]
      rfl
    · rintro ⟨control, behind, controls⟩
      have marked := List.mem_filter.2 ⟨behind, controls⟩
      obtain ⟨only, alone⟩ := List.length_eq_one_iff.1 (Nat.le_antisymm most (List.length_pos_of_mem marked))
      rw [alone, List.mem_singleton] at marked
      subst marked
      rw [alone]
      exact ⟨control, List.mem_append_right early (List.mem_cons_of_mem first behind), rfl⟩

/-- A cluster that was made anew under its former name. -/
def renewedCluster : Owner := ⟨"ocs.openshift.io/v1", "StorageCluster", "a", "u-2"⟩

/-- A config map that the former cluster controls, between plain references to another cluster and to itself. -/
def controlledConfigMap : ConfigMap :=
  { key := ⟨"ocs-operator-config", "openshift-storage"⟩
    data := ∅
    ownerRefs :=
      [⟨⟨"ocs.openshift.io/v1", "StorageCluster", "b", "u-3"⟩, none, none⟩,
        ⟨⟨"ocs.openshift.io/v1alpha1", "StorageCluster", "a", "u-1"⟩, some true, none⟩,
        ⟨⟨"ocs.openshift.io/v1", "StorageCluster", "a", "u-1"⟩, none, some true⟩]
    version := some "7" }

/-- Where its controlling reference is the first to it, the cluster is left as the only controller. -/
theorem sole_controller_unless_shadowed_renewed :
    (controlledConfigMap.ownerRefs.filter OwnerRef.isController).length ≤ 1 ∧
    ¬ Shadowed renewedCluster controlledConfigMap.ownerRefs ∧
    ∃ after, controlledConfigMap.setController renewedCluster = .ok after ∧
      after.ownerRefs.filter OwnerRef.isController = [⟨renewedCluster, some true, some true⟩] := by
  have single : (controlledConfigMap.ownerRefs.filter OwnerRef.isController).length ≤ 1 := by decide
  have first : ¬ Shadowed renewedCluster controlledConfigMap.ownerRefs := by
    -- Only a plain reference stands behind the first to the cluster.
    have split : controlledConfigMap.ownerRefs = [_] ++ _ :: [_] := rfl
    rw [split, shadowed_append_iff (by decide) (by decide)]
    decide
  obtain ⟨after, ok⟩ : ∃ after, controlledConfigMap.setController renewedCluster = .ok after := ⟨_, rfl⟩
  exact ⟨single, first, after, ok, ((sole_controller_unless_shadowed renewedCluster single).2 after ok).2.1 first⟩

/-- A config map to which a cluster refers plainly and, further back, as the controller. -/
def shadowedConfigMap : ConfigMap :=
  { controlledConfigMap with ownerRefs := [⟨renewedCluster, none, none⟩, ⟨renewedCluster, some true, some true⟩] }

/-- The cluster takes the plain reference, and the one that controlled before stays as a second controller. -/
theorem two_controllers_of_shadowed :
    (shadowedConfigMap.ownerRefs.filter OwnerRef.isController).length = 1 ∧
    shadowedConfigMap.setController renewedCluster = .ok
      { shadowedConfigMap with
        ownerRefs := [⟨renewedCluster, some true, some true⟩, ⟨renewedCluster, some true, some true⟩] } ∧
    ¬ ∀ after, shadowedConfigMap.setController renewedCluster = .ok after →
      after.ownerRefs.filter OwnerRef.isController = [⟨renewedCluster, some true, some true⟩] := by
  refine ⟨rfl, rfl, fun sole => ?_⟩
  -- One reference would be two.
  have two := sole _ rfl
  cases two

end StorageConfig
