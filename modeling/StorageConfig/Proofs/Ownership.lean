import StorageConfig.Ownership

/-! What taking control does to the references of a resource, and who controls it before and after. -/

namespace StorageConfig

namespace Owner

/-- Two owners are one object exactly when their groups, kinds and names agree. -/
@[simp] theorem sameObject_iff {left right : Owner} :
    left.sameObject right = true ↔ left.groupKind = right.groupKind ∧ left.name = right.name := by
  simp [sameObject, identity]

end Owner

namespace OwnerRef

/-- A controlling reference marks the controller. -/
@[simp] theorem isController_controlling (owner : Owner) : (controlling owner).isController = true := rfl

/-- A controlling reference points at the owner it was made for. -/
@[simp] theorem owner_controlling (owner : Owner) : (controlling owner).owner = owner := rfl

/-- Giving up control does not change whom a reference points at. -/
@[simp] theorem owner_yieldTo (owner : Owner) (ref : OwnerRef) : (ref.yieldTo owner).owner = ref.owner := by
  unfold yieldTo
  split <;> rfl

/-- Only controllers of the new owner's kind stay controllers. -/
theorem isController_yieldTo (owner : Owner) (ref : OwnerRef) :
    (ref.yieldTo owner).isController = (ref.isController && ref.owner.sameKind owner) := by
  -- A reference that is not released was either no controller or of the same kind.
  unfold yieldTo
  cases control : ref.isController with
  | false => simp [control]
  | true =>
    cases kind : ref.owner.sameKind owner with
    | true => simp [control]
    | false => simp [released, isController]

/-- A reference that stays a controller is left exactly as it was. -/
theorem yieldTo_of_isController {owner : Owner} {ref : OwnerRef}
    (stays : (ref.yieldTo owner).isController = true) : ref.yieldTo owner = ref := by
  rw [isController_yieldTo, Bool.and_eq_true] at stays
  simp [yieldTo, stays.2]

/-- A reference that has given up control has nothing more to give up. -/
@[simp] theorem yieldTo_yieldTo (owner : Owner) (ref : OwnerRef) :
    (ref.yieldTo owner).yieldTo owner = ref.yieldTo owner := by
  -- Releasing a second time would need a controller of another kind, and none is left.
  have settled : ((ref.yieldTo owner).isController && !(ref.yieldTo owner).owner.sameKind owner) = false := by
    rw [isController_yieldTo, owner_yieldTo]
    cases ref.owner.sameKind owner <;> simp
  rw [yieldTo, settled]
  simp

/-- A controlling reference survives the takeover by an owner of its own kind. -/
theorem yieldTo_controlling {owner later : Owner} (kind : owner.groupKind = later.groupKind) :
    (controlling owner).yieldTo later = controlling owner := by
  simp [yieldTo, Owner.sameKind, kind]

end OwnerRef

/-- Who controls a resource among the objects of one group and kind: the first that is marked. -/
def holderOf (groupKind : String × String) (refs : List OwnerRef) : Option String :=
  -- Marks of other kinds do not count, since a takeover clears them.
  (refs.find? fun ref => ref.isController && ref.owner.groupKind == groupKind).map fun ref => ref.owner.name

/-- After the others gave up control, the first controller is the first of the new owner's kind. -/
theorem find?_isController_handOff (owner : Owner) (refs : List OwnerRef) :
    (handOff owner refs).find? OwnerRef.isController =
      refs.find? fun ref => ref.isController && ref.owner.groupKind == owner.groupKind := by
  -- Both searches stop at the same reference, and there giving up control changes nothing.
  induction refs with
  | nil => rfl
  | cons ref refs ih =>
    have same : (ref.yieldTo owner).isController = (ref.isController && ref.owner.groupKind == owner.groupKind) :=
      ref.isController_yieldTo owner
    simp only [handOff, List.map_cons, List.find?_cons] at ih ⊢
    rw [← same]
    cases stays : (ref.yieldTo owner).isController with
    | true => simp [OwnerRef.yieldTo_of_isController stays]
    | false => exact ih

/-- Handing off twice is handing off once. -/
@[simp] theorem handOff_handOff (owner : Owner) (refs : List OwnerRef) :
    handOff owner (handOff owner refs) = handOff owner refs := by
  simp [handOff]

/-- Handing off goes by the group and kind of the new owner only. -/
theorem handOff_congr {left right : Owner} (kind : left.groupKind = right.groupKind) :
    handOff left = handOff right := by
  unfold handOff OwnerRef.yieldTo Owner.sameKind
  rw [kind]

/-- Claiming control keeps the references as they were handed off to an owner of the same kind. -/
theorem handOff_claimControl {owner later : Owner} (kind : owner.groupKind = later.groupKind)
    (refs : List OwnerRef) :
    handOff later (claimControl owner refs) = claimControl owner (handOff later refs) := by
  -- The claim looks only at owners, which handing off leaves alone.
  induction refs with
  | nil => simp [handOff, claimControl, OwnerRef.yieldTo_controlling kind]
  | cons ref refs ih =>
    simp only [handOff, List.map_cons, claimControl, OwnerRef.owner_yieldTo] at ih ⊢
    split
    · simp [OwnerRef.yieldTo_controlling kind]
    · simp [ih]

/-- Of two claims by namesakes only the later one shows. -/
theorem claimControl_claimControl {earlier later : Owner} (same : earlier.identity = later.identity)
    (refs : List OwnerRef) : claimControl later (claimControl earlier refs) = claimControl later refs := by
  -- The later claim finds the reference of the earlier one where its own would have gone.
  induction refs with
  | nil => simp [claimControl, Owner.sameObject, same]
  | cons ref refs ih =>
    rw [claimControl, claimControl]
    by_cases found : ref.owner.sameObject later = true
    · have met : ref.owner.sameObject earlier = true := by simpa [Owner.sameObject, same] using found
      rw [if_pos met, if_pos found, claimControl, if_pos]
      simp [Owner.sameObject, same]
    · have passed : ¬ ref.owner.sameObject earlier = true := by simpa [Owner.sameObject, same] using found
      rw [if_neg passed, if_neg found, claimControl, if_neg found, ih]

/-- Of two takeovers by namesakes only the later one shows. -/
theorem takeover_takeover {earlier later : Owner} (same : earlier.identity = later.identity)
    (refs : List OwnerRef) :
    claimControl later (handOff later (claimControl earlier (handOff earlier refs))) =
      claimControl later (handOff later refs) := by
  -- Namesakes are of one kind, so what was handed off to one is handed off to the other.
  have kind : earlier.groupKind = later.groupKind := congrArg Prod.fst same
  rw [handOff_congr kind, handOff_claimControl kind, handOff_handOff, claimControl_claimControl same]

/-- The controlling reference of the owner stands among the references it claimed. -/
theorem controlling_mem_claimControl (owner : Owner) (refs : List OwnerRef) :
    .controlling owner ∈ claimControl owner refs := by
  induction refs with
  | nil => simp [claimControl]
  | cons ref refs ih =>
    rw [claimControl]
    split
    · exact List.mem_cons_self
    · exact List.mem_cons_of_mem ref ih

/-- Claiming control replaces the first reference to the object, or adds one at the end. -/
theorem getElem?_claimControl (owner : Owner) (refs : List OwnerRef) (index : Nat) :
    (claimControl owner refs)[index]? =
      if index = refs.findIdx (fun ref => ref.owner.sameObject owner) then some (.controlling owner)
      else refs[index]? := by
  -- The claim walks past exactly the references that the search walks past.
  induction refs generalizing index with
  | nil => cases index <;> simp [claimControl]
  | cons ref refs ih =>
    rw [claimControl, List.findIdx_cons]
    cases found : ref.owner.sameObject owner with
    | true => cases index <;> simp
    | false =>
      cases index with
      | zero => simp
      | succ index => simpa using ih index

/-- Namesakes that claim control of the same references leave the same exactly if they are one owner. -/
theorem claimControl_inj {left right : Owner} (same : left.identity = right.identity) (refs : List OwnerRef) :
    claimControl left refs = claimControl right refs ↔ left = right := by
  constructor
  · intro equal
    -- Both claim the first reference to the object they have in common.
    have place : (fun ref : OwnerRef => ref.owner.sameObject left) = fun ref => ref.owner.sameObject right := by
      funext ref
      simp only [Owner.sameObject, same]
    have claimed := congrArg
      (fun claimed => claimed[refs.findIdx fun ref => ref.owner.sameObject right]?) equal
    simp only [getElem?_claimControl, place, if_true, Option.some.injEq] at claimed
    exact congrArg OwnerRef.owner claimed
  · rintro rfl
    rfl

/-- The objects that were referred to still are, in their order, once an owner has claimed control. -/
theorem identities_claimControl (owner : Owner) (refs : List OwnerRef) :
    refs.map (fun ref => ref.owner.identity) <+:
      (claimControl owner refs).map fun ref => ref.owner.identity := by
  -- A replaced reference pointed at the owner's object already, and a new one stands last.
  induction refs with
  | nil => exact List.nil_prefix
  | cons ref refs ih =>
    rw [claimControl]
    split
    · rename_i same
      have identical : ref.owner.identity = owner.identity := by simpa [Owner.sameObject] using same
      simp [identical]
    · simpa using ih

/-- Whoever claims control of references free of rivals holds them. -/
theorem holderOf_claimControl {owner : Owner} {refs : List OwnerRef}
    (free : ∀ name, holderOf owner.groupKind refs = some name → name = owner.name) :
    holderOf owner.groupKind (claimControl owner refs) = some owner.name := by
  -- The claim comes no later than the first controller, which is the owner's if there is one.
  induction refs with
  | nil => simp [claimControl, holderOf]
  | cons ref refs ih =>
    rw [claimControl]
    split
    · simp [holderOf]
    · rename_i other
      cases holds : (ref.isController && ref.owner.groupKind == owner.groupKind) with
      | true =>
        -- A controller of the kind in front would be the owner itself, whose reference is replaced.
        have named := free ref.owner.name (by simp [holderOf, holds])
        simp only [Bool.and_eq_true, beq_iff_eq] at holds
        exact absurd (Owner.sameObject_iff.2 ⟨holds.2, named⟩) other
      | false =>
        have rest := ih fun name held => free name (by simpa [holderOf, holds] using held)
        simpa [holderOf, holds] using rest

/-- References that mark a controller are the same where at most one does. -/
theorem controller_unique {refs : List OwnerRef} (single : (refs.filter OwnerRef.isController).length ≤ 1)
    {ref other : OwnerRef} (member : ref ∈ refs) (controls : ref.isController = true)
    (further : other ∈ refs) (marked : other.isController = true) : ref = other := by
  have here := List.mem_filter.2 ⟨member, controls⟩
  have there := List.mem_filter.2 ⟨further, marked⟩
  obtain ⟨only, alone⟩ := List.length_eq_one_iff.1 (Nat.le_antisymm single (List.length_pos_of_mem here))
  rw [alone, List.mem_singleton] at here there
  rw [here, there]

/-- Where at most one reference controls, it names the holder among the objects of its kind. -/
theorem holderOf_eq_some_iff {refs : List OwnerRef} (single : (refs.filter OwnerRef.isController).length ≤ 1)
    {groupKind : String × String} {name : String} :
    holderOf groupKind refs = some name ↔
      ∃ ref ∈ refs, (ref.isController = true ∧ ref.owner.groupKind = groupKind) ∧ ref.owner.name = name := by
  constructor
  · intro held
    obtain ⟨ref, found, named⟩ := Option.map_eq_some_iff.1 held
    exact ⟨ref, List.mem_of_find?_eq_some found, by simpa using List.find?_some found, named⟩
  · rintro ⟨ref, member, both, rfl⟩
    -- A search that could stop at the reference stops at one like it, and there is no other.
    obtain ⟨first, found⟩ : ∃ first,
        refs.find? (fun ref => ref.isController && ref.owner.groupKind == groupKind) = some first := by
      rw [← Option.isSome_iff_exists, List.find?_isSome]
      exact ⟨ref, member, by simpa using both⟩
    have marks := List.find?_some found
    simp only [Bool.and_eq_true] at marks
    obtain rfl := controller_unique single member both.1 (List.mem_of_find?_eq_some found) marks.1
    rw [holderOf, found, Option.map_some]

/-- Handing off leaves the holder of the new owner's kind as it was. -/
@[simp] theorem holderOf_handOff (owner : Owner) (refs : List OwnerRef) :
    holderOf owner.groupKind (handOff owner refs) = holderOf owner.groupKind refs := by
  -- Only controllers of other kinds lose their mark.
  induction refs with
  | nil => rfl
  | cons ref refs ih =>
    have same := ref.isController_yieldTo owner
    simp only [holderOf, handOff, List.map_cons, List.find?_cons, OwnerRef.owner_yieldTo, same,
      Owner.sameKind] at ih ⊢
    cases holds : (ref.isController && ref.owner.groupKind == owner.groupKind) with
    | true =>
      simp only [Bool.and_eq_true, beq_iff_eq] at holds
      simp [holds]
    | false =>
      simp only [Bool.and_eq_false_iff, beq_eq_false_iff_ne] at holds
      rcases holds with plain | foreign
      · simpa [plain] using ih
      · simpa [foreign] using ih

/-- What the references of a resource are once an owner has taken it over, by claiming one place among them. -/
structure TakenOver (owner : Owner) (before after : List OwnerRef) (place : Nat) : Prop where
  /-- No earlier reference is to the owner's object. -/
  first : ∀ index ref, index < place → before[index]? = some ref →
    ¬ (ref.owner.groupKind = owner.groupKind ∧ ref.owner.name = owner.name)
  /-- The place holds a reference to the owner's object, or is behind all references. -/
  own : place = before.length ∨
    ∃ ref, before[place]? = some ref ∧ ref.owner.groupKind = owner.groupKind ∧ ref.owner.name = owner.name
  /-- The place ends up with the owner as it is now, controlling and blocking. -/
  claimed : after[place]? = some ⟨owner, some true, some true⟩
  /-- Controllers of another group or kind lose both flags. -/
  released : ∀ index ref, index ≠ place → before[index]? = some ref → ref.controller = some true →
    ref.owner.groupKind ≠ owner.groupKind → after[index]? = some ⟨ref.owner, none, none⟩
  /-- Every other reference stays as it is. -/
  kept : ∀ index ref, index ≠ place → before[index]? = some ref →
    ¬ (ref.controller = some true ∧ ref.owner.groupKind ≠ owner.groupKind) → after[index]? = some ref
  /-- There is no further reference. -/
  length : after.length = max before.length (place + 1)

/-- Claiming control makes room for the claimed place and for nothing else. -/
theorem length_claimControl (owner : Owner) (refs : List OwnerRef) :
    (claimControl owner refs).length =
      max refs.length (refs.findIdx (fun ref => ref.owner.sameObject owner) + 1) := by
  induction refs with
  | nil => simp [claimControl]
  | cons ref refs ih =>
    rw [claimControl, List.findIdx_cons]
    cases found : ref.owner.sameObject owner with
    | true => simp
    | false =>
      simp only [Bool.false_eq_true, if_false, cond_false, List.length_cons, ih]
      omega

/-- Handing off and then claiming control is a takeover at the first reference to the owner's object. -/
theorem takenOver_claimControl (owner : Owner) (refs : List OwnerRef) :
    TakenOver owner refs (claimControl owner (handOff owner refs))
      (refs.findIdx fun ref => ref.owner.sameObject owner) := by
  -- Handing off leaves every reference in its place and with its owner.
  have same : (handOff owner refs).findIdx (fun ref => ref.owner.sameObject owner) =
      refs.findIdx fun ref => ref.owner.sameObject owner := by
    rw [handOff, List.findIdx_map]
    congr 1
    funext ref
    simp
  have handed (index : Nat) : (handOff owner refs)[index]? = refs[index]?.map (OwnerRef.yieldTo owner) :=
    List.getElem?_map
  constructor
  case first =>
    intro index ref before found own
    obtain ⟨within, rfl⟩ := List.getElem?_eq_some_iff.1 found
    have differs := List.not_of_lt_findIdx before
    rw [Owner.sameObject_iff.2 own] at differs
    cases differs
  case own =>
    rcases Nat.lt_or_ge (refs.findIdx fun ref => ref.owner.sameObject owner) refs.length with within | beyond
    · have object := List.findIdx_getElem (w := within)
      exact .inr ⟨_, List.getElem?_eq_getElem within, Owner.sameObject_iff.1 object⟩
    · exact .inl (Nat.le_antisymm List.findIdx_le_length beyond)
  case claimed =>
    rw [getElem?_claimControl, same, if_pos rfl]
    rfl
  case released =>
    intro index ref apart found control foreign
    rw [getElem?_claimControl, same, if_neg apart, handed, found, Option.map_some, OwnerRef.yieldTo, if_pos]
    · rfl
    · simp [OwnerRef.isController, control, Owner.sameKind, foreign]
  case kept =>
    intro index ref apart found stays
    rw [getElem?_claimControl, same, if_neg apart, handed, found, Option.map_some, OwnerRef.yieldTo, if_neg]
    simpa [OwnerRef.isController, Owner.sameKind] using stays
  case length =>
    rw [length_claimControl, same, handOff, List.length_map]

end StorageConfig
