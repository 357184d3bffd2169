import StorageConfig.Proofs.Json.Printing

/-!
Merging a document into another one, as RFC 7386 has it.

A member that is null removes the one of its name, any other is merged into it, and what is not named stays.
-/

namespace StorageConfig

namespace Json

/-- The members of an object; anything else has none. -/
def members : Json → List (String × Json)
  | obj members => members
  | _ => []

/-- The values of a name among members, in order. -/
def valuesOf (name : String) (members : List (String × Json)) : List Json :=
  (members.filter fun entry => entry.1 == name).map (·.2)

/-- Members without those of a name. -/
def withoutName (name : String) (members : List (String × Json)) : List (String × Json) :=
  members.filter fun entry => entry.1 != name

/-- Whether a document is null. -/
def isNull : Json → Bool
  | null => true
  | _ => false

mutual

/-- The document that a patch makes out of another one; a patch that is no object takes its place. -/
def mergePatch : Json → Json → Json
  | target, obj changes => obj (mergeMembers target.members changes)
  | _, patch => patch

/-- The members after some changes, one after the other. -/
def mergeMembers : List (String × Json) → List (String × Json) → List (String × Json)
  | members, [] => members
  | members, (name, change) :: changes =>
    let changed := if change.isNull then []
      else [(name, mergePatch ((valuesOf name members).getLast?.getD null) change)]
    mergeMembers (withoutName name members ++ changed) changes

end

/-- Looking up a member gives its last value. -/
theorem member?_eq_getLast? (name : String) (json : Json) :
    json.member? name = (valuesOf name json.members).getLast? := by
  cases json with
  | obj members =>
    rw [member?, valuesOf, Json.members, List.getLast?_map, List.getLast?_eq_head?_reverse, ← List.filter_reverse,
      List.head?_filter]
  | _ => rfl

/-- The values of a name among members that start with one more. -/
theorem valuesOf_cons (name : String) (entry : String × Json) (members : List (String × Json)) :
    valuesOf name (entry :: members) =
      if entry.1 = name then entry.2 :: valuesOf name members else valuesOf name members := by
  by_cases same : entry.1 = name <;> simp [valuesOf, same]

/-- A name that no member has has no value. -/
theorem valuesOf_of_not_mem {name : String} {members : List (String × Json)} (missing : name ∉ members.map Prod.fst) :
    valuesOf name members = [] := by
  rw [valuesOf, List.map_eq_nil_iff, List.filter_eq_nil_iff]
  intro entry member same
  exact missing (List.mem_map.2 ⟨entry, member, beq_iff_eq.1 same⟩)

/-- Among members of different names, the value of one is all that its name has. -/
theorem valuesOf_of_mem {members : List (String × Json)} (distinct : (members.map Prod.fst).Nodup) {name : String}
    {value : Json} (member : (name, value) ∈ members) : valuesOf name members = [value] := by
  induction members with
  | nil => cases member
  | cons entry members ih =>
    obtain ⟨first, held⟩ := entry
    simp only [List.map_cons, List.nodup_cons] at distinct
    rcases List.mem_cons.1 member with same | later
    · -- No other member has the name of the first.
      obtain ⟨rfl, rfl⟩ := Prod.mk.inj same
      have alone : valuesOf name members = [] := valuesOf_of_not_mem distinct.1
      rw [valuesOf_cons, if_pos rfl, alone]
    · have different : first ≠ name := by
        rintro rfl
        exact distinct.1 (List.mem_map.2 ⟨_, later, rfl⟩)
      rw [valuesOf_cons, if_neg different, ih distinct.2 later]

/-- Members without those of a name have no value for it. -/
theorem valuesOf_withoutName_self (name : String) (members : List (String × Json)) :
    valuesOf name (withoutName name members) = [] := by
  simp [valuesOf, withoutName, List.filter_filter]

/-- Members without those of a name have the values of any other one. -/
theorem valuesOf_withoutName_of_ne {name other : String} (different : other ≠ name) (members : List (String × Json)) :
    valuesOf other (withoutName name members) = valuesOf other members := by
  -- Whatever is left out has another name than the one that is looked for.
  rw [valuesOf, withoutName, List.filter_filter]
  congr 1
  apply List.filter_congr
  intro entry _
  by_cases same : entry.1 = other <;> simp [same, different]

/-- The values of a name among members one after the other. -/
theorem valuesOf_append (name : String) (early late : List (String × Json)) :
    valuesOf name (early ++ late) = valuesOf name early ++ valuesOf name late := by
  simp [valuesOf]

/-- The values of a name that no change mentions stay. -/
theorem valuesOf_mergeMembers_of_not_mem {name : String} {changes : List (String × Json)}
    (unmentioned : name ∉ changes.map Prod.fst) (members : List (String × Json)) :
    valuesOf name (mergeMembers members changes) = valuesOf name members := by
  induction changes generalizing members with
  | nil => rw [mergeMembers]
  | cons entry changes ih =>
    obtain ⟨changed, change⟩ := entry
    simp only [List.map_cons, List.mem_cons, not_or] at unmentioned
    rw [mergeMembers, ih unmentioned.2, valuesOf_append, valuesOf_withoutName_of_ne unmentioned.1]
    -- The value that is put in has the name of the change.
    by_cases removed : change.isNull = true
    · simp [removed, valuesOf]
    · simp [removed, valuesOf, Ne.symm unmentioned.1]

/-- The value of a name that one change mentions is merged with that change, or removed. -/
theorem valuesOf_mergeMembers_of_mem {changes : List (String × Json)} (distinct : (changes.map Prod.fst).Nodup)
    {name : String} {change : Json} (mentioned : (name, change) ∈ changes) (members : List (String × Json)) :
    valuesOf name (mergeMembers members changes) =
      if change.isNull then [] else [mergePatch ((valuesOf name members).getLast?.getD null) change] := by
  induction changes generalizing members with
  | nil => cases mentioned
  | cons entry changes ih =>
    obtain ⟨first, value⟩ := entry
    simp only [List.map_cons, List.nodup_cons] at distinct
    rw [mergeMembers]
    rcases List.mem_cons.1 mentioned with same | later
    · -- No later change has the name again.
      obtain ⟨rfl, rfl⟩ := Prod.mk.inj same
      rw [valuesOf_mergeMembers_of_not_mem distinct.1, valuesOf_append, valuesOf_withoutName_self]
      by_cases removed : change.isNull = true <;> simp [removed, valuesOf]
    · have different : name ≠ first := by
        rintro rfl
        exact distinct.1 (List.mem_map_of_mem (f := Prod.fst) later)
      have kept : valuesOf name (withoutName first members ++
          if value.isNull then [] else [(first, mergePatch ((valuesOf first members).getLast?.getD null) value)]) =
          valuesOf name members := by
        rw [valuesOf_append, valuesOf_withoutName_of_ne different]
        by_cases removed : value.isNull = true
        · simp [removed, valuesOf]
        · simp [removed, valuesOf, Ne.symm different]
      rw [ih distinct.2 later, kept]

/-- An object is merged into the members that stand under its name. -/
theorem valuesOf_mergePatch_of_obj {changes inner : List (String × Json)} (distinct : (changes.map Prod.fst).Nodup)
    {name : String} (mentioned : (name, obj inner) ∈ changes) (json : Json) :
    valuesOf name (json.mergePatch (obj changes)).members =
      [obj (mergeMembers ((valuesOf name json.members).getLast?.getD null).members inner)] := by
  rw [mergePatch, members, valuesOf_mergeMembers_of_mem distinct mentioned, if_neg (by simp [isNull]), mergePatch]

/-- The members of a plain object are plain. -/
theorem Plain.of_mem_members {depth : Nat} {json : Json} (plain : Plain (depth + 1) json) :
    ∀ entry ∈ json.members, Plain depth entry.2 := by
  cases plain with
  | obj each => exact each
  | _ => simp [members, Json.int]

/-- What holds of members holds of them after changes that make it hold, whatever they are merged into. -/
theorem forall_mergeMembers {holds : Json → Prop} {changes : List (String × Json)}
    (each : ∀ entry ∈ changes, ∀ target, holds target ∨ target = null → holds (target.mergePatch entry.2))
    {members : List (String × Json)} (before : ∀ entry ∈ members, holds entry.2) :
    ∀ entry ∈ mergeMembers members changes, holds entry.2 := by
  induction changes generalizing members with
  | nil =>
    rw [mergeMembers]
    exact before
  | cons entry changes ih =>
    obtain ⟨name, change⟩ := entry
    rw [mergeMembers]
    refine ih (fun other member => each other (List.mem_cons_of_mem _ member)) fun other member => ?_
    -- A member was there before, or is the one that the change put in.
    rcases List.mem_append.1 member with kept | put
    · exact before other (List.mem_filter.1 kept).1
    · by_cases removed : change.isNull = true
      · simp [removed] at put
      · simp only [removed, Bool.false_eq_true, if_false, List.mem_singleton] at put
        rw [put]
        refine each (name, change) List.mem_cons_self _ ?_
        cases found : (valuesOf name members).getLast? with
        | none => exact .inr rfl
        | some value =>
          obtain ⟨entry, listed, rfl⟩ := List.mem_map.1 (List.mem_of_getLast? found)
          exact .inl (before entry (List.mem_filter.1 listed).1)

/-- Merging a plain patch into a plain document leaves it plain. -/
theorem Plain.mergePatch {depth : Nat} {target patch : Json} (plain : Plain depth target) (change : Plain depth patch) :
    Plain depth (target.mergePatch patch) := by
  -- The induction is on the patch, for whatever document it is merged into.
  induction change generalizing target with
  | obj _ ih =>
    rw [Json.mergePatch]
    refine .obj (forall_mergeMembers (fun entry member target before => ?_) plain.of_mem_members)
    rcases before with held | rfl
    · exact ih entry member held
    · exact ih entry member .null
  | null => exact .null
  | bool value => exact .bool value
  | int range => exact .int range
  | str text => exact .str text
  | arr each => exact .arr each

end Json

end StorageConfig
