/-! Cutting a text at a mark: everywhere, at the first occurrence, or at the last. -/

namespace StorageConfig

/-- The parts between the marks, in order; a text without the mark is one part. -/
def splitAtMark (mark : Char) : List Char → List (List Char)
  | [] => [[]]
  | c :: rest =>
    if c = mark then [] :: splitAtMark mark rest
    else
      match splitAtMark mark rest with
      | [] => [[c]]
      | part :: parts => (c :: part) :: parts

/-- What stands before and after the first mark. -/
def cutAtFirst (mark : Char) : List Char → Option (List Char × List Char)
  | [] => none
  | c :: rest =>
    if c = mark then some ([], rest)
    else (cutAtFirst mark rest).map fun (before, after) => (c :: before, after)

/-- What stands before and after the last mark. -/
def cutAtLast (mark : Char) (text : List Char) : Option (List Char × List Char) :=
  (cutAtFirst mark text.reverse).map fun (after, before) => (before.reverse, after.reverse)

/-- Cutting loses nothing but the mark. -/
theorem cutAtFirst_eq_some {mark : Char} {text before after : List Char}
    (cut : cutAtFirst mark text = some (before, after)) : text = before ++ mark :: after := by
  -- The part before grows by one character for every step past it.
  induction text generalizing before with
  | nil => simp [cutAtFirst] at cut
  | cons c rest ih =>
    rw [cutAtFirst] at cut
    split at cut
    · simp_all
    · simp only [Option.map_eq_some_iff] at cut
      obtain ⟨⟨left, right⟩, found, same⟩ := cut
      simp only [Prod.mk.injEq] at same
      obtain ⟨rfl, rfl⟩ := same
      simp [ih found]

/-- Nothing before the first mark is the mark. -/
theorem not_mem_before_first {mark : Char} {text before after : List Char}
    (cut : cutAtFirst mark text = some (before, after)) : mark ∉ before := by
  induction text generalizing before with
  | nil => simp [cutAtFirst] at cut
  | cons c rest ih =>
    rw [cutAtFirst] at cut
    split at cut
    · simp_all
    · simp only [Option.map_eq_some_iff] at cut
      obtain ⟨⟨left, right⟩, found, same⟩ := cut
      simp only [Prod.mk.injEq] at same
      obtain ⟨rfl, rfl⟩ := same
      simp_all [ih found, eq_comm]

/-- A text is cut at the mark that follows a part without one. -/
theorem cutAtFirst_append {mark : Char} {before : List Char} (unmarked : mark ∉ before) (after : List Char) :
    cutAtFirst mark (before ++ mark :: after) = some (before, after) := by
  induction before with
  | nil => simp [cutAtFirst]
  | cons c rest ih =>
    simp only [List.mem_cons, not_or] at unmarked
    simp [cutAtFirst, Ne.symm unmarked.1, ih unmarked.2]

/-- A text is cut nowhere exactly if it is without the mark. -/
theorem cutAtFirst_eq_none_iff {mark : Char} {text : List Char} : cutAtFirst mark text = none ↔ mark ∉ text := by
  induction text with
  | nil => simp [cutAtFirst]
  | cons c rest ih =>
    rw [cutAtFirst]
    by_cases same : c = mark
    · simp [same]
    · simp [same, Ne.symm same, ih]

/-- A text is cut at its last mark into what stands before it and what is without a mark. -/
theorem cutAtLast_eq_some_iff {mark : Char} {text before after : List Char} :
    cutAtLast mark text = some (before, after) ↔ text = before ++ mark :: after ∧ mark ∉ after := by
  -- The last mark is the first one from behind.
  have reversed : cutAtLast mark text = some (before, after) ↔
      cutAtFirst mark text.reverse = some (after.reverse, before.reverse) := by
    rw [cutAtLast, Option.map_eq_some_iff]
    constructor
    · rintro ⟨⟨late, early⟩, found, same⟩
      obtain ⟨rfl, rfl⟩ := Prod.mk.inj same
      rw [found, List.reverse_reverse, List.reverse_reverse]
    · intro found
      exact ⟨_, found, by simp only [List.reverse_reverse]⟩
  rw [reversed]
  constructor
  · intro found
    have whole := congrArg List.reverse (cutAtFirst_eq_some found)
    exact ⟨by simpa using whole, by simpa using not_mem_before_first found⟩
  · rintro ⟨rfl, unmarked⟩
    have behind : mark ∉ after.reverse := by simpa using unmarked
    rw [← cutAtFirst_append behind before.reverse]
    simp

/-- A text is cut at no last mark exactly if it is without the mark. -/
theorem cutAtLast_eq_none_iff {mark : Char} {text : List Char} : cutAtLast mark text = none ↔ mark ∉ text := by
  rw [cutAtLast, Option.map_eq_none_iff, cutAtFirst_eq_none_iff, List.mem_reverse]

/-- There is always a first part. -/
theorem splitAtMark_ne_nil (mark : Char) (text : List Char) : splitAtMark mark text ≠ [] := by
  cases text with
  | nil => simp [splitAtMark]
  | cons c rest =>
    rw [splitAtMark]
    split
    · simp
    · split <;> simp

/-- A text without the mark is one part. -/
theorem splitAtMark_of_not_mem {mark : Char} {text : List Char} (unmarked : mark ∉ text) :
    splitAtMark mark text = [text] := by
  induction text with
  | nil => rfl
  | cons c rest ih =>
    simp only [List.mem_cons, not_or] at unmarked
    simp [splitAtMark, Ne.symm unmarked.1, ih unmarked.2]

/-- A mark ends the parts before it, and those after it begin anew. -/
theorem splitAtMark_append (mark : Char) (before after : List Char) :
    splitAtMark mark (before ++ mark :: after) = splitAtMark mark before ++ splitAtMark mark after := by
  induction before with
  | nil => simp [splitAtMark]
  | cons c rest ih =>
    obtain ⟨part, parts, first⟩ := List.exists_cons_of_ne_nil (splitAtMark_ne_nil mark rest)
    rw [List.cons_append, splitAtMark, splitAtMark, ih, first]
    -- Either the character is a mark itself, or it extends the first part on both sides.
    split <;> rfl

/-- Joined parts that are without the mark are split again as they were. -/
theorem splitAtMark_intercalate {mark : Char} {parts : List (List Char)} (present : parts ≠ [])
    (unmarked : ∀ part ∈ parts, mark ∉ part) : splitAtMark mark ([mark].intercalate parts) = parts := by
  induction parts with
  | nil => exact absurd rfl present
  | cons part rest ih =>
    have first := splitAtMark_of_not_mem (unmarked part List.mem_cons_self)
    cases rest with
    | nil => simpa using first
    | cons next others =>
      have joined : [mark].intercalate (part :: next :: others) =
          part ++ mark :: [mark].intercalate (next :: others) := by
        simp [List.intercalate_cons_cons]
      rw [joined, splitAtMark_append, first,
        ih (by simp) fun later member => unmarked later (List.mem_cons_of_mem part member)]
      rfl

/-- Joining the parts with the mark gives the text back. -/
theorem intercalate_splitAtMark (mark : Char) (text : List Char) :
    [mark].intercalate (splitAtMark mark text) = text := by
  induction text with
  | nil => rfl
  | cons c rest ih =>
    obtain ⟨part, more, parts⟩ := List.exists_cons_of_ne_nil (splitAtMark_ne_nil mark rest)
    rw [splitAtMark]
    rw [parts] at ih ⊢
    split
    · -- A mark closes an empty part, and the join writes it back.
      rename_i same
      rw [List.intercalate_cons_cons, ih, same]
      rfl
    · -- Any other character extends the first part.
      cases more with
      | nil => simpa using ih
      | cons next others =>
        rw [List.intercalate_cons_cons] at ih ⊢
        simpa using ih

end StorageConfig
