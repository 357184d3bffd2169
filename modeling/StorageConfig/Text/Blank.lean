/-! White space as Unicode defines it, and texts with it trimmed off. -/

namespace StorageConfig

/-- The characters that carry the Unicode property White_Space. -/
def isBlank (c : Char) : Bool :=
  let code := c.toNat
  (9 ≤ code && code ≤ 13) || code == 0x20 || code == 0x85 || code == 0xA0 || code == 0x1680
    || (0x2000 ≤ code && code ≤ 0x200A) || code == 0x2028 || code == 0x2029
    || code == 0x202F || code == 0x205F || code == 0x3000

/-- A text without its leading blanks. -/
def trimStart (text : List Char) : List Char := text.dropWhile isBlank

/-- A text without its leading and trailing blanks. -/
def trim (text : List Char) : List Char := (trimStart (trimStart text).reverse).reverse

/-- A trimmed text does not start with a blank. -/
theorem isBlank_head_trimStart (text : List Char) (c : Char) (rest : List Char)
    (starts : trimStart text = c :: rest) : isBlank c = false := by
  -- The first character that survives is the one the predicate stopped at.
  induction text with
  | nil => simp [trimStart] at starts
  | cons head tail ih =>
    unfold trimStart at starts ih
    rw [List.dropWhile_cons] at starts
    split at starts
    · exact ih starts
    · simp_all

/-- A text without blanks has none to lose at its start. -/
theorem trimStart_of_forall {text : List Char} (solid : ∀ c ∈ text, isBlank c = false) : trimStart text = text := by
  cases text with
  | nil => rfl
  | cons c rest => simp [trimStart, solid c List.mem_cons_self]

/-- A text without blanks is trimmed already. -/
theorem trim_of_forall {text : List Char} (solid : ∀ c ∈ text, isBlank c = false) : trim text = text := by
  rw [trim, trimStart_of_forall solid,
    trimStart_of_forall fun c member => solid c (List.mem_reverse.1 member), List.reverse_reverse]

/-- A text without its trailing blanks. -/
def trimEnd (text : List Char) : List Char := (trimStart text.reverse).reverse

/-- Trimming takes the blanks off the start and then off the end. -/
theorem trim_eq_trimEnd (text : List Char) : trim text = trimEnd (trimStart text) := rfl

/-- Trimming leaves only what was there. -/
theorem mem_of_mem_trim {c : Char} {text : List Char} (member : c ∈ trim text) : c ∈ text := by
  -- Both ends are trimmed alike, the second one of the reversed text.
  have kept : ∀ text : List Char, trimStart text ⊆ text := fun text => (List.dropWhile_suffix isBlank).subset
  exact kept text (List.mem_reverse.1 (kept _ (List.mem_reverse.1 member)))

/-- Up to a character that is no blank, the start is trimmed as if nothing stood behind. -/
theorem trimStart_append_cons {c : Char} (solid : isBlank c = false) (before after : List Char) :
    trimStart (before ++ c :: after) = trimStart before ++ c :: after := by
  -- Trimming stops at the character at the latest, whatever stands before it.
  induction before with
  | nil => simp [trimStart, solid]
  | cons first rest ih =>
    unfold trimStart at ih ⊢
    rw [List.cons_append, List.dropWhile_cons, List.dropWhile_cons, ih]
    split <;> rfl

/-- From a character that is no blank on, the end is trimmed as if nothing stood before. -/
theorem trimEnd_append_cons {c : Char} (solid : isBlank c = false) (before after : List Char) :
    trimEnd (before ++ c :: after) = before ++ c :: trimEnd after := by
  simp [trimEnd, trimStart_append_cons solid]

/-- Around a character that is no blank, a text is trimmed on both sides. -/
theorem trim_append_cons {c : Char} (solid : isBlank c = false) (before after : List Char) :
    trim (before ++ c :: after) = trimStart before ++ c :: trimEnd after := by
  rw [trim_eq_trimEnd, trimStart_append_cons solid, trimEnd_append_cons solid]

/-- Trimming leaves every character that is no blank. -/
theorem mem_trim_of_solid {c : Char} {text : List Char} (member : c ∈ text) (solid : isBlank c = false) :
    c ∈ trim text := by
  obtain ⟨before, after, rfl⟩ := List.append_of_mem member
  rw [trim_append_cons solid]
  simp

/-- Nothing is left to trim at a start that has been trimmed. -/
@[simp] theorem trimStart_trimStart (text : List Char) : trimStart (trimStart text) = trimStart text := by
  -- What is left is empty or starts with a character that stops the trimming.
  cases start : trimStart text with
  | nil => rfl
  | cons c rest => simp [trimStart, isBlank_head_trimStart text c rest start]

/-- Nothing is left to trim at an end that has been trimmed. -/
@[simp] theorem trimEnd_trimEnd (text : List Char) : trimEnd (trimEnd text) = trimEnd text := by
  simp [trimEnd]

/-- Nothing is left of blanks. -/
theorem trimStart_eq_nil {text : List Char} (blank : ∀ c ∈ text, isBlank c = true) : trimStart text = [] := by
  rw [trimStart, ← List.append_nil text, List.dropWhile_append_of_pos blank]
  rfl

/-- A text with its start trimmed is trimmed to the same. -/
@[simp] theorem trim_trimStart (text : List Char) : trim (trimStart text) = trim text := by
  rw [trim_eq_trimEnd, trimStart_trimStart, trim_eq_trimEnd]

/-- A text with its end trimmed is trimmed to the same. -/
@[simp] theorem trim_trimEnd (text : List Char) : trim (trimEnd text) = trim text := by
  by_cases blank : ∀ c ∈ text, isBlank c = true
  · -- Blanks are gone whichever end they are trimmed from.
    have finish : trimEnd text = [] := by
      rw [trimEnd, trimStart_eq_nil fun c member => blank c (List.mem_reverse.1 member)]
      rfl
    rw [finish, trim_eq_trimEnd text, trimStart_eq_nil blank]
    rfl
  · -- Around any other character each end is trimmed by itself.
    obtain ⟨c, member, solid⟩ : ∃ c ∈ text, isBlank c = false := by simpa using blank
    obtain ⟨before, after, rfl⟩ := List.append_of_mem member
    rw [trimEnd_append_cons solid, trim_append_cons solid, trim_append_cons solid, trimEnd_trimEnd]

end StorageConfig
