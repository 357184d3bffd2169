import StorageConfig.Proofs.Ascii
import StorageConfig.Selector

/-! The grammar of label keys and values, apart from how a text is checked against it. -/

namespace StorageConfig

/-- A word starts and ends with an edge letter, and has inner letters in between. -/
inductive Word (edge inner : Char → Prop) : List Char → Prop
  | single {c : Char} (start : edge c) : Word edge inner [c]
  | framed {first last : Char} {middle : List Char} (start : edge first) (within : ∀ c ∈ middle, inner c)
      (finish : edge last) : Word edge inner (first :: (middle ++ [last]))

/-- A label name: up to 63 letters, digits, dashes, underscores and points, with a letter or digit at both ends. -/
def LabelName (name : List Char) : Prop :=
  name.length ≤ 63 ∧ Word (fun c => c.isAlphanum = true) (fun c => c.isAlphanum = true ∨ c ∈ ['-', '_', '.']) name

/-- A part of a DNS name: up to 63 lower-case letters, digits and dashes, with no dash at either end. -/
def DnsPart (part : List Char) : Prop :=
  part.length ≤ 63 ∧ Word (fun c => c.isLower = true ∨ c.isDigit = true)
    (fun c => c.isLower = true ∨ c.isDigit = true ∨ c = '-') part

/-- A DNS name: parts with points between them, in all up to 253 characters. -/
def DnsName (name : List Char) : Prop :=
  name.length ≤ 253 ∧ ∃ parts, parts ≠ [] ∧ name = ['.'].intercalate parts ∧ ∀ part ∈ parts, DnsPart part

/-- A label key: a label name, perhaps with a DNS name and a slash before it. -/
def LabelKey (key : List Char) : Prop :=
  LabelName key ∨ ∃ domain name, key = domain ++ '/' :: name ∧ DnsName domain ∧ LabelName name

/-- A label value: nothing, or a label name. -/
def LabelValue (value : List Char) : Prop := value = [] ∨ LabelName value

namespace Word

/-- What holds of edge letters and of inner letters holds of all letters of a word. -/
theorem forall_mem {edge inner : Char → Prop} {word : List Char} (form : Word edge inner word)
    (holds : Char → Prop) (ends : ∀ c, edge c → holds c) (middles : ∀ c, inner c → holds c) :
    ∀ c ∈ word, holds c := by
  cases form with
  | single start => simpa using ends _ start
  | framed start within finish =>
    simp only [List.mem_cons, List.mem_append, List.not_mem_nil, or_false]
    rintro c (rfl | inside | rfl)
    · exact ends c start
    · exact middles c (within c inside)
    · exact ends c finish

/-- A text is a word where its first and last letters are edge letters, and all its letters are allowed. -/
theorem iff_checks (edge inner : Char → Bool) (allowed : ∀ c, edge c = true → inner c = true)
    (word : List Char) :
    Word (edge · = true) (inner · = true) word ↔
      word.head?.any edge = true ∧ word.getLast?.any edge = true ∧ word.all inner = true := by
  constructor
  · intro form
    refine ⟨?_, ?_, List.all_eq_true.2 (form.forall_mem _ allowed fun _ => id)⟩
    · cases form with
      | single start => simpa using start
      | framed start => simpa using start
    · cases form with
      | single start => simpa using start
      | framed _ _ finish => simpa [List.getLast?_cons] using finish
  · rintro ⟨start, finish, letters⟩
    rw [List.all_eq_true] at letters
    -- Behind the first letter there is nothing, or a middle and a last letter.
    cases word with
    | nil => simp at start
    | cons first rest =>
      have opens : edge first = true := by simpa using start
      rcases List.eq_nil_or_concat rest with rfl | ⟨middle, last, split⟩
      · exact .single opens
      · rw [List.concat_eq_append] at split
        subst split
        refine .framed opens (fun c member => letters c ?_) ?_
        · simp [member]
        · simpa [List.getLast?_cons] using finish

end Word

/-- The check for label names accepts exactly those. -/
theorem isLabelName_iff {name : List Char} : isLabelName name = true ↔ LabelName name := by
  have words := Word.iff_checks Char.isAlphanum
    (fun c => c.isAlphanum || c == '-' || c == '_' || c == '.') (by simp +contextual) name
  simp only [LabelName, isLabelName, Bool.and_eq_true, decide_eq_true_eq, and_assoc]
  rw [← words]
  simp [or_assoc]

/-- The check for the parts of DNS names accepts exactly those. -/
theorem isDnsPart_iff {part : List Char} : isDnsPart part = true ↔ DnsPart part := by
  have words := Word.iff_checks isDnsLetter (fun c => isDnsLetter c || c == '-') (by simp +contextual) part
  simp only [DnsPart, isDnsPart, Bool.and_eq_true, decide_eq_true_eq, and_assoc]
  rw [← words]
  simp [isDnsLetter, or_assoc]

/-- A letter of a joined text is the mark or a letter of a part. -/
theorem mem_intercalate {mark c : Char} {parts : List (List Char)} (member : c ∈ [mark].intercalate parts) :
    c = mark ∨ ∃ part ∈ parts, c ∈ part := by
  induction parts with
  | nil => simp at member
  | cons part rest ih =>
    cases rest with
    | nil => exact .inr ⟨part, List.mem_cons_self, by simpa using member⟩
    | cons next others =>
      simp only [List.intercalate_cons_cons, List.mem_append, List.mem_singleton] at member
      rcases member with (own | joint) | later
      · exact .inr ⟨part, List.mem_cons_self, own⟩
      · exact .inl joint
      · rcases ih later with joint | ⟨found, listed, inside⟩
        · exact .inl joint
        · exact .inr ⟨found, List.mem_cons_of_mem part listed, inside⟩

/-- No part of a DNS name has a point. -/
theorem DnsPart.not_mem_point {part : List Char} (form : DnsPart part) : '.' ∉ part := by
  -- A point is neither an edge letter nor an inner one.
  have plain := form.2.forall_mem (· ≠ '.') (by rintro _ letter rfl; revert letter; decide)
    (by rintro _ letter rfl; revert letter; decide)
  exact fun member => plain '.' member rfl

/-- The check for DNS names accepts exactly those. -/
theorem isDnsName_iff {name : List Char} : isDnsName name = true ↔ DnsName name := by
  simp only [isDnsName, DnsName, Bool.and_eq_true, decide_eq_true_eq, List.all_eq_true, isDnsPart_iff]
  refine and_congr_right fun _ => ⟨fun parts => ?_, ?_⟩
  · exact ⟨_, splitAtMark_ne_nil '.' name, (intercalate_splitAtMark '.' name).symm, parts⟩
  · -- Parts without points are found again when the name is split.
    rintro ⟨parts, present, rfl, form⟩
    rwa [splitAtMark_intercalate present fun part member => (form part member).not_mem_point]

/-- The letters of label keys and values. -/
def IsLabelChar (c : Char) : Prop := c.isAlphanum = true ∨ c ∈ ['-', '_', '.', '/']

namespace IsLabelChar

variable {c : Char}

/-- Labels are in ASCII. -/
theorem isAscii (letter : IsLabelChar c) : IsAscii c := isAscii_of_marks (by simp) letter

/-- Labels have no blanks. -/
theorem isBlank_eq_false (letter : IsLabelChar c) : isBlank c = false := by
  rcases letter with alphanum | mark
  · have range := (isAlphanum_iff c).1 alphanum
    -- The blanks stand below, between and above the three stretches of letters and digits.
    simp only [isBlank, Bool.or_eq_false_iff, Bool.and_eq_false_iff, decide_eq_false_iff_not, beq_eq_false_iff_ne]
    omega
  · have marks : ∀ mark ∈ ['-', '_', '.', '/'], isBlank mark = false := by simp [isBlank]
    exact marks c mark

/-- Labels have neither a comma nor an equals sign. -/
theorem ne_separator (letter : IsLabelChar c) : c ≠ ',' ∧ c ≠ '=' := by
  constructor
  · rintro rfl
    exact absurd letter (by unfold IsLabelChar; decide)
  · rintro rfl
    exact absurd letter (by unfold IsLabelChar; decide)

end IsLabelChar

/-- A label name is made of letters, digits, dashes, underscores and points. -/
theorem LabelName.letters {name : List Char} (form : LabelName name) :
    ∀ c ∈ name, c.isAlphanum = true ∨ c ∈ ['-', '_', '.'] :=
  form.2.forall_mem _ (fun _ => .inl) fun _ => id

/-- No label name has a slash. -/
theorem LabelName.not_mem_slash {name : List Char} (form : LabelName name) : '/' ∉ name :=
  fun member => absurd (form.letters '/' member) (by decide)

/-- A label name is not empty. -/
theorem LabelName.ne_nil {name : List Char} (form : LabelName name) : name ≠ [] := by
  rintro rfl
  nomatch form.2

/-- A DNS name is made of letters, digits, dashes and points. -/
theorem DnsName.letters {name : List Char} (form : DnsName name) :
    ∀ c ∈ name, c.isAlphanum = true ∨ c ∈ ['-', '.'] := by
  obtain ⟨-, parts, -, rfl, parts_form⟩ := form
  intro c member
  rcases mem_intercalate member with rfl | ⟨part, listed, inside⟩
  · exact .inr (by decide)
  · -- Letters and digits of either kind are alphanumeric.
    have letter := (parts_form part listed).2.forall_mem
      (fun c => c.isLower = true ∨ c.isDigit = true ∨ c = '-') (fun _ edge => edge.imp id .inl) (fun _ => id) c inside
    change ((c.isUpper || c.isLower) || c.isDigit) = true ∨ _
    simp only [Bool.or_eq_true, List.mem_cons]
    rcases letter with lower | digit | dash
    · exact .inl (.inl (.inr lower))
    · exact .inl (.inr digit)
    · exact .inr (.inl dash)

/-- The check for label keys accepts exactly those. -/
theorem isLabelKey_iff {key : List Char} : isLabelKey key = true ↔ LabelKey key := by
  unfold isLabelKey LabelKey
  cases cut : cutAtFirst '/' key with
  | none =>
    -- Without a slash there is nothing before the label name.
    have slashless := cutAtFirst_eq_none_iff.1 cut
    simp only [isLabelName_iff]
    refine ⟨.inl, ?_⟩
    rintro (plain | ⟨domain, name, rfl, -⟩)
    · exact plain
    · exact absurd (by simp) slashless
  | some parts =>
    obtain ⟨domain, name⟩ := parts
    simp only [Bool.and_eq_true, isDnsName_iff, isLabelName_iff]
    constructor
    · rintro ⟨first, second⟩
      exact .inr ⟨domain, name, cutAtFirst_eq_some cut, first, second⟩
    · -- The first slash is the one that follows the DNS name, and a label name has none.
      rintro (plain | ⟨other, rest, rfl, first, second⟩)
      · have whole := cutAtFirst_eq_some cut
        exact absurd (by simp [whole]) plain.not_mem_slash
      · have slashless : '/' ∉ other := fun member => absurd (first.letters '/' member) (by decide)
        rw [cutAtFirst_append slashless] at cut
        obtain ⟨rfl, rfl⟩ := Prod.mk.inj (Option.some.inj cut)
        exact ⟨first, second⟩

/-- The check for label values accepts exactly those. -/
theorem isLabelValue_iff {value : List Char} : isLabelValue value = true ↔ LabelValue value := by
  simp [isLabelValue, LabelValue, isLabelName_iff]

/-- A label key is made of label letters. -/
theorem LabelKey.letters {key : List Char} (form : LabelKey key) : ∀ c ∈ key, IsLabelChar c := by
  have plain {name : List Char} (form : LabelName name) : ∀ c ∈ name, IsLabelChar c := by
    intro c member
    have letter := form.letters c member
    simp only [IsLabelChar, List.mem_cons, List.not_mem_nil, or_false] at letter ⊢
    grind
  rcases form with whole | ⟨domain, name, rfl, first, second⟩
  · exact plain whole
  · -- A letter of the key is one of the DNS name, the slash or one of the label name.
    intro c member
    simp only [List.mem_append, List.mem_cons] at member
    rcases member with front | rfl | back
    · have letter := first.letters c front
      simp only [IsLabelChar, List.mem_cons, List.not_mem_nil, or_false] at letter ⊢
      grind
    · exact .inr (by decide)
    · exact plain second c back

/-- A label value is made of label letters. -/
theorem LabelValue.letters {value : List Char} (form : LabelValue value) : ∀ c ∈ value, IsLabelChar c := by
  rcases form with rfl | name
  · intro c member
    cases member
  · exact LabelKey.letters (.inl name)

end StorageConfig
