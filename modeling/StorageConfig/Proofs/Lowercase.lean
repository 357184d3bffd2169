import StorageConfig.Proofs.Ascii
import StorageConfig.Text.Lowercase

/-! Which texts, among those of all scripts, are a word of ASCII in lower case. -/

namespace StorageConfig

/-- The lower case of ASCII moves its capitals up by thirty-two and nothing else. -/
theorem toNat_toLower (c : Char) :
    c.toLower.toNat = if 65 ≤ c.toNat ∧ c.toNat ≤ 90 then c.toNat + 32 else c.toNat := by
  have capital : (c.val ≥ 'A'.val ∧ c.val ≤ 'Z'.val) ↔ 65 ≤ c.toNat ∧ c.toNat ≤ 90 := by
    simp only [ge_iff_le, UInt32.le_iff_toNat_le]
    rfl
  unfold Char.toLower
  by_cases inside : 65 ≤ c.toNat ∧ c.toNat ≤ 90
  · -- No word is large enough for the sum to wrap around.
    rw [dif_pos (capital.2 inside), if_pos inside]
    change (c.val + 32).toNat = c.val.toNat + 32
    have bound : c.val.toNat ≤ 90 := inside.2
    rw [UInt32.toNat_add]
    exact Nat.mod_eq_of_lt (by simp; omega)
  · rw [dif_neg (mt capital.1 inside), if_neg inside]

/-- The lower case of ASCII leads neither into ASCII nor out of it. -/
theorem isAscii_toLower_iff (c : Char) : IsAscii c.toLower ↔ IsAscii c := by
  unfold IsAscii
  rw [toNat_toLower]
  split <;> omega

namespace CapitalRun

variable {run : CapitalRun} {c : Char}

/-- A capital lies between the first and the last of its run. -/
theorem within_of_holds (held : run.holds c = true) : run.first ≤ c.toNat ∧ c.toNat ≤ run.last := by
  simp only [holds, Bool.and_eq_true, decide_eq_true_eq] at held
  exact held.1

/-- A small letter stands as far behind the first one as its capital does. -/
theorem toNat_smallOf (held : run.holds c = true) :
    (run.smallOf c).toNat = run.small + (c.toNat - run.first) := by
  have within := within_of_holds held
  have valid := run.isValid
  -- The run does not reach into the numbers that are no characters, so neither does any part of it.
  have isChar : (run.small + (c.toNat - run.first)).isValidChar := by
    unfold Nat.isValidChar
    omega
  rw [smallOf, Char.ofNat, dif_pos isChar]
  rfl

end CapitalRun

/-- A character is its own small letter, or a capital whose small letter stands in the table. -/
theorem smallLetter_cases (c : Char) :
    (smallLetter c = c ∧ ∀ run ∈ capitalRuns, run.holds c = false) ∨
      ∃ run ∈ capitalRuns, run.holds c = true ∧
        (smallLetter c).toNat = run.small + (c.toNat - run.first) := by
  unfold smallLetter
  cases found : capitalRuns.find? (·.holds c) with
  | none => exact .inl ⟨rfl, fun run member => Bool.eq_false_iff.2 (List.find?_eq_none.1 found run member)⟩
  | some run =>
    have held : run.holds c = true := by simpa using List.find?_some found
    exact .inr ⟨run, List.mem_of_find?_eq_some found, held, CapitalRun.toNat_smallOf held⟩

/-- Behind the capitals of ASCII stand those of other scripts, of which only the Kelvin sign leads back to ASCII. -/
theorem capitalRuns_beyond_ascii :
    ∀ run ∈ capitalRuns.tail, 128 ≤ run.first ∧ (128 ≤ run.small ∨ run.first = 0x212A ∧ run.last = 0x212A) := by
  decide +kernel

/-- A run is that of ASCII, or one of those behind it. -/
theorem mem_capitalRuns_iff {run : CapitalRun} :
    run ∈ capitalRuns ↔ run = .each 0x41 0x5A 0x61 ∨ run ∈ capitalRuns.tail :=
  List.mem_cons

/-- In ASCII a small letter is that of ASCII. -/
theorem smallLetter_of_isAscii {c : Char} (ascii : IsAscii c) : smallLetter c = c.toLower := by
  unfold IsAscii at ascii
  apply Char.toNat_inj.1
  rw [toNat_toLower]
  rcases smallLetter_cases c with ⟨same, unheld⟩ | ⟨run, member, held, moved⟩
  · -- A capital of ASCII would be in the first run.
    have first := unheld (.each 0x41 0x5A 0x61) (mem_capitalRuns_iff.2 (.inl rfl))
    have noCapital : ¬ (65 ≤ c.toNat ∧ c.toNat ≤ 90) := by
      rintro ⟨lower, upper⟩
      simp [CapitalRun.holds, CapitalRun.each, Nat.mod_one, lower, upper] at first
    rw [same, if_neg noCapital]
  · have within := CapitalRun.within_of_holds held
    rcases mem_capitalRuns_iff.1 member with rfl | behind
    · simp only [CapitalRun.each] at within moved
      rw [moved, if_pos within]
      omega
    · -- The other runs start beyond ASCII.
      have start := (capitalRuns_beyond_ascii run behind).1
      omega

/-- A Kelvin sign as the capital letter that it stands for, and any other character itself. -/
def plainLetter (c : Char) : Char := if c = '\u212a' then 'K' else c

/-- Where the plain letter is in ASCII, the small letter is its lower case there. -/
theorem smallLetter_of_plain {c : Char} (plain : IsAscii (plainLetter c)) :
    smallLetter c = (plainLetter c).toLower := by
  by_cases kelvin : c = '\u212a'
  · subst kelvin
    decide
  · rw [plainLetter, if_neg kelvin] at plain ⊢
    exact smallLetter_of_isAscii plain

/-- Where it is not, neither is the small letter. -/
theorem not_isAscii_smallLetter {c : Char} (foreign : ¬ IsAscii (plainLetter c)) : ¬ IsAscii (smallLetter c) := by
  have other : c ≠ '\u212a' := by
    rintro rfl
    exact foreign (by decide)
  rw [plainLetter, if_neg other] at foreign
  unfold IsAscii at foreign ⊢
  rcases smallLetter_cases c with ⟨same, -⟩ | ⟨run, member, held, moved⟩
  · rwa [same]
  · have within := CapitalRun.within_of_holds held
    rcases mem_capitalRuns_iff.1 member with rfl | behind
    · -- The first run does not leave ASCII.
      simp only [CapitalRun.each] at within
      omega
    · rcases (capitalRuns_beyond_ascii run behind).2 with beyond | ⟨first, last⟩
      · omega
      · -- The run of the Kelvin sign holds nothing else.
        have kelvin : c = '\u212a' := Char.toNat_inj.1 (by change c.toNat = 0x212A; omega)
        exact absurd kelvin other

/-- The lower case of a plain character is its small letter, wherever it stands. -/
theorem lowerBetween_of_plain {c : Char} (plain : IsAscii (plainLetter c)) (before after : List Char) :
    lowerBetween before c after = [(plainLetter c).toLower] := by
  have noSigma : c ≠ '\u03a3' := by
    rintro rfl
    exact absurd plain (by decide)
  have noDotted : c ≠ '\u0130' := by
    rintro rfl
    exact absurd plain (by decide)
  rw [lowerBetween, if_neg noSigma, if_neg noDotted, smallLetter_of_plain plain]

/-- The lower case of any other character is not all in ASCII. -/
theorem exists_mem_lowerBetween {c : Char} (foreign : ¬ IsAscii (plainLetter c)) (before after : List Char) :
    ∃ letter ∈ lowerBetween before c after, ¬ IsAscii letter := by
  unfold lowerBetween
  split
  · -- Neither form of the small sigma is in ASCII.
    split
    · exact ⟨_, List.mem_singleton_self _, by decide⟩
    · exact ⟨_, List.mem_singleton_self _, by decide⟩
  · split
    · -- The letter would be in ASCII, but the dot that follows it is not.
      exact ⟨'\u0307', by simp, by decide⟩
    · exact ⟨_, List.mem_singleton_self _, not_isAscii_smallLetter foreign⟩

/-- The lower case of a text is a word of ASCII exactly if that of its plain letters, taken in ASCII, is that word. -/
theorem lowerAfter_eq_iff {word : List Char} (ascii : ∀ letter ∈ word, IsAscii letter) (before text : List Char) :
    lowerAfter before text = word ↔ text.map (fun c => (plainLetter c).toLower) = word := by
  -- The induction is on the text, for whatever stands before it and whatever is left of the word.
  induction text generalizing before word with
  | nil => exact Iff.rfl
  | cons c rest ih =>
    rw [lowerAfter, List.map_cons]
    by_cases plain : IsAscii (plainLetter c)
    · -- One letter of the word is for this character, and the rest is for those behind.
      rw [lowerBetween_of_plain plain, List.singleton_append]
      cases word with
      | nil => simp
      | cons letter later =>
        rw [List.cons.injEq, List.cons.injEq, ih fun x member => ascii x (List.mem_cons_of_mem letter member)]
    · -- Neither side can hold, as both lists leave ASCII.
      obtain ⟨letter, member, beyond⟩ := exists_mem_lowerBetween plain before rest
      constructor
      · rintro rfl
        exact absurd (ascii letter (List.mem_append_left _ member)) beyond
      · rintro rfl
        exact absurd ((isAscii_toLower_iff _).1 (ascii _ List.mem_cons_self)) plain

/-- Two texts are the same but for the case of letters of ASCII. -/
def SameButForCase (text word : String) : Prop :=
  text.toList.map Char.toLower = word.toList.map Char.toLower

instance (text word : String) : Decidable (SameButForCase text word) := inferInstanceAs (Decidable (_ = _))

/-- A text is a word but for the case of letters of ASCII, with a Kelvin sign for any capital K. -/
def SpellsWord (text word : String) : Prop := SameButForCase (text.map plainLetter) word

/-- A word is made of characters of ASCII and has no capitals among them. -/
def IsSmallWord (word : String) : Prop := ∀ letter ∈ word.toList, IsAscii letter ∧ letter.toLower = letter

instance (word : String) : Decidable (IsSmallWord word) := List.decidableBAll _ _

/-- The lower case of a text is such a word exactly if the text spells that word. -/
theorem lowercase_eq_iff {word : String} (small : IsSmallWord word) (text : String) :
    lowercase text = word ↔ SpellsWord text word := by
  have lowered : word.toList.map Char.toLower = word.toList := by
    rw [List.map_congr_left fun letter member => (small letter member).2, List.map_id']
  -- Both sides are about the characters of the text, which has nothing before it.
  rw [SpellsWord, SameButForCase, lowered, String.toList_map, List.map_map, ← String.toList_inj, lowercase,
    String.toList_ofList]
  exact lowerAfter_eq_iff (fun letter member => (small letter member).1) [] text.toList

end StorageConfig
