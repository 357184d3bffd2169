import StorageConfig.Proofs.Selector

/-!
What the terms of a selector's text ask for, and what the selector that is read from it matches.

Terms are bound one after the other, so of several with one key only the last counts.
-/

namespace StorageConfig

namespace Selector

/-- A part of a text gives a key a value: what stands before and behind its first equals sign, trimmed. -/
def Gives (part : List Char) (key value : String) : Prop :=
  ∃ before after, part = before ++ '=' :: after ∧ '=' ∉ before ∧ String.ofList (trim before) = key ∧
    String.ofList (trim after) = value

/-- The last part that gives a key any value gives it this one. -/
inductive GivesLast : List (List Char) → String → String → Prop
  | here {part : List Char} {later : List (List Char)} {key value : String} (gives : Gives part key value)
      (last : ∀ other ∈ later, ∀ another, ¬ Gives other key another) : GivesLast (part :: later) key value
  | behind {part : List Char} {later : List (List Char)} {key value : String} (gives : GivesLast later key value) :
      GivesLast (part :: later) key value

/-- Labels bind every key to all the values that parts give it. -/
def MeetsAll (parts : List (List Char)) (labels : TextMap) : Prop :=
  ∀ part ∈ parts, ∀ key value, Gives part key value → labels.get? key = some value

/-- No two parts give one key different values. -/
def Agree (parts : List (List Char)) : Prop :=
  ∀ part ∈ parts, ∀ other ∈ parts, ∀ key value another, Gives part key value → Gives other key another → value = another

/-- What a part gives, found by cutting it at its first equals sign. -/
def given? (part : List Char) : Option (String × String) :=
  (cutAtFirst '=' part).map fun (before, after) => (String.ofList (trim before), String.ofList (trim after))

/-- Cutting finds what a part gives. -/
theorem gives_iff {part : List Char} {key value : String} : Gives part key value ↔ given? part = some (key, value) := by
  constructor
  · -- No equals sign stands before the first, so the cut is there.
    rintro ⟨before, after, rfl, unmarked, rfl, rfl⟩
    rw [given?, cutAtFirst_append unmarked]
    rfl
  · intro found
    obtain ⟨⟨before, after⟩, cut, same⟩ := Option.map_eq_some_iff.1 found
    obtain ⟨rfl, rfl⟩ := Prod.mk.inj same
    exact ⟨before, after, cutAtFirst_eq_some cut, not_mem_before_first cut, rfl, rfl⟩

/-- A blank part gives nothing. -/
theorem not_gives_of_trim_eq_nil {part : List Char} (blank : trim part = []) (key value : String) :
    ¬ Gives part key value := by
  rintro ⟨before, after, rfl, -⟩
  -- The equals sign would be left over.
  have solid : isBlank '=' = false := by decide
  rw [trim_append_cons solid] at blank
  simp at blank

/-- A trimmed part that is read as a label gives the key its value, and nothing else. -/
theorem gives_iff_of_readTerm {part key value : List Char} (read : readTerm (trim part) = some (key, value))
    {wanted given : String} :
    Gives part wanted given ↔ String.ofList key = wanted ∧ String.ofList value = given := by
  obtain ⟨⟨front, back⟩, cut, checked⟩ := Option.bind_eq_some_iff.1 read
  simp only [Option.ite_none_right_eq_some, Option.some.injEq, Prod.mk.injEq] at checked
  obtain ⟨-, rfl, rfl⟩ := checked
  -- The part has an equals sign since what is left of it after trimming has one.
  have marked : '=' ∈ part := by
    apply mem_of_mem_trim
    rw [cutAtFirst_eq_some cut]
    simp
  cases whole : cutAtFirst '=' part with
  | none => exact absurd marked (cutAtFirst_eq_none_iff.1 whole)
  | some sides =>
    obtain ⟨before, after⟩ := sides
    have solid : isBlank '=' = false := by decide
    have unmarked : '=' ∉ trimStart before := fun member =>
      not_mem_before_first whole ((List.dropWhile_suffix isBlank).subset member)
    -- Trimming the part first only trims the outer ends of what is trimmed on both ends then.
    rw [cutAtFirst_eq_some whole, trim_append_cons solid, cutAtFirst_append unmarked] at cut
    obtain ⟨rfl, rfl⟩ := Prod.mk.inj (Option.some.inj cut)
    rw [gives_iff, given?, whole]
    simp

/-- A part in front has the last say on the keys that no part behind it gives a value. -/
theorem givesLast_cons_iff {part : List Char} {later : List (List Char)} {key value : String} :
    GivesLast (part :: later) key value ↔
      GivesLast later key value ∨ Gives part key value ∧ ∀ other ∈ later, ∀ another, ¬ Gives other key another := by
  constructor
  · intro last
    cases last with
    | here gives last => exact .inr ⟨gives, last⟩
    | behind gives => exact .inl gives
  · rintro (behind | ⟨gives, last⟩)
    · exact .behind behind
    · exact .here gives last

/-- The last value is one that is given. -/
theorem GivesLast.exists_gives {parts : List (List Char)} {key value : String} (last : GivesLast parts key value) :
    ∃ part ∈ parts, Gives part key value := by
  -- The induction is on how far back the last part stands.
  induction last with
  | here gives _ => exact ⟨_, List.mem_cons_self, gives⟩
  | behind _ ih =>
    obtain ⟨part, member, gives⟩ := ih
    exact ⟨part, List.mem_cons_of_mem _ member, gives⟩

/-- Of the values that are given to a key there is a last one. -/
theorem exists_givesLast {parts : List (List Char)} {key : String}
    (given : ∃ part ∈ parts, ∃ value, Gives part key value) : ∃ value, GivesLast parts key value := by
  induction parts with
  | nil =>
    obtain ⟨part, member, -⟩ := given
    cases member
  | cons first later ih =>
    -- If no part behind gives the key a value, the first part has the last say.
    by_cases behind : ∃ part ∈ later, ∃ value, Gives part key value
    · obtain ⟨value, last⟩ := ih behind
      exact ⟨value, .behind last⟩
    · obtain ⟨part, member, value, gives⟩ := given
      rcases List.mem_cons.1 member with rfl | later
      · exact ⟨value, .here gives fun other member another again => behind ⟨other, member, another, again⟩⟩
      · exact absurd ⟨part, later, value, gives⟩ behind

/-- Parts that labels meet agree, since labels bind a key to one value. -/
theorem MeetsAll.agree {parts : List (List Char)} {labels : TextMap} (meets : MeetsAll parts labels) : Agree parts := by
  intro part member other listed key value another gives again
  exact Option.some.inj ((meets part member key value gives).symm.trans (meets other listed key another again))

/-- Where parts agree, it is enough to meet the last for each key. -/
theorem Agree.meetsAll_iff {parts : List (List Char)} (agree : Agree parts) (labels : TextMap) :
    MeetsAll parts labels ↔ ∀ key value, GivesLast parts key value → labels.get? key = some value := by
  constructor
  · intro all key value last
    obtain ⟨part, member, gives⟩ := last.exists_gives
    exact all part member key value gives
  · intro last part member key value gives
    -- The last value given to the key is the one that is given here.
    obtain ⟨final, settled⟩ := exists_givesLast ⟨part, member, value, gives⟩
    obtain ⟨other, listed, again⟩ := settled.exists_gives
    rw [agree part member other listed key value final gives again]
    exact last key final settled

/-- The terms that parts leave when they are trimmed and blank ones left out. -/
def termsOf (parts : List (List Char)) : List (List Char) := (parts.map trim).filter fun term => !term.isEmpty

/-- The terms of a text are read by leaving out its first part, if that is blank, or else by binding its label. -/
theorem readTerms_termsOf_cons {part : List Char} {later : List (List Char)} {labels result : TextMap}
    (read : readTerms labels (termsOf (part :: later)) = .ok result) :
    trim part = [] ∧ readTerms labels (termsOf later) = .ok result ∨
      ∃ key value, readTerm (trim part) = some (key, value) ∧
        readTerms (labels.insert (String.ofList key) (String.ofList value)) (termsOf later) = .ok result := by
  rw [termsOf, List.map_cons] at read
  by_cases blank : trim part = []
  · -- A blank term is left out before any is read.
    rw [List.filter_cons_of_neg (by simp [blank])] at read
    exact .inl ⟨blank, read⟩
  · rw [List.filter_cons_of_pos (by simp [blank]), readTerms] at read
    split at read
    · -- Any other term has a label, or else nothing would be read.
      rename_i key value label
      exact .inr ⟨key, value, label, read⟩
    · cases read

/-- Terms are bound so that each key has the last value given to it, or the one it had if none is given. -/
theorem get?_of_readTerms {parts : List (List Char)} {labels result : TextMap}
    (read : readTerms labels (termsOf parts) = .ok result) (key value : String) :
    result.get? key = some value ↔
      GivesLast parts key value ∨
        (∀ part ∈ parts, ∀ another, ¬ Gives part key another) ∧ labels.get? key = some value := by
  -- The induction is on the parts, from whatever has been bound so far.
  induction parts generalizing labels with
  | nil =>
    obtain rfl := Except.ok.inj read
    constructor
    · exact fun bound => .inr ⟨nofun, bound⟩
    · rintro (last | ⟨-, bound⟩)
      · cases last
      · exact bound
  | cons part later ih =>
    rw [givesLast_cons_iff, List.forall_mem_cons]
    rcases readTerms_termsOf_cons read with ⟨blank, rest⟩ | ⟨found, bound, label, rest⟩
    · -- A blank part gives nothing, so all is as it is for the parts behind.
      simpa [not_gives_of_trim_eq_nil blank] using ih rest
    · rw [ih rest, TextMap.get?_insert]
      simp only [gives_iff_of_readTerm label]
      -- A part behind goes before this one, which in turn goes before what was bound so far.
      by_cases same : String.ofList found = key
      · simp [same, and_comm]
      · simp [same]

/-- Each part of a text whose terms are read is blank or gives a key a value. -/
theorem forall_part_of_readTerms {parts : List (List Char)} {labels result : TextMap}
    (read : readTerms labels (termsOf parts) = .ok result) :
    ∀ part ∈ parts, trim part = [] ∨ ∃ key value, Gives part key value := by
  induction parts generalizing labels with
  | nil => exact nofun
  | cons part later ih =>
    rw [List.forall_mem_cons]
    rcases readTerms_termsOf_cons read with ⟨blank, rest⟩ | ⟨found, bound, label, rest⟩
    · exact ⟨.inl blank, ih rest⟩
    · exact ⟨.inr ⟨_, _, (gives_iff_of_readTerm label).2 ⟨rfl, rfl⟩⟩, ih rest⟩

/-- A selector that was read asks for the last value that is given to each key, and for nothing else. -/
theorem get?_labels_of_parse {text : String} {selector : Selector} (parsed : parse text = .ok selector)
    (key value : String) :
    selector.labels.get? key = some value ↔ GivesLast (splitAtMark ',' text.toList) key value := by
  -- Before the first term is read, nothing is bound.
  have unbound : (∅ : TextMap).get? key = none := rfl
  rw [get?_of_readTerms (parse_eq_ok_iff.1 parsed).1, unbound]
  simp

end Selector

open Selector

/--
A selector that was read matches the labels that bind every key to the last value given to it.

It means all of its terms exactly if no two of them give one key different values, and else it drops the earlier ones.
-/
theorem selector_means_last_terms {text : String} {selector : Selector} (parsed : Selector.parse text = .ok selector) :
    (∀ part ∈ splitAtMark ',' text.toList, trim part = [] ∨ ∃ key value, Gives part key value) ∧
    (∀ labels, selector.isMatch labels = true ↔
      ∀ key value, GivesLast (splitAtMark ',' text.toList) key value → labels.get? key = some value) ∧
    ((∀ labels, selector.isMatch labels = true ↔ MeetsAll (splitAtMark ',' text.toList) labels) ↔
      Agree (splitAtMark ',' text.toList)) := by
  have meaning (labels : TextMap) : selector.isMatch labels = true ↔
      ∀ key value, GivesLast (splitAtMark ',' text.toList) key value → labels.get? key = some value := by
    -- What is asked for is what was bound, key by key.
    rw [isMatch_iff]
    exact forall₂_congr fun key value => imp_congr_left (get?_labels_of_parse parsed key value)
  refine ⟨forall_part_of_readTerms (parse_eq_ok_iff.1 parsed).1, meaning, ?_, ?_⟩
  · -- The selector's own labels match, and so would meet all terms.
    intro all
    exact ((all selector.labels).1 (isMatch_iff.2 fun _ _ => id)).agree
  · intro agree labels
    rw [meaning, agree.meetsAll_iff]

/-- A key that is given the same value twice, in a text with blanks and a blank part, means all of its terms. -/
theorem selector_means_last_terms_repeated :
    ∃ selector, Selector.parse " tier = x,, app=rook,tier=x " = .ok selector ∧
      ∀ labels, selector.isMatch labels = true ↔
        MeetsAll (splitAtMark ',' " tier = x,, app=rook,tier=x ".toList) labels := by
  obtain ⟨selector, parsed⟩ : ∃ selector, Selector.parse " tier = x,, app=rook,tier=x " = .ok selector := ⟨_, rfl⟩
  refine ⟨selector, parsed, (selector_means_last_terms parsed).2.2.2 ?_⟩
  -- A map of both labels meets all terms.
  have found : ∀ part ∈ splitAtMark ',' " tier = x,, app=rook,tier=x ".toList, ∀ label ∈ given? part,
      (((∅ : TextMap).insert "tier" "x").insert "app" "rook").get? label.1 = some label.2 := by decide
  have meets : MeetsAll (splitAtMark ',' " tier = x,, app=rook,tier=x ".toList)
      (((∅ : TextMap).insert "tier" "x").insert "app" "rook") :=
    fun part member key value gives => found part member (key, value) (gives_iff.1 gives)
  exact meets.agree

/-- Of two values for a key only the later one is asked for, so labels without the earlier one match. -/
theorem selector_drops_clashing_term :
    Selector.parse "app=a,app=b" = .ok (.single "app" "b") ∧
    (Selector.single "app" "b").isMatch ((∅ : TextMap).insert "app" "b") = true ∧
    ¬ MeetsAll (splitAtMark ',' "app=a,app=b".toList) ((∅ : TextMap).insert "app" "b") := by
  refine ⟨rfl, by decide, fun meets => ?_⟩
  -- The labels would have to bind the key to the earlier value.
  have first := meets "app=a".toList (by decide) "app" "a" (gives_iff.2 (by decide))
  exact absurd first (by decide)

end StorageConfig
