import Mathlib.Computability.Language
import Mathlib.Data.Char
import Mathlib.Order.ConditionallyCompleteLattice.Basic
import StorageConfig.Proofs.Selector.Grammar
import StorageConfig.Proofs.Selector.Terms

/-!
Which texts are read as selectors: those with a term, all of whose terms are words of one language.

The language is put together from character ranges by union, sequence and repetition, and its lengths are in bytes.
-/

open Computability

namespace StorageConfig

/-- The letters and digits of ASCII. -/
def asciiLetters : Set Char := Set.Icc 'A' 'Z' ∪ Set.Icc 'a' 'z' ∪ Set.Icc '0' '9'

/-- The lower-case letters and the digits of ASCII. -/
def dnsLetters : Set Char := Set.Icc 'a' 'z' ∪ Set.Icc '0' '9'

/-- The words of one character out of a set. -/
def oneOf (chars : Set Char) : Language Char := {word | ∃ c ∈ chars, word = [c]}

/-- The words that start and end with an edge letter, and have inner letters in between. -/
def framed (edge inner : Set Char) : Language Char := oneOf edge * (1 + (oneOf inner)∗ * oneOf edge)

/-- The texts of at most so many bytes. -/
def atMost (bytes : Nat) : Language Char := {text | (String.ofList text).utf8ByteSize ≤ bytes}

/-- The names of labels. -/
def labelNames : Language Char := atMost 63 ⊓ framed asciiLetters (asciiLetters ∪ {'-', '_', '.'})

/-- The parts of DNS names. -/
def dnsParts : Language Char := atMost 63 ⊓ framed dnsLetters (dnsLetters ∪ {'-'})

/-- The DNS names, with points between their parts. -/
def dnsNames : Language Char := atMost 253 ⊓ (dnsParts * (oneOf {'.'} * dnsParts)∗)

/-- The keys of labels, which may have a DNS name and a slash in front. -/
def labelKeys : Language Char := (1 + dnsNames * oneOf {'/'}) * labelNames

/-- The values of labels, which may be empty. -/
def labelValues : Language Char := 1 + labelNames

/-- The terms: a key before the first equals sign and a value behind it, each perhaps among blanks. -/
def labelTerms : Language Char :=
  {term | ∃ before after, term = before ++ '=' :: after ∧ '=' ∉ before ∧
    trim before ∈ labelKeys ∧ trim after ∈ labelValues}

/-- A character is in a range where its number is between those of the ends. -/
theorem mem_range_iff {first last c : Char} :
    c ∈ Set.Icc first last ↔ first.toNat ≤ c.toNat ∧ c.toNat ≤ last.toNat := by
  simp only [Set.mem_Icc, Char.le_def, UInt32.le_iff_toNat_le]
  rfl

/-- The ranges of letters and digits are those that the check for letters and digits knows. -/
theorem mem_asciiLetters_iff {c : Char} : c ∈ asciiLetters ↔ c.isAlphanum = true := by
  rw [isAlphanum_iff]
  simp only [asciiLetters, Set.mem_union, mem_range_iff, Char.reduceToNat]
  omega

/-- The ranges of small letters and digits are those that the check for DNS names knows. -/
theorem mem_dnsLetters_iff {c : Char} : c ∈ dnsLetters ↔ c.isLower = true ∨ c.isDigit = true := by
  have lower : c.isLower = true ↔ c ∈ Set.Icc 'a' 'z' := by
    have spelled : c.isLower = (decide (c.val ≥ 97) && decide (c.val ≤ 122)) := rfl
    simp only [spelled, Bool.and_eq_true, decide_eq_true_eq, ge_iff_le, mem_range_iff, UInt32.le_iff_toNat_le]
    rfl
  have digit : c.isDigit = true ↔ c ∈ Set.Icc '0' '9' := by
    simp only [Char.isDigit, Bool.and_eq_true, decide_eq_true_eq, ge_iff_le, mem_range_iff, UInt32.le_iff_toNat_le]
    rfl
  rw [lower, digit]
  rfl

/-- A text in ASCII has as many bytes as characters. -/
theorem utf8ByteSize_of_ascii {text : List Char} (ascii : ∀ c ∈ text, IsAscii c) :
    (String.ofList text).utf8ByteSize = text.length := by
  induction text with
  | nil => rfl
  | cons c rest ih =>
    have single : c.utf8Size = 1 := Char.utf8Size_eq_one_iff.2 (Nat.le_of_lt_succ (ascii c List.mem_cons_self))
    have others := ih fun later member => ascii later (List.mem_cons_of_mem c member)
    rw [String.ofList_cons, String.utf8ByteSize_append, String.utf8ByteSize_singleton, single, others,
      List.length_cons, Nat.add_comm]

/-- Repeating words of one character gives the texts of such characters. -/
theorem mem_kstar_oneOf_iff {chars : Set Char} {text : List Char} : text ∈ (oneOf chars)∗ ↔ ∀ c ∈ text, c ∈ chars := by
  rw [Language.mem_kstar]
  constructor
  · rintro ⟨words, rfl, each⟩ c member
    obtain ⟨word, listed, inside⟩ := List.mem_flatten.1 member
    obtain ⟨letter, allowed, rfl⟩ := each word listed
    exact List.mem_singleton.1 inside ▸ allowed
  · -- Each character is a word by itself.
    intro all
    have whole : text = (text.map fun c => [c]).flatten := by
      rw [← List.flatMap_def, List.flatMap_singleton']
    refine ⟨text.map fun c => [c], whole, fun word listed => ?_⟩
    obtain ⟨c, member, rfl⟩ := List.mem_map.1 listed
    exact ⟨c, all c member, rfl⟩

/-- The framed words are the words in the sense of the grammar. -/
theorem mem_framed_iff {edge inner : Set Char} {word : List Char} :
    word ∈ framed edge inner ↔ Word (· ∈ edge) (· ∈ inner) word := by
  simp only [framed, Language.mem_mul, Language.mem_add, Language.mem_one]
  constructor
  · rintro ⟨_, ⟨first, start, rfl⟩, rest, (rfl | ⟨middle, within, _, ⟨last, finish, rfl⟩, rfl⟩), rfl⟩
    · exact .single start
    · exact .framed start (mem_kstar_oneOf_iff.1 within) finish
  · intro form
    cases form with
    | @single c start => exact ⟨[c], ⟨c, start, rfl⟩, [], .inl rfl, rfl⟩
    | @framed first last middle start within finish =>
      exact ⟨[first], ⟨first, start, rfl⟩, middle ++ [last],
        .inr ⟨middle, mem_kstar_oneOf_iff.2 within, [last], ⟨last, finish, rfl⟩, rfl⟩, rfl⟩

/-- Framed words in ASCII are bounded by their number of characters. -/
theorem mem_atMost_inf_framed_iff {bytes : Nat} {edge inner : Set Char} (edges : ∀ c ∈ edge, IsAscii c)
    (inners : ∀ c ∈ inner, IsAscii c) {word : List Char} :
    word ∈ atMost bytes ⊓ framed edge inner ↔ word.length ≤ bytes ∧ Word (· ∈ edge) (· ∈ inner) word := by
  rw [← mem_framed_iff]
  refine and_congr_left fun form => ?_
  -- All of its characters are single bytes.
  have ascii := (mem_framed_iff.1 form).forall_mem IsAscii edges inners
  exact (utf8ByteSize_of_ascii ascii) ▸ Iff.rfl

/-- Words are made of the same letters where edge and inner letters are the same. -/
theorem Word.congr {edge inner edges inners : Char → Prop} (outside : ∀ c, edge c ↔ edges c)
    (inside : ∀ c, inner c ↔ inners c) {word : List Char} : Word edge inner word ↔ Word edges inners word := by
  rw [funext fun c => propext (outside c), funext fun c => propext (inside c)]

/-- The names of labels are those of the grammar. -/
theorem mem_labelNames_iff {name : List Char} : name ∈ labelNames ↔ LabelName name := by
  have edges : ∀ c ∈ asciiLetters, IsAscii c := fun c letter => isAscii_of_isAlphanum (mem_asciiLetters_iff.1 letter)
  have inners : ∀ c ∈ asciiLetters ∪ {'-', '_', '.'}, IsAscii c := by
    rintro c (letter | mark)
    · exact edges c letter
    · have listed : c ∈ ['-', '_', '.'] := by simpa using mark
      exact isAscii_of_marks (by simp) (.inr listed)
  rw [labelNames, mem_atMost_inf_framed_iff edges inners]
  refine and_congr_right fun _ => Word.congr (fun c => mem_asciiLetters_iff) fun c => ?_
  simp only [Set.mem_union, mem_asciiLetters_iff, Set.mem_insert_iff, Set.mem_singleton_iff, List.mem_cons,
    List.not_mem_nil, or_false]

/-- The parts of DNS names are those of the grammar. -/
theorem mem_dnsParts_iff {part : List Char} : part ∈ dnsParts ↔ DnsPart part := by
  have edges : ∀ c ∈ dnsLetters, IsAscii c := by
    intro c letter
    refine isAscii_of_isAlphanum (mem_asciiLetters_iff.1 ?_)
    exact letter.imp .inr id
  have inners : ∀ c ∈ dnsLetters ∪ {'-'}, IsAscii c := by
    rintro c (letter | mark)
    · exact edges c letter
    · have listed : c ∈ ['-'] := by simpa using mark
      exact isAscii_of_marks (by simp) (.inr listed)
  rw [dnsParts, mem_atMost_inf_framed_iff edges inners]
  refine and_congr_right fun _ => Word.congr (fun c => mem_dnsLetters_iff) fun c => ?_
  simp only [Set.mem_union, mem_dnsLetters_iff, Set.mem_singleton_iff, or_assoc]

/-- Texts joined by a mark are the first of them and then each other one behind a mark. -/
theorem intercalate_cons (mark : Char) (first : List Char) (others : List (List Char)) :
    [mark].intercalate (first :: others) = first ++ others.flatMap (mark :: ·) := by
  induction others generalizing first with
  | nil => simp
  | cons next others ih => rw [List.intercalate_cons_cons, ih, List.flatMap_cons]; simp

/-- A word, and others each behind a mark, are words joined by the mark. -/
theorem mem_joined_iff {mark : Char} {words : Language Char} {text : List Char} :
    text ∈ words * (oneOf {mark} * words)∗ ↔
      ∃ parts, parts ≠ [] ∧ text = [mark].intercalate parts ∧ ∀ part ∈ parts, part ∈ words := by
  -- Each of the repeated texts is a word behind the mark, and the words follow one another.
  have repeated (pieces : List (List Char)) (each : ∀ piece ∈ pieces, piece ∈ oneOf {mark} * words) :
      ∃ others : List (List Char), pieces.flatten = others.flatMap (mark :: ·) ∧ ∀ other ∈ others, other ∈ words := by
    induction pieces with
    | nil => exact ⟨[], rfl, nofun⟩
    | cons piece pieces ih =>
      rw [List.forall_mem_cons] at each
      obtain ⟨_, ⟨_, rfl, rfl⟩, word, member, rfl⟩ := Language.mem_mul.1 each.1
      obtain ⟨others, same, all⟩ := ih each.2
      exact ⟨word :: others, by rw [List.flatten_cons, same]; rfl, List.forall_mem_cons.2 ⟨member, all⟩⟩
  constructor
  · intro joined
    obtain ⟨first, member, _, ⟨pieces, rfl, each⟩, rfl⟩ := Language.mem_mul.1 joined
    obtain ⟨others, same, all⟩ := repeated pieces each
    exact ⟨first :: others, List.cons_ne_nil first others, by rw [intercalate_cons, same],
      List.forall_mem_cons.2 ⟨member, all⟩⟩
  · rintro ⟨parts, present, rfl, all⟩
    obtain ⟨first, others, rfl⟩ := List.exists_cons_of_ne_nil present
    rw [List.forall_mem_cons] at all
    rw [intercalate_cons]
    refine Language.append_mem_mul all.1 ⟨others.map (mark :: ·), List.flatMap_def, fun piece listed => ?_⟩
    obtain ⟨other, member, rfl⟩ := List.mem_map.1 listed
    exact Language.append_mem_mul (a := [mark]) ⟨mark, rfl, rfl⟩ (all.2 other member)

/-- The parts of DNS names are in ASCII. -/
theorem DnsPart.isAscii {part : List Char} (form : DnsPart part) : ∀ c ∈ part, IsAscii c := by
  -- A part is a DNS name by itself.
  have whole : DnsName part := ⟨Nat.le_trans form.1 (by decide), [part], by simp, by simp, by simpa using form⟩
  exact fun c member => isAscii_of_marks (by simp) (whole.letters c member)

/-- The DNS names are those of the grammar. -/
theorem mem_dnsNames_iff {name : List Char} : name ∈ dnsNames ↔ DnsName name := by
  have joined : name ∈ dnsParts * (oneOf {'.'} * dnsParts)∗ ↔
      ∃ parts, parts ≠ [] ∧ name = ['.'].intercalate parts ∧ ∀ part ∈ parts, DnsPart part := by
    simp only [mem_joined_iff, mem_dnsParts_iff]
  rw [DnsName, ← joined]
  refine and_congr_left fun form => ?_
  -- The letters of the parts and the points between them are single bytes.
  have ascii : ∀ c ∈ name, IsAscii c := by
    obtain ⟨parts, -, rfl, each⟩ := joined.1 form
    intro c member
    rcases mem_intercalate member with rfl | ⟨part, listed, inside⟩
    · unfold IsAscii
      decide
    · exact (each part listed).isAscii c inside
  exact (utf8ByteSize_of_ascii ascii) ▸ Iff.rfl

/-- The keys of labels are those of the grammar. -/
theorem mem_labelKeys_iff {key : List Char} : key ∈ labelKeys ↔ LabelKey key := by
  simp only [labelKeys, Language.mem_mul, Language.mem_add, Language.mem_one, mem_labelNames_iff, mem_dnsNames_iff]
  constructor
  · rintro ⟨_, (rfl | ⟨domain, former, _, ⟨_, rfl, rfl⟩, rfl⟩), name, form, rfl⟩
    · exact .inl form
    · exact .inr ⟨domain, name, List.append_assoc domain ['/'] name, former, form⟩
  · rintro (form | ⟨domain, name, rfl, former, form⟩)
    · exact ⟨[], .inl rfl, key, form, rfl⟩
    · exact ⟨domain ++ ['/'], .inr ⟨domain, former, ['/'], ⟨'/', rfl, rfl⟩, rfl⟩, name, form,
        List.append_assoc domain ['/'] name⟩

/-- The values of labels are those of the grammar. -/
theorem mem_labelValues_iff {value : List Char} : value ∈ labelValues ↔ LabelValue value := by
  simp only [labelValues, Language.mem_add, Language.mem_one, mem_labelNames_iff, LabelValue]

/-- A term that is cut at its first equals sign has a key before it and a value behind it. -/
theorem mem_labelTerms_iff_of_cut {term before after : List Char} (cut : cutAtFirst '=' term = some (before, after)) :
    term ∈ labelTerms ↔ trim before ∈ labelKeys ∧ trim after ∈ labelValues := by
  constructor
  · rintro ⟨front, back, rfl, unmarked, key, value⟩
    -- The cut goes where the term says, as no equals sign stands before it.
    obtain ⟨rfl, rfl⟩ := Prod.mk.inj (Option.some.inj ((cutAtFirst_append unmarked back).symm.trans cut))
    exact ⟨key, value⟩
  · rintro ⟨key, value⟩
    exact ⟨before, after, cutAtFirst_eq_some cut, not_mem_before_first cut, key, value⟩

/-- A term has one equals sign and no exclamation mark. -/
theorem count_of_mem_labelTerms {term : List Char} (member : term ∈ labelTerms) :
    term.count '=' = 1 ∧ '!' ∉ term := by
  obtain ⟨before, after, rfl, unmarked, key, value⟩ := member
  -- Neither sign is a letter of labels, and neither is a blank that could have been trimmed.
  have absent {text : List Char} {c : Char} (letters : ∀ letter ∈ trim text, IsLabelChar letter)
      (foreign : ¬ IsLabelChar c) (solid : isBlank c = false) : c ∉ text :=
    fun inside => foreign (letters c (mem_trim_of_solid inside solid))
  have keyLetters := (mem_labelKeys_iff.1 key).letters
  have valueLetters := (mem_labelValues_iff.1 value).letters
  have equals : ¬ IsLabelChar '=' := by unfold IsLabelChar; decide
  have exclamation : ¬ IsLabelChar '!' := by unfold IsLabelChar; decide
  constructor
  · rw [List.count_append, List.count_cons_self, List.count_eq_zero.2 unmarked,
      List.count_eq_zero.2 (absent valueLetters equals (by decide))]
  · have former := absent keyLetters exclamation (by decide)
    have latter := absent valueLetters exclamation (by decide)
    simp [former, latter]

namespace Selector

/-- A part of a text is blank, or what is left of it after trimming is a term. -/
def Fits (part : List Char) : Prop := trim part = [] ∨ trim part ∈ labelTerms

/-- A term is read as a label exactly if it is one of the language. -/
theorem exists_readTerm_iff {term : List Char} : (∃ label, readTerm term = some label) ↔ term ∈ labelTerms := by
  unfold readTerm
  cases cut : cutAtFirst '=' term with
  | none =>
    -- Without an equals sign it is neither.
    have unmarked := cutAtFirst_eq_none_iff.1 cut
    refine ⟨nofun, ?_⟩
    rintro ⟨before, after, rfl, -⟩
    exact absurd (by simp) unmarked
  | some sides =>
    obtain ⟨before, after⟩ := sides
    rw [mem_labelTerms_iff_of_cut cut, mem_labelKeys_iff, mem_labelValues_iff, ← isLabelKey_iff, ← isLabelValue_iff]
    simp

/-- A blank part leaves no term. -/
theorem termsOf_cons_of_blank {part : List Char} (blank : trim part = []) (later : List (List Char)) :
    termsOf (part :: later) = termsOf later := by
  rw [termsOf, List.map_cons, List.filter_cons_of_neg (by simp [blank]), termsOf]

/-- Any other part leaves itself, trimmed. -/
theorem termsOf_cons_of_ne {part : List Char} (solid : trim part ≠ []) (later : List (List Char)) :
    termsOf (part :: later) = trim part :: termsOf later := by
  rw [termsOf, List.map_cons, List.filter_cons_of_pos (by simp [solid]), termsOf]

/-- Behind a part that fits the reading goes on, with more labels or the same. -/
theorem readTerms_cons_of_fits {part : List Char} (fits : Fits part) (later : List (List Char)) (labels : TextMap) :
    ∃ bound, readTerms labels (termsOf (part :: later)) = readTerms bound (termsOf later) ∧
      (bound.isEmpty = true ↔ trim part = [] ∧ labels.isEmpty = true) := by
  by_cases blank : trim part = []
  · exact ⟨labels, by rw [termsOf_cons_of_blank blank], by simp [blank]⟩
  · -- A term is bound, so that there is a label from then on.
    obtain ⟨⟨key, value⟩, read⟩ := exists_readTerm_iff.2 (fits.resolve_left blank)
    refine ⟨labels.insert (String.ofList key) (String.ofList value), ?_, ?_⟩
    · rw [termsOf_cons_of_ne blank, readTerms, read]
    · simp [blank]

/-- The reading ends at the first part that does not fit. -/
theorem readTerms_of_misfit {earlier later : List (List Char)} {part : List Char}
    (fits : ∀ other ∈ earlier, Fits other) (misfit : ¬ Fits part) (labels : TextMap) :
    readTerms labels (termsOf (earlier ++ part :: later)) = .error (trim part) := by
  -- The induction is on the parts in front, from whatever has been bound so far.
  induction earlier generalizing labels with
  | nil =>
    have solid : trim part ≠ [] := fun blank => misfit (.inl blank)
    have unread : readTerm (trim part) = none := by
      rw [Option.eq_none_iff_forall_ne_some]
      exact fun label read => misfit (.inr (exists_readTerm_iff.1 ⟨label, read⟩))
    rw [List.nil_append, termsOf_cons_of_ne solid, readTerms, unread]
  | cons first earlier ih =>
    rw [List.forall_mem_cons] at fits
    obtain ⟨bound, goesOn, -⟩ := readTerms_cons_of_fits fits.1 (earlier ++ part :: later) labels
    rw [List.cons_append, goesOn]
    exact ih fits.2 bound

/-- Parts that all fit are read, and give no label only if all are blank and there was none before. -/
theorem exists_readTerms_of_fits {parts : List (List Char)} (fits : ∀ part ∈ parts, Fits part) (labels : TextMap) :
    ∃ result, readTerms labels (termsOf parts) = .ok result ∧
      (result.isEmpty = true ↔ (∀ part ∈ parts, trim part = []) ∧ labels.isEmpty = true) := by
  induction parts generalizing labels with
  | nil => exact ⟨labels, rfl, by simp⟩
  | cons part parts ih =>
    rw [List.forall_mem_cons] at fits
    obtain ⟨bound, goesOn, unbound⟩ := readTerms_cons_of_fits fits.1 parts labels
    obtain ⟨result, read, empty⟩ := ih fits.2 bound
    refine ⟨result, goesOn.trans read, ?_⟩
    rw [empty, unbound, List.forall_mem_cons]
    exact ⟨fun ⟨rest, first, bare⟩ => ⟨⟨first, rest⟩, bare⟩, fun ⟨⟨first, rest⟩, bare⟩ => ⟨rest, first, bare⟩⟩

/-- Unless all parts fit there is a first one that does not. -/
theorem exists_first_misfit {parts : List (List Char)} (someMisfit : ¬ ∀ part ∈ parts, Fits part) :
    ∃ earlier part later, parts = earlier ++ part :: later ∧ (∀ other ∈ earlier, Fits other) ∧ ¬ Fits part := by
  induction parts with
  | nil => exact absurd nofun someMisfit
  | cons first parts ih =>
    by_cases fits : Fits first
    · obtain ⟨earlier, part, later, rfl, before, misfit⟩ :=
        ih fun all => someMisfit (List.forall_mem_cons.2 ⟨fits, all⟩)
      exact ⟨first :: earlier, part, later, rfl, List.forall_mem_cons.2 ⟨fits, before⟩, misfit⟩
    · exact ⟨[], first, parts, rfl, nofun, fits⟩

section Parse

variable {text : String}

/-- A text is refused for the first of its parts that does not fit. -/
theorem parse_of_misfit {earlier later : List (List Char)} {part : List Char}
    (parts : splitAtMark ',' text.toList = earlier ++ part :: later) (fits : ∀ other ∈ earlier, Fits other)
    (misfit : ¬ Fits part) : parse text = .error (.selectorParse (String.ofList (trim part))) := by
  have read : readTerms ∅ (terms text.toList) = .error (trim part) := by
    rw [← readTerms_of_misfit fits misfit ∅, ← parts]
    rfl
  rw [parse, Selector.read, read]
  rfl

/-- A text whose parts all fit is read, or refused as it stands if they are all blank. -/
theorem parse_of_fits (fits : ∀ part ∈ splitAtMark ',' text.toList, Fits part) :
    (∃ part ∈ splitAtMark ',' text.toList, trim part ≠ []) ∧ (∃ selector, parse text = .ok selector) ∨
      (∀ part ∈ splitAtMark ',' text.toList, trim part = []) ∧ parse text = .error (.selectorParse text) := by
  obtain ⟨result, read, empty⟩ := exists_readTerms_of_fits fits ∅
  have whole : readTerms ∅ (terms text.toList) = .ok result := read
  rw [parse, Selector.read, whole]
  dsimp only
  by_cases blank : ∀ part ∈ splitAtMark ',' text.toList, trim part = []
  · rw [if_pos (empty.2 ⟨blank, rfl⟩)]
    exact .inr ⟨blank, rfl⟩
  · rw [if_neg fun bare => blank (empty.1 bare).1]
    exact .inl ⟨by simpa using blank, _, rfl⟩

/-- A text is read exactly if it has a part that is not blank and all of its parts fit. -/
theorem exists_parse_iff : (∃ selector, parse text = .ok selector) ↔
    (∃ part ∈ splitAtMark ',' text.toList, trim part ≠ []) ∧ ∀ part ∈ splitAtMark ',' text.toList, Fits part := by
  constructor
  · rintro ⟨selector, parsed⟩
    by_cases fits : ∀ part ∈ splitAtMark ',' text.toList, Fits part
    · rcases parse_of_fits fits with ⟨solid, -⟩ | ⟨-, refused⟩
      · exact ⟨solid, fits⟩
      · cases parsed.symm.trans refused
    · obtain ⟨earlier, part, later, parts, before, misfit⟩ := exists_first_misfit fits
      cases parsed.symm.trans (parse_of_misfit parts before misfit)
  · rintro ⟨⟨part, member, solid⟩, fits⟩
    rcases parse_of_fits fits with ⟨-, read⟩ | ⟨blank, -⟩
    · exact read
    · exact absurd (blank part member) solid

/-- A text is refused as it stands if all of its parts are blank, and else for the first that does not fit. -/
theorem parse_eq_error_iff {failure : Failure} : parse text = .error failure ↔
    (∀ part ∈ splitAtMark ',' text.toList, trim part = []) ∧ failure = .selectorParse text ∨
      ∃ earlier part later, splitAtMark ',' text.toList = earlier ++ part :: later ∧
        (∀ other ∈ earlier, Fits other) ∧ ¬ Fits part ∧ failure = .selectorParse (String.ofList (trim part)) := by
  constructor
  · intro refused
    by_cases fits : ∀ part ∈ splitAtMark ',' text.toList, Fits part
    · rcases parse_of_fits fits with ⟨-, selector, read⟩ | ⟨blank, whole⟩
      · cases read.symm.trans refused
      · exact .inl ⟨blank, Except.error.inj (refused.symm.trans whole)⟩
    · obtain ⟨earlier, part, later, parts, before, misfit⟩ := exists_first_misfit fits
      have first := refused.symm.trans (parse_of_misfit parts before misfit)
      exact .inr ⟨earlier, part, later, parts, before, misfit, Except.error.inj first⟩
  · rintro (⟨blank, rfl⟩ | ⟨earlier, part, later, parts, before, misfit, rfl⟩)
    · -- Blank parts all fit, but none of them is a term.
      rcases parse_of_fits fun part member => .inl (blank part member) with ⟨⟨part, member, solid⟩, -⟩ | ⟨-, whole⟩
      · exact absurd (blank part member) solid
      · exact whole
    · exact parse_of_misfit parts before misfit

end Parse

end Selector

open Selector

/--
A text is read as a selector exactly if it has a term and all of its terms are in the language.

Any other text is refused for the first term that is not, or as it stands if it has none. No term that doubles or
negates the equals sign is in the language, and none that lacks it.
-/
theorem selector_accepts_its_language (text : String) :
    ((∃ selector, Selector.parse text = .ok selector) ↔
      (∃ part ∈ splitAtMark ',' text.toList, trim part ≠ []) ∧
        ∀ part ∈ splitAtMark ',' text.toList, trim part ≠ [] → trim part ∈ labelTerms) ∧
    (∀ failure, Selector.parse text = .error failure ↔
      (∀ part ∈ splitAtMark ',' text.toList, trim part = []) ∧ failure = .selectorParse text ∨
      ∃ earlier part later, splitAtMark ',' text.toList = earlier ++ part :: later ∧
        (∀ other ∈ earlier, trim other ≠ [] → trim other ∈ labelTerms) ∧
        trim part ≠ [] ∧ trim part ∉ labelTerms ∧ failure = .selectorParse (String.ofList (trim part))) ∧
    ∀ part ∈ splitAtMark ',' text.toList, trim part ≠ [] →
      ['=', '='] <:+: trim part ∨ ['!', '='] <:+: trim part ∨ '=' ∉ trim part →
      ∀ selector, Selector.parse text ≠ .ok selector := by
  -- A part fits if it is a term unless it is blank.
  have fits_iff (part : List Char) : (trim part ≠ [] → trim part ∈ labelTerms) ↔ Fits part :=
    or_iff_not_imp_left.symm
  have misfit_iff (part : List Char) (failed : Prop) :
      trim part ≠ [] ∧ trim part ∉ labelTerms ∧ failed ↔ ¬ Fits part ∧ failed := by
    rw [Fits, not_or, and_assoc]
  simp only [fits_iff, misfit_iff]
  refine ⟨exists_parse_iff, fun failure => parse_eq_error_iff, fun part member solid foreign selector parsed => ?_⟩
  have term := ((exists_parse_iff.1 ⟨selector, parsed⟩).2 part member).resolve_left solid
  obtain ⟨once, plain⟩ := count_of_mem_labelTerms term
  rcases foreign with doubled | negated | missing
  · -- Two equals signs are more than one.
    have twice := doubled.sublist.count_le '='
    rw [once] at twice
    exact absurd twice (by decide)
  · exact plain (negated.subset (by simp))
  · rw [List.count_eq_zero.2 missing] at once
    cases once

/-- Blanks, a prefixed key and an empty value are in the language, while a capital in a prefix and `==` are not. -/
theorem selector_accepts_its_language_mixed :
    trim " app.kubernetes.io/name = rook ".toList ∈ labelTerms ∧ trim " tier=".toList ∈ labelTerms ∧
    (∃ part, trim part ∉ labelTerms ∧
      Selector.parse "tier = ,, Example.com/app=x ,=" = .error (.selectorParse (String.ofList (trim part)))) ∧
    Selector.parse " ,\t" = .error (.selectorParse " ,\t") ∧
    ∀ selector, Selector.parse "tier=x, app==rook " ≠ .ok selector := by
  obtain ⟨accepts, -, -⟩ := selector_accepts_its_language " app.kubernetes.io/name = rook ,, tier="
  obtain ⟨-, refuses, -⟩ := selector_accepts_its_language "tier = ,, Example.com/app=x ,="
  obtain ⟨-, blank, -⟩ := selector_accepts_its_language " ,\t"
  obtain ⟨-, -, operators⟩ := selector_accepts_its_language "tier=x, app==rook "
  have terms := (accepts.1 ⟨_, rfl⟩).2
  refine ⟨terms _ (by decide) (by decide), terms _ (by decide) (by decide), ?_, (blank _).2 (.inl ⟨by decide, rfl⟩), ?_⟩
  · have refused : Selector.parse "tier = ,, Example.com/app=x ,=" = .error (.selectorParse "Example.com/app=x") := rfl
    -- There is a term, so the text is refused for one that is not in the language.
    rcases (refuses _).1 refused with ⟨bare, -⟩ | ⟨-, part, -, -, -, -, foreign, same⟩
    · exact absurd bare (by decide)
    · exact ⟨part, foreign, same ▸ refused⟩
  · exact operators " app==rook ".toList (by decide) (by decide) (.inl (by decide))

end StorageConfig
