import StorageConfig.Proofs.Api.Protocol
import StorageConfig.Proofs.Http.Form
import StorageConfig.Proofs.Http.Uri
import StorageConfig.Proofs.Selector
import StorageConfig.Proofs.Selector.Grammar

/-! A selector that was read is written as a text that is read as the same selector, on the way to a server too. -/

namespace StorageConfig

namespace Selector

/-- A selector asks for at least one label, each with a label key and a label value. -/
structure WellFormed (selector : Selector) : Prop where
  nonempty : ∃ key value, selector.labels.get? key = some value
  labels : ∀ key value, selector.labels.get? key = some value → LabelKey key.toList ∧ LabelValue value.toList

/-- A label as a term. -/
def termOf (label : String × String) : List Char := label.1.toList ++ '=' :: label.2.toList

/-- A selector is written as the terms of its labels with commas between them. -/
theorem toList_render (selector : Selector) :
    selector.render.toList = [','].intercalate (selector.labels.entries.map termOf) := by
  rw [render, String.toList_intercalate, List.map_map]
  congr 1
  apply List.map_congr_left
  intro label _
  simp [termOf]

section Label

variable {key value : String} (keyForm : LabelKey key.toList) (valueForm : LabelValue value.toList)
include keyForm valueForm

/-- A term is made of label letters and the equals sign. -/
theorem letters_termOf : ∀ c ∈ termOf (key, value), IsLabelChar c ∨ c = '=' := by
  intro c member
  simp only [termOf, List.mem_append, List.mem_cons] at member
  rcases member with front | rfl | back
  · exact .inl (keyForm.letters c front)
  · exact .inr rfl
  · exact .inl (valueForm.letters c back)

/-- A term has neither commas nor blanks, and is in ASCII. -/
theorem plain_termOf : ∀ c ∈ termOf (key, value), c ≠ ',' ∧ isBlank c = false ∧ IsAscii c := by
  intro c member
  rcases letters_termOf keyForm valueForm c member with letter | rfl
  · exact ⟨letter.ne_separator.1, letter.isBlank_eq_false, letter.isAscii⟩
  · refine ⟨by decide, by decide, ?_⟩
    unfold IsAscii
    decide

/-- A term is read as its label. -/
theorem readTerm_termOf : readTerm (termOf (key, value)) = some (key.toList, value.toList) := by
  -- The key has no equals sign, so the term is cut behind it.
  have unmarked : '=' ∉ key.toList := fun member => (keyForm.letters _ member).ne_separator.2 rfl
  have keyTrimmed := trim_of_forall fun c member => (keyForm.letters c member).isBlank_eq_false
  have valueTrimmed := trim_of_forall fun c member => (valueForm.letters c member).isBlank_eq_false
  simp [readTerm, termOf, cutAtFirst_append unmarked, keyTrimmed, valueTrimmed, isLabelKey_iff.2 keyForm,
    isLabelValue_iff.2 valueForm]

end Label

/-- The terms of labels are read as these labels, one after the other. -/
theorem readTerms_map_termOf {entries : List (String × String)}
    (form : ∀ entry ∈ entries, LabelKey entry.1.toList ∧ LabelValue entry.2.toList) (labels : TextMap) :
    readTerms labels (entries.map termOf) =
      .ok (entries.foldl (fun bound entry => bound.insert entry.1 entry.2) labels) := by
  -- The induction is on the labels to come, from whatever has been bound so far.
  induction entries generalizing labels with
  | nil => rfl
  | cons entry rest ih =>
    obtain ⟨keyForm, valueForm⟩ := form entry List.mem_cons_self
    rw [List.map_cons, readTerms, readTerm_termOf keyForm valueForm]
    simp only [String.ofList_toList, List.foldl_cons]
    exact ih (fun later member => form later (List.mem_cons_of_mem entry member)) _

/-- A term that is read gives a label key and a label value. -/
theorem labelForm_of_readTerm {term key value : List Char} (read : readTerm term = some (key, value)) :
    LabelKey key ∧ LabelValue value := by
  unfold readTerm at read
  obtain ⟨⟨front, back⟩, -, checked⟩ := Option.bind_eq_some_iff.1 read
  -- What is given has been checked as it stands, after the trimming.
  simp only [Option.ite_none_right_eq_some, Bool.and_eq_true, Option.some.injEq, Prod.mk.injEq] at checked
  obtain ⟨⟨keyForm, valueForm⟩, rfl, rfl⟩ := checked
  exact ⟨isLabelKey_iff.1 keyForm, isLabelValue_iff.1 valueForm⟩

/-- Whatever labels are read are bound by label keys to label values. -/
theorem forall_label_of_readTerms {terms : List (List Char)} {labels result : TextMap}
    (read : readTerms labels terms = .ok result)
    (form : ∀ entry ∈ labels.entries, LabelKey entry.1.toList ∧ LabelValue entry.2.toList) :
    ∀ entry ∈ result.entries, LabelKey entry.1.toList ∧ LabelValue entry.2.toList := by
  -- The induction is on the terms to read, and what has been bound so far is as it should be.
  induction terms generalizing labels with
  | nil =>
    obtain rfl := Except.ok.inj read
    exact form
  | cons term rest ih =>
    rw [readTerms] at read
    split at read
    · rename_i key value found
      refine ih read fun entry member => ?_
      rcases mem_bindKey member with rfl | earlier
      · simpa using labelForm_of_readTerm found
      · exact form entry earlier
    · cases read

/-- A selector that was read is well formed. -/
theorem wellFormed_of_parse {text : String} {selector : Selector} (parsed : parse text = .ok selector) :
    selector.WellFormed := by
  have form := forall_label_of_readTerms (parse_eq_ok_iff.1 parsed).1 (fun entry member => by cases member)
  exact ⟨exists_label_of_parse parsed, fun key value bound => form (key, value) (TextMap.get?_eq_some_iff.1 bound)⟩

namespace WellFormed

variable {selector : Selector} (wellFormed : selector.WellFormed)
include wellFormed

/-- Every binding is one of a label key to a label value. -/
theorem forall_label : ∀ entry ∈ selector.labels.entries, LabelKey entry.1.toList ∧ LabelValue entry.2.toList :=
  fun entry member => wellFormed.labels entry.1 entry.2 (TextMap.get?_eq_some_iff.2 member)

/-- There is a binding. -/
theorem entries_ne_nil : selector.labels.entries ≠ [] := by
  obtain ⟨key, value, bound⟩ := wellFormed.nonempty
  exact List.ne_nil_of_mem (TextMap.get?_eq_some_iff.1 bound)

/-- The letters of every term are plain. -/
theorem plain_terms {term : List Char} (member : term ∈ selector.labels.entries.map termOf) :
    ∀ c ∈ term, c ≠ ',' ∧ isBlank c = false ∧ IsAscii c := by
  obtain ⟨entry, listed, rfl⟩ := List.mem_map.1 member
  exact plain_termOf (wellFormed.forall_label entry listed).1 (wellFormed.forall_label entry listed).2

/-- The terms of the text are those of the labels. -/
theorem terms_render : terms selector.render.toList = selector.labels.entries.map termOf := by
  have parts : splitAtMark ',' selector.render.toList = selector.labels.entries.map termOf := by
    rw [toList_render]
    refine splitAtMark_intercalate (by simpa using wellFormed.entries_ne_nil) fun term member comma => ?_
    exact (wellFormed.plain_terms member ',' comma).1 rfl
  -- Trimming and leaving out blank terms makes no difference.
  have trimmed : (selector.labels.entries.map termOf).map trim = selector.labels.entries.map termOf := by
    refine (List.map_congr_left fun term member => ?_).trans (List.map_id _)
    exact trim_of_forall fun c inside => (wellFormed.plain_terms member c inside).2.1
  rw [terms, parts, trimmed, List.filter_eq_self]
  -- There is at least the equals sign in every term.
  intro term member
  obtain ⟨entry, -, rfl⟩ := List.mem_map.1 member
  simp [termOf]

/-- The text of a well-formed selector is read as that selector. -/
theorem parse_render : parse selector.render = .ok selector := by
  refine parse_eq_ok_iff.2 ⟨?_, ?_⟩
  · -- The labels are bound anew in the order in which they stood, which gives the same map.
    rw [wellFormed.terms_render, readTerms_map_termOf wellFormed.forall_label]
    exact congrArg Except.ok selector.labels.ofList_entries
  · simpa [TextMap.isEmpty] using wellFormed.entries_ne_nil

/-- The text of a well-formed selector is in ASCII. -/
theorem isAscii_render : ∀ c ∈ selector.render.toList, IsAscii c := by
  intro c member
  rw [toList_render] at member
  rcases mem_intercalate member with rfl | ⟨term, listed, inside⟩
  · unfold IsAscii
    decide
  · exact (wellFormed.plain_terms listed c inside).2.2

end WellFormed

end Selector

/-- The query by which pods are listed has the text of a well-formed selector under its name, and nothing else. -/
theorem Api.pairs_of_list {namespaceName : String} {selector : Selector} {target : Target}
    (wellFormed : selector.WellFormed) (closed : '?' ∉ namespaceName.toList) (shown : '#' ∉ namespaceName.toList)
    (parsed : Target.parse (podsPath namespaceName ++ "?&labelSelector=" ++ Form.encode selector.render) =
      .ok target) :
    ∃ query, target.query = some query ∧ Form.pairs query = [("labelSelector", selector.render)] := by
  have text : podsPath namespaceName ++ "?&labelSelector=" ++ Form.encode selector.render =
      podsPath namespaceName ++ "?" ++ ("&" ++ "labelSelector" ++ "=" ++ Form.encode selector.render) := by
    have mark : "?&labelSelector=" = "?" ++ ("&" ++ ("labelSelector" ++ "=")) := by decide
    rw [mark]
    simp only [String.append_assoc]
  -- Neither the path nor the query has a sign that would end it early.
  have path {mark : Char} (outside : mark ∉ "/api/v1/namespaces/".toList ∧ mark ∉ "/pods".toList)
      (absent : mark ∉ namespaceName.toList) : mark ∉ (podsPath namespaceName).toList :=
    Target.not_mem_append (Target.not_mem_append outside.1 absent) outside.2
  have query : '#' ∉ ("&" ++ "labelSelector" ++ "=" ++ Form.encode selector.render).toList := by
    have encoded : '#' ∉ (Form.encode selector.render).toList := fun member =>
      absurd (Form.isFormChar_encode selector.render '#' member) (by unfold Form.IsFormChar; decide)
    exact Target.not_mem_append (by decide +kernel) encoded
  rw [text] at parsed
  have written := Target.eq_of_parse (path (by decide) closed) (path (by decide) shown) query parsed
  have letters : "labelSelector".toList.all Char.isAlphanum = true := by decide
  have pairs := Form.pairs_of_pair (List.all_eq_true.1 letters) wellFormed.isAscii_render
  exact ⟨_, congrArg Target.query written, pairs⟩

/--
Text and value of a selector never drift apart.

A text is read as a well-formed selector, every well-formed selector is read from its text, and the text that a
server receives with a listing of pods is read as the selector that the pods are listed for.
-/
theorem selector_text_round_trip (selector : Selector) :
    ((∃ text, Selector.parse text = .ok selector) ↔ selector.WellFormed) ∧
    (selector.WellFormed → Selector.parse selector.render = .ok selector) ∧
    ∀ text, Selector.parse text = .ok selector →
      (Selector.parse selector.render).map Selector.render = .ok selector.render ∧
      ∀ namespaceName script, '?' ∉ namespaceName.toList → '#' ∉ namespaceName.toList →
        Api.Writable (Api.podsPath namespaceName ++ "?&labelSelector=" ++ Form.encode selector.render) →
        ∃ request query received,
          ((Api.list Script.transport namespaceName selector).run script).2.sent = script.sent ++ [request] ∧
          request.target.query = some query ∧ Form.pairs query = [("labelSelector", received)] ∧
          Selector.parse received = .ok selector := by
  refine ⟨⟨?_, fun wellFormed => ⟨_, wellFormed.parse_render⟩⟩, fun wellFormed => wellFormed.parse_render, ?_⟩
  · rintro ⟨text, parsed⟩
    exact Selector.wellFormed_of_parse parsed
  · intro text parsed
    have wellFormed := Selector.wellFormed_of_parse parsed
    refine ⟨by rw [wellFormed.parse_render]; rfl, fun namespaceName script closed shown writable => ?_⟩
    -- The listing sends one request, whose target is the one that was written down.
    obtain ⟨request, asks, sent, -⟩ := Api.run_list writable script
    obtain ⟨query, asked, pairs⟩ := Api.pairs_of_list wellFormed closed shown asks.target
    refine ⟨request, query, selector.render, ?_, asked, pairs, wellFormed.parse_render⟩
    exact congrArg Script.sent sent

/-- A selector with a prefixed key and an empty value. -/
def prefixedSelector : Selector :=
  ⟨(((∅ : TextMap).insert "zone" "").insert "tier" "x").insert "app.kubernetes.io/name" "rook"⟩

/-- Terms out of order, blanks, a repeated key and an empty value come back in order from what a server receives. -/
theorem selector_text_round_trip_prefixed :
    Selector.parse " tier = ,zone=, app.kubernetes.io/name =rook ,, tier=x" = .ok prefixedSelector ∧
    prefixedSelector.render = "app.kubernetes.io/name=rook,tier=x,zone=" ∧
    prefixedSelector.WellFormed ∧ Selector.parse prefixedSelector.render = .ok prefixedSelector ∧
    ∃ request query received,
      ((Api.list Script.transport "openshift-storage" prefixedSelector).run ⟨[], .lost "gone", []⟩).2.sent =
        [request] ∧
      request.target.query = some query ∧ Form.pairs query = [("labelSelector", received)] ∧
      Selector.parse received = .ok prefixedSelector := by
  have parsed : Selector.parse " tier = ,zone=, app.kubernetes.io/name =rook ,, tier=x" = .ok prefixedSelector := rfl
  obtain ⟨accepted, reads, sends⟩ := selector_text_round_trip prefixedSelector
  have wellFormed := accepted.1 ⟨_, parsed⟩
  obtain ⟨-, received⟩ := sends _ parsed
  exact ⟨parsed, by decide, wellFormed, reads wellFormed,
    received "openshift-storage" ⟨[], .lost "gone", []⟩ (by decide) (by decide) (by decide +kernel)⟩

end StorageConfig
