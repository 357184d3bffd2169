import StorageConfig.Proofs.TextMap
import StorageConfig.Selector

/-! What a selector matches, and what is known of one that was read from a text. -/

namespace StorageConfig

namespace Selector

/-- Labels match where they bind every key of the selector to its value. -/
theorem isMatch_iff {selector : Selector} {labels : TextMap} :
    selector.isMatch labels = true ↔
      ∀ key value, selector.labels.get? key = some value → labels.get? key = some value := by
  simp only [isMatch, List.all_eq_true, beq_iff_eq, Prod.forall, TextMap.get?_eq_some_iff]

/-- A selector is read where every term gives a label and there is at least one. -/
theorem read_eq_ok_iff {text : String} {selector : Selector} :
    read text = .ok selector ↔
      readTerms ∅ (terms text.toList) = .ok selector.labels ∧ selector.labels.isEmpty = false := by
  unfold read
  cases readTerms ∅ (terms text.toList) with
  | error term => simp
  | ok labels =>
    obtain ⟨wanted⟩ := selector
    dsimp only
    -- What remains is to look whether there is a label at all.
    cases bare : labels.isEmpty with
    | true =>
      simp only [if_true, reduceCtorEq, Except.ok.injEq, false_iff, not_and]
      rintro rfl
      simp [bare]
    | false =>
      simp only [Bool.false_eq_true, if_false, Except.ok.injEq, mk.injEq, iff_self_and]
      rintro rfl
      exact bare

/-- As one step of an operation a selector is read where it is read at all. -/
theorem parse_eq_ok_iff {text : String} {selector : Selector} :
    parse text = .ok selector ↔
      readTerms ∅ (terms text.toList) = .ok selector.labels ∧ selector.labels.isEmpty = false := by
  rw [← read_eq_ok_iff, parse]
  -- Only the fault is put in other words.
  cases read text with
  | error fault => exact ⟨nofun, nofun⟩
  | ok found =>
    exact ⟨fun same => congrArg Except.ok (Except.ok.inj same), fun same => congrArg Except.ok (Except.ok.inj same)⟩

/-- A selector that was read asks for at least one label. -/
theorem exists_label_of_parse {text : String} {selector : Selector} (parsed : parse text = .ok selector) :
    ∃ key value, selector.labels.get? key = some value := by
  have some_label := (parse_eq_ok_iff.1 parsed).2
  unfold TextMap.isEmpty at some_label
  obtain ⟨⟨key, value⟩, rest, bindings⟩ := List.exists_cons_of_ne_nil
    (List.isEmpty_eq_false_iff.1 some_label)
  exact ⟨key, value, TextMap.get?_eq_some_iff.2 (by rw [bindings]; exact List.mem_cons_self)⟩

end Selector

end StorageConfig
