import Mathlib.Algebra.Ring.Nat
import StorageConfig.Metrics
import StorageConfig.Proofs.Pass.Result
import StorageConfig.Proofs.TextMap

/-! What the metrics say after a number of passes: each counter is the number of passes, or pods, it stands for. -/

namespace StorageConfig

/-- One more element counts if it is one of those that are counted. -/
theorem countP_concat {α : Type} (counted : α → Bool) (list : List α) (last : α) :
    (list ++ [last]).countP counted = list.countP counted + (counted last).toNat := by
  rw [List.countP_append, List.countP_singleton]
  cases counted last <;> rfl

/-- Two changes of each position that can be made in either order can be made to a whole list in either order. -/
theorem zipWith_comm {α β : Type} {first second : α → β → β}
    (comm : ∀ a b, first a (second a b) = second a (first a b)) (marks : List α) (list : List β) :
    List.zipWith first marks (List.zipWith second marks list) =
      List.zipWith second marks (List.zipWith first marks list) := by
  -- The induction is on the marks, and each position is changed for itself.
  induction marks generalizing list with
  | nil => simp
  | cons mark marks ih =>
    cases list with
    | nil => simp
    | cons entry list => simp [comm, ih]

namespace Metrics

variable (metrics : Metrics) (seconds : Float) (result : PassResult)

/-- Counting a restart leaves the outcomes alone. -/
@[simp] theorem passes_recordRestart (report : RestartReport) :
    (metrics.recordRestart report).passes = metrics.passes := by
  unfold recordRestart
  split <;> rfl

/-- Counting a restart adds the pods that it terminated. -/
@[simp] theorem podsRestarted_recordRestart (report : RestartReport) :
    (metrics.recordRestart report).podsRestarted = metrics.podsRestarted + UInt64.ofNat report.terminated := by
  unfold recordRestart
  split <;> rfl

/-- Counting a restart counts one more that was cut short, if it was. -/
@[simp] theorem restartsAborted_recordRestart (report : RestartReport) :
    (metrics.recordRestart report).restartsAborted =
      metrics.restartsAborted + UInt64.ofNat report.aborted.toNat := by
  unfold recordRestart
  cases report.aborted with
  | false => exact (UInt64.add_zero metrics.restartsAborted).symm
  | true => rfl

/-- Counting a restart leaves the durations alone. -/
@[simp] theorem duration_recordRestart (report : RestartReport) :
    (metrics.recordRestart report).duration = metrics.duration := by
  unfold recordRestart
  split <;> rfl

/-- A pass is counted under its outcome, and its restart, if there is one, after it. -/
theorem recordPass_eq :
    metrics.recordPass seconds result =
      match PassResult.report? result with
      | some report => ((metrics.observe seconds).countPass (outcomeName result)).recordRestart report
      | none => (metrics.observe seconds).countPass (outcomeName result) := by
  -- Only a pass that restarted something has a report.
  rcases result with failure | ⟨values, changed, _ | report⟩ <;> rfl

/-- A pass is counted under its outcome, whether or not it restarted anything. -/
theorem passes_recordPass :
    (metrics.recordPass seconds result).passes =
      bindKey (outcomeName result) (metrics.passCount (outcomeName result) + 1) metrics.passes := by
  rw [recordPass_eq]
  split
  · rw [passes_recordRestart]
    rfl
  · rfl

/-- Counting a pass adds the pods that it terminated. -/
theorem podsRestarted_recordPass :
    (metrics.recordPass seconds result).podsRestarted =
      metrics.podsRestarted + UInt64.ofNat (PassResult.terminated result) := by
  rw [recordPass_eq, PassResult.terminated]
  -- Without a restart there is nothing to add.
  cases PassResult.report? result with
  | none => exact (UInt64.add_zero metrics.podsRestarted).symm
  | some report => exact podsRestarted_recordRestart _ report

/-- Counting a pass counts one more restart that was cut short, if that of the pass was. -/
theorem restartsAborted_recordPass :
    (metrics.recordPass seconds result).restartsAborted =
      metrics.restartsAborted + UInt64.ofNat (PassResult.wasAborted result).toNat := by
  rw [recordPass_eq, PassResult.wasAborted]
  -- What was not begun was not cut short either.
  cases PassResult.report? result with
  | none => exact (UInt64.add_zero metrics.restartsAborted).symm
  | some report => exact restartsAborted_recordRestart _ report

/-- Counting a pass takes note of one duration. -/
theorem duration_recordPass : (metrics.recordPass seconds result).duration = metrics.duration.observe seconds := by
  rw [recordPass_eq]
  split
  · rw [duration_recordRestart]
    rfl
  · rfl

/-- Counting a pass moves the counter of its outcome and no other. -/
theorem passCount_recordPass (outcome : String) :
    (metrics.recordPass seconds result).passCount outcome =
      metrics.passCount outcome + UInt64.ofNat (outcomeName result == outcome).toNat := by
  rw [passCount, passes_recordPass, find?_bindKey]
  -- Only the counter of the outcome of the pass is bound anew.
  by_cases same : outcomeName result = outcome
  · subst same
    rw [if_pos rfl, beq_self_eq_true]
    rfl
  · rw [if_neg same, beq_eq_false_iff_ne.2 same]
    exact (UInt64.add_zero _).symm

/-- Metrics that agree in every counter; sums of durations depend on the order in which they are added up. -/
structure SameCounts (left right : Metrics) : Prop where
  passes : left.passes = right.passes
  podsRestarted : left.podsRestarted = right.podsRestarted
  restartsAborted : left.restartsAborted = right.restartsAborted
  observed : left.duration.count = right.duration.count
  withinBounds : left.duration.withinBounds = right.duration.withinBounds

/-- Two passes can be counted in either order. -/
theorem sameCounts_recordPass_comm (metrics : Metrics) (seconds others : Float) (first second : PassResult) :
    SameCounts ((metrics.recordPass seconds first).recordPass others second)
      ((metrics.recordPass others second).recordPass seconds first) := by
  refine ⟨?passes, ?podsRestarted, ?restartsAborted, ?observed, ?withinBounds⟩
  case passes =>
    simp only [passes_recordPass, passCount_recordPass]
    by_cases same : outcomeName first = outcomeName second
    · -- The one counter of both moves twice.
      simp [same]
    · -- Neither pass moves the counter of the other one.
      have still (count : UInt64) : count + UInt64.ofNat false.toNat = count := UInt64.add_zero count
      rw [beq_eq_false_iff_ne.2 same, beq_eq_false_iff_ne.2 (Ne.symm same), still, still]
      exact bindKey_comm (Ne.symm same) _ _ _
  case podsRestarted =>
    simp only [podsRestarted_recordPass]
    ac_rfl
  case restartsAborted =>
    simp only [restartsAborted_recordPass]
    ac_rfl
  case observed => simp only [duration_recordPass, Histogram.observe]
  case withinBounds =>
    simp only [duration_recordPass, Histogram.observe]
    refine zipWith_comm (fun bound within => ?_) _ _
    split <;> split <;> rfl

/-- What the counters say of the passes that have been counted, in words of 64 bits. -/
structure Tallies (metrics : Metrics) (results : List PassResult) : Prop where
  passes : ∀ outcome, metrics.passCount outcome =
    UInt64.ofNat (results.countP fun result => outcomeName result == outcome)
  podsRestarted : metrics.podsRestarted = UInt64.ofNat (results.map PassResult.terminated).sum
  restartsAborted : metrics.restartsAborted = UInt64.ofNat (results.countP PassResult.wasAborted)
  observed : metrics.duration.count = UInt64.ofNat results.length

/-- Before the first pass nothing has been counted. -/
theorem tallies_empty : empty.Tallies [] := ⟨fun _ => rfl, rfl, rfl, rfl⟩

variable {metrics} {results : List PassResult}

/-- Counting one more pass keeps the counters up with the passes. -/
theorem Tallies.recordPass (tallies : metrics.Tallies results) (seconds : Float) (result : PassResult) :
    (metrics.recordPass seconds result).Tallies (results ++ [result]) := by
  refine ⟨fun outcome => ?passes, ?podsRestarted, ?restartsAborted, ?observed⟩
  case passes =>
    rw [passCount_recordPass, tallies.passes, countP_concat, UInt64.ofNat_add]
  case podsRestarted =>
    rw [podsRestarted_recordPass, tallies.podsRestarted, List.map_append, List.sum_append, UInt64.ofNat_add]
    simp
  case restartsAborted =>
    rw [restartsAborted_recordPass, tallies.restartsAborted, countP_concat, UInt64.ofNat_add]
  case observed =>
    rw [duration_recordPass, Histogram.observe, tallies.observed, List.length_append, UInt64.ofNat_add]
    rfl

/-- Every pass ends in one of three outcomes. -/
theorem countP_outcomes (results : List PassResult) :
    results.countP (fun result => outcomeName result == "changed") +
      results.countP (fun result => outcomeName result == "unchanged") +
      results.countP (fun result => outcomeName result == "error") = results.length := by
  induction results with
  | nil => rfl
  | cons result rest ih =>
    rw [List.length_cons, ← ih]
    -- The pass adds one to the count of its own outcome.
    rcases result with failure | ⟨values, _ | _, restart⟩ <;> simp +arith [outcomeName]

/-- A pass counts as a change exactly if it wrote. -/
theorem outcomeName_beq_changed (result : PassResult) : (outcomeName result == "changed") = result.wrote := by
  rcases result with failure | ⟨values, _ | _, restart⟩ <;> rfl

end Metrics

end StorageConfig
