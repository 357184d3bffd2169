import StorageConfig.Proofs.Memory.World

/-! How far a restart gets, whatever the registry answers, and what it leaves of a registry in memory. -/

namespace StorageConfig

/--
A restart terminates the pods that it lists from the first on, each once, until one of them is refused.

In memory it leaves none of them if it was not cut short, and of a limited number of terminations it makes all that are
left as long as there are pods.
-/
theorem restart_terminates_until_refused (namespaceName : String) (selector : Selector) :
    (∀ {σ : Type} (world : Collaborators σ) (state : σ), ∃ listing calls report after,
      RestartCourse world namespaceName selector state listing calls report after ∧
      report.terminated ≤ report.listed ∧ (report.aborted = false → report.terminated = report.listed)) ∧
    ∀ world : MemoryWorld, ∃ report after,
      (restartDependents MemoryWorld.collaborators namespaceName selector).run world = (.ok report, after) ∧
      (report.aborted = false →
        (MemoryWorld.collaborators.list namespaceName selector).run after = (.ok [], after)) ∧
      ∀ limit, world.pods.limit = some limit →
        report.terminated = min report.listed (limit - world.pods.terminated.length) := by
  constructor
  · intro σ world state
    obtain ⟨listing, calls, report, after, course⟩ := exists_restartCourse world namespaceName selector state
    exact ⟨listing, calls, report, after, course, course.terminated_le_listed, course.terminated_eq_listed⟩
  · intro world
    refine ⟨_, _, world.run_restartDependents namespaceName selector, fun complete => ?_, fun limit limited => ?_⟩
    · exact Prod.ext (MemoryPods.list_culled_of_not_aborted complete) rfl
    · exact world.pods.terminated_restartReport_of_limited limited

/-- A world in which three dependents run, two of them under one name, with a limit on terminations. -/
def dependentWorld (limit : Option Nat) : MemoryWorld :=
  let labels := (∅ : TextMap).insert "app" "rook-ceph-operator"
  let pods := ((MemoryPods.empty.add ⟨"openshift-storage", "x"⟩ labels).add ⟨"openshift-storage", "x"⟩ labels).add
    ⟨"openshift-storage", "y"⟩ labels
  { MemoryWorld.empty none with pods := { pods with limit } }

/-- Of three dependents a restart that may terminate two leaves the last, and one without a limit leaves none. -/
theorem restart_terminates_until_refused_crowded :
    (∃ report after, (restartDependents MemoryWorld.collaborators "openshift-storage" Settings.standard.dependents).run
        (dependentWorld (some 2)) = (.ok report, after) ∧
      report.listed = 3 ∧ report.terminated = 2 ∧ report.aborted = true) ∧
    ∃ report after, (restartDependents MemoryWorld.collaborators "openshift-storage" Settings.standard.dependents).run
        (dependentWorld none) = (.ok report, after) ∧ report.aborted = false ∧
      (MemoryWorld.collaborators.list "openshift-storage" Settings.standard.dependents).run after =
        (.ok [], after) := by
  have restart := (restart_terminates_until_refused "openshift-storage" Settings.standard.dependents).2
  refine ⟨?limited, ?free⟩
  case limited =>
    obtain ⟨report, after, run, -, limited⟩ := restart (dependentWorld (some 2))
    have reported : (⟨3, 2, true⟩ : RestartReport) = report := Except.ok.inj (congrArg Prod.fst run)
    have listed : report.listed = 3 := reported ▸ rfl
    refine ⟨report, after, run, listed, ?_, reported ▸ rfl⟩
    rw [limited 2 rfl, listed]
    rfl
  case free =>
    obtain ⟨report, after, run, empty, -⟩ := restart (dependentWorld none)
    have reported : (⟨3, 3, false⟩ : RestartReport) = report := Except.ok.inj (congrArg Prod.fst run)
    have complete : report.aborted = false := reported ▸ rfl
    exact ⟨report, after, run, complete, empty complete⟩

end StorageConfig
