import StorageConfig.Memory.Pods
import StorageConfig.Restart

/-! Terminating pods in memory: how far the limit lets a restart go, and what is left of the registry then. -/

namespace StorageConfig

namespace MemoryPods

/-- The registry once the given pods have been terminated in turn. -/
def culled (pods : MemoryPods) (killed : List PodRef) : MemoryPods :=
  { pods with
    running := pods.running.filter fun entry => entry.1 ∉ killed
    terminated := pods.terminated ++ killed }

/-- Of the pods to terminate the first ones, as many as the limit still lets through. -/
def allowed (pods : MemoryPods) (wanted : List PodRef) : List PodRef :=
  match pods.limit with
  | none => wanted
  | some limit => wanted.take (limit - pods.terminated.length)

/-- The pods that a restart terminates: none where they cannot be listed. -/
def doomed (pods : MemoryPods) (namespaceName : String) (selector : Selector) : List PodRef :=
  if pods.failsList then [] else pods.allowed (pods.selected namespaceName selector)

/-- What a restart reports. -/
def restartReport (pods : MemoryPods) (namespaceName : String) (selector : Selector) : RestartReport :=
  if pods.failsList then ⟨0, 0, true⟩
  else
    { listed := (pods.selected namespaceName selector).length
      terminated := (pods.doomed namespaceName selector).length
      aborted := (pods.doomed namespaceName selector).length < (pods.selected namespaceName selector).length }

variable (pods : MemoryPods)

/-- Terminating nothing leaves the registry as it is. -/
@[simp] theorem culled_nil : pods.culled [] = pods := by
  have all : pods.running.filter (fun entry => entry.1 ∉ ([] : List PodRef)) = pods.running :=
    List.filter_eq_self.2 fun _ _ => by simp
  rw [culled, all, List.append_nil]

/-- Terminating in two goes is terminating in one. -/
theorem culled_append (first second : List PodRef) :
    pods.culled (first ++ second) = (pods.culled first).culled second := by
  simp only [culled, List.filter_filter, List.mem_append, not_or, List.append_assoc, Bool.decide_and]
  -- An entry is kept by both goes, in whatever order they are asked.
  congr 2
  funext entry
  exact Bool.and_comm _ _

/-- Terminating pods is terminating the first and then the others. -/
theorem culled_cons (pod : PodRef) (rest : List PodRef) :
    pods.culled (pod :: rest) = (pods.culled [pod]).culled rest :=
  pods.culled_append [pod] rest

/-- At the limit a pod cannot be terminated any more. -/
theorem terminate_of_exhausted (pod : PodRef) (exhausted : pods.isExhausted = true) :
    pods.terminate pod = (.error (.podRegistry ("delete " ++ pod.render ++ " refused")), pods) := by
  rw [terminate, if_pos exhausted]

/-- Below the limit a pod is terminated under whatever entries it has. -/
theorem terminate_of_not_exhausted (pod : PodRef) (free : pods.isExhausted = false) :
    pods.terminate pod = (.ok (), pods.culled [pod]) := by
  rw [terminate, if_neg (by simp [free])]
  simp only [culled, List.mem_singleton, bne, decide_not]
  rfl

/-- The limit lets the first pods through. -/
theorem allowed_prefix (wanted : List PodRef) : pods.allowed wanted <+: wanted := by
  unfold allowed
  split
  · exact List.prefix_rfl
  · exact List.take_prefix _ wanted

/-- Where nothing is to be terminated nothing is let through. -/
@[simp] theorem allowed_nil : pods.allowed [] = [] :=
  List.prefix_nil.1 (pods.allowed_prefix [])

/-- At the limit no pod is let through. -/
theorem allowed_of_exhausted (wanted : List PodRef) (exhausted : pods.isExhausted = true) :
    pods.allowed wanted = [] := by
  unfold isExhausted at exhausted
  cases limit : pods.limit with
  | none => simp [limit] at exhausted
  | some most =>
    have reached : most ≤ pods.terminated.length := by simpa [limit] using exhausted
    simp only [allowed, limit, Nat.sub_eq_zero_of_le reached, List.take_zero]

/-- Below the limit the first pod is let through, and those after it as the limit stands then. -/
theorem allowed_cons (pod : PodRef) (rest : List PodRef) (free : pods.isExhausted = false) :
    pods.allowed (pod :: rest) = pod :: (pods.culled [pod]).allowed rest := by
  unfold isExhausted at free
  cases limit : pods.limit with
  | none => simp only [allowed, culled, limit]
  | some most =>
    have room : pods.terminated.length < most := by simpa [limit] using free
    -- The pod itself takes up one of the terminations that are left.
    have left : most - pods.terminated.length = most - (pods.terminated.length + 1) + 1 := by omega
    simp only [allowed, culled, limit, List.length_append, List.length_singleton]
    rw [left, List.take_succ_cons]

/-- A restart terminates pods in the order in which they were listed, up to some point. -/
theorem doomed_prefix (namespaceName : String) (selector : Selector) :
    pods.doomed namespaceName selector <+: pods.selected namespaceName selector := by
  unfold doomed
  split
  · exact List.nil_prefix
  · exact pods.allowed_prefix _

/-- A restart reports as many terminations as it makes. -/
theorem terminated_restartReport (namespaceName : String) (selector : Selector) :
    (pods.restartReport namespaceName selector).terminated = (pods.doomed namespaceName selector).length := by
  -- Where the pods cannot be listed there are none of them.
  by_cases failing : pods.failsList = true <;> simp [restartReport, doomed, failing]

/-- A pod is selected under an entry that stands in the namespace and that the selector matches. -/
theorem mem_selected {namespaceName : String} {selector : Selector} {pod : PodRef} :
    pod ∈ pods.selected namespaceName selector ↔
      ∃ labels, (pod, labels) ∈ pods.running ∧ pod.namespaceName = namespaceName ∧
        selector.isMatch labels = true := by
  simp only [selected, List.mem_map, List.mem_filter, Bool.and_eq_true, beq_iff_eq, Prod.exists]
  constructor
  · rintro ⟨ref, labels, ⟨running, spot, matched⟩, rfl⟩
    exact ⟨labels, running, spot, matched⟩
  · rintro ⟨labels, running, spot, matched⟩
    exact ⟨pod, labels, ⟨running, spot, matched⟩, rfl⟩

/-- The entries of a namespace, in the order in which they were added. -/
def entriesIn (namespaceName : String) : List (PodRef × TextMap) :=
  pods.running.filter fun entry => entry.1.namespaceName == namespaceName

/-- An entry is one of a dependent: it stands in the namespace, and the selector matches it. -/
def isDependent (namespaceName : String) (selector : Selector) (entry : PodRef × TextMap) : Bool :=
  entry.1.namespaceName == namespaceName && selector.isMatch entry.2

/-- The entries of the dependents, in the order in which they were added. -/
def dependents (namespaceName : String) (selector : Selector) : List (PodRef × TextMap) :=
  pods.running.filter (isDependent namespaceName selector)

/-- What is selected is the pods of the dependents. -/
theorem selected_eq_map_dependents (namespaceName : String) (selector : Selector) :
    pods.selected namespaceName selector = (pods.dependents namespaceName selector).map (·.1) := rfl

/-- Dependents are found among the entries of their namespace. -/
theorem dependents_eq_filter_entriesIn (namespaceName : String) (selector : Selector) :
    pods.dependents namespaceName selector =
      (pods.entriesIn namespaceName).filter fun entry => selector.isMatch entry.2 := by
  -- Both conditions are asked of every entry, whichever comes first.
  rw [entriesIn, List.filter_filter, dependents]
  exact List.filter_congr fun entry _ => Bool.and_comm _ _

/-- Terminating pods of other namespaces leaves the entries of a namespace alone. -/
theorem entriesIn_culled_of_elsewhere {namespaceName : String} {killed : List PodRef}
    (elsewhere : ∀ pod ∈ killed, pod.namespaceName ≠ namespaceName) :
    (pods.culled killed).entriesIn namespaceName = pods.entriesIn namespaceName := by
  simp only [entriesIn, culled, List.filter_filter]
  -- An entry of the namespace is none of a pod that was terminated.
  refine List.filter_congr fun entry _ => ?_
  by_cases here : entry.1.namespaceName = namespaceName
  · have spared : entry.1 ∉ killed := fun member => elsewhere entry.1 member here
    simp [here, spared]
  · simp [here]

section Dependents

variable {namespaceName : String} {selector : Selector}

/-- Terminating pods leaves those dependents that are not among them, in their order. -/
theorem dependents_culled (killed : List PodRef) :
    (pods.culled killed).dependents namespaceName selector =
      (pods.dependents namespaceName selector).filter fun entry => entry.1 ∉ killed := by
  -- Both conditions are asked of every entry, whichever comes first.
  simp only [dependents, culled, List.filter_filter, Bool.and_comm]

/-- Terminating pods of other namespaces leaves the dependents alone. -/
theorem dependents_culled_of_elsewhere {killed : List PodRef}
    (elsewhere : ∀ pod ∈ killed, pod.namespaceName ≠ namespaceName) :
    (pods.culled killed).dependents namespaceName selector = pods.dependents namespaceName selector := by
  -- The dependents are found among the entries of the namespace, which are left alone.
  rw [dependents_eq_filter_entriesIn, entriesIn_culled_of_elsewhere pods elsewhere, ← dependents_eq_filter_entriesIn]

/-- A restart that was not cut short has terminated everything that was selected. -/
theorem doomed_of_not_aborted {pods : MemoryPods}
    (complete : (pods.restartReport namespaceName selector).aborted = false) :
    pods.doomed namespaceName selector = pods.selected namespaceName selector := by
  -- Pods are terminated from the first on, so that as many as were found are all of them.
  apply (pods.doomed_prefix namespaceName selector).eq_of_length_le
  by_cases failing : pods.failsList = true
  · simp [restartReport, failing] at complete
  · simpa [restartReport, failing] using complete

/-- A restart that was not cut short leaves no dependent. -/
theorem dependents_culled_of_not_aborted {pods : MemoryPods}
    (complete : (pods.restartReport namespaceName selector).aborted = false) :
    (pods.culled (pods.doomed namespaceName selector)).dependents namespaceName selector = [] := by
  rw [dependents_culled, doomed_of_not_aborted complete, List.filter_eq_nil_iff]
  intro entry member kept
  -- Every dependent is terminated under its own name.
  have selected : entry.1 ∈ pods.selected namespaceName selector := by
    rw [selected_eq_map_dependents]
    exact List.mem_map_of_mem member
  exact of_decide_eq_true kept selected

/-- A restart that was not cut short finds nothing to restart when it looks again. -/
theorem list_culled_of_not_aborted {pods : MemoryPods}
    (complete : (pods.restartReport namespaceName selector).aborted = false) :
    (pods.culled (pods.doomed namespaceName selector)).list namespaceName selector = .ok [] := by
  -- The pods could be listed, or else the restart would have been cut short there.
  have listable : pods.failsList = false := by
    by_cases failing : pods.failsList = true
    · simp [restartReport, failing] at complete
    · simpa using failing
  have none : (pods.culled (pods.doomed namespaceName selector)).selected namespaceName selector = [] := by
    rw [selected_eq_map_dependents, dependents_culled_of_not_aborted complete, List.map_nil]
  rw [list, none, culled, if_neg (by simp [listable])]

/-- Of the pods that a restart finds it terminates as many as the limit leaves. -/
theorem terminated_restartReport_of_limited {limit : Nat} (limited : pods.limit = some limit) :
    (pods.restartReport namespaceName selector).terminated =
      min (pods.restartReport namespaceName selector).listed (limit - pods.terminated.length) := by
  by_cases failing : pods.failsList = true
  · -- Where nothing was found there is nothing to terminate.
    simp [restartReport, failing]
  · simp only [restartReport, doomed, if_neg failing, allowed, limited, List.length_take]
    exact Nat.min_comm _ _

end Dependents

end MemoryPods

end StorageConfig
