import StorageConfig.Proofs.Action
import StorageConfig.Restart

/-!
How far a restart gets, whatever the registry of pods answers.

A restart is told by its calls: which pods it asked to be terminated, one after the other, and with what result.
-/

namespace StorageConfig

/-- A request to terminate a pod, with its result. -/
abbrev TerminateCall := PodRef × Except Failure Unit

/-- The call has gone through. -/
def TerminateCall.passed (call : TerminateCall) : Bool := call.2.isOk

/-- An action on one of two states leaves the other one alone. -/
def Action.beside {σ τ α : Type} (action : Action σ α) : Action (σ × τ) α :=
  ⟨fun (state, other) =>
    let (result, after) := action.run state
    (result, after, other)⟩

/-- The collaborators as they are, with a log of the terminations that are asked of them. -/
def Collaborators.logged {σ : Type} (world : Collaborators σ) : Collaborators (σ × List TerminateCall) :=
  { get := fun key => (world.get key).beside
    create := fun resource => (world.create resource).beside
    replace := fun resource => (world.replace resource).beside
    identity := fun singleton => (world.identity singleton).beside
    list := fun namespaceName selector => (world.list namespaceName selector).beside
    terminate := fun pod => ⟨fun (state, log) =>
      let (result, after) := (world.terminate pod).run state
      (result, after, log ++ [(pod, result)])⟩ }

/-- A termination is logged with its result. -/
theorem Collaborators.run_logged_terminate {σ : Type} (world : Collaborators σ) {pod : PodRef} {state middle : σ}
    {result : Except Failure Unit} (made : (world.terminate pod).run state = (result, middle))
    (log : List TerminateCall) :
    (world.logged.terminate pod).run (state, log) = (result, middle, log ++ [(pod, result)]) := by
  simp only [logged, made]

/-- A listing leaves the log alone. -/
theorem Collaborators.run_logged_list {σ : Type} (world : Collaborators σ) {namespaceName : String}
    {selector : Selector} {state middle : σ} {result : Except Failure (List PodRef)}
    (listed : (world.list namespaceName selector).run state = (result, middle)) (log : List TerminateCall) :
    (world.logged.list namespaceName selector).run (state, log) = (result, middle, log) := by
  simp only [logged, Action.beside, listed]

/-- Pods are called up in turn until a call fails. -/
inductive InTurn : List PodRef → List TerminateCall → Prop
  | nobody : InTurn [] []
  | refused (pod : PodRef) (pods : List PodRef) (failure : Failure) : InTurn (pod :: pods) [(pod, .error failure)]
  | next (pod : PodRef) {pods : List PodRef} {calls : List TerminateCall} (rest : InTurn pods calls) :
    InTurn (pod :: pods) ((pod, .ok ()) :: calls)

namespace InTurn

variable {pods : List PodRef} {calls : List TerminateCall}

/-- The pods are called up from the first on, in their order. -/
theorem map_fst_prefix (turn : InTurn pods calls) : calls.map Prod.fst <+: pods := by
  -- Whoever is behind a refused pod is not called up, so what is called up is a first part.
  induction turn with
  | nobody => exact List.prefix_rfl
  | refused pod pods failure => exact List.cons_prefix_cons.2 ⟨rfl, List.nil_prefix⟩
  | next pod _ ih => exact List.cons_prefix_cons.2 ⟨rfl, ih⟩

/-- Nobody is called up after a failure. -/
theorem eq_nil_of_failed (turn : InTurn pods calls) {early late : List TerminateCall} {pod : PodRef}
    {failure : Failure} (split : calls = early ++ (pod, .error failure) :: late) : late = [] := by
  -- The induction is on the calls, all of which went through in front of the failure.
  induction turn generalizing early with
  | nobody => simp at split
  | refused called pods cause =>
    cases early with
    | nil => exact (List.cons.inj split).2.symm
    | cons first early => simp at split
  | next called _ ih =>
    cases early with
    | nil => simp at split
    | cons first early => exact ih (List.cons.inj split).2

/-- If no call fails then everybody is called up. -/
theorem map_fst_eq_of_passed (turn : InTurn pods calls) (passed : ∀ call ∈ calls, call.passed = true) :
    calls.map Prod.fst = pods := by
  -- The only call that leaves pods out has failed.
  induction turn with
  | nobody => rfl
  | refused pod pods failure => cases passed _ List.mem_cons_self
  | next pod _ ih =>
    rw [List.map_cons, ih fun call member => passed call (List.mem_cons_of_mem _ member)]

/-- As many calls go through as stand in front of the first that fails. -/
theorem countP_passed (turn : InTurn pods calls) :
    calls.countP TerminateCall.passed = calls.findIdx fun call => !call.passed := by
  -- Both grow by one with every call that goes through, and stop at the first that does not.
  induction turn with
  | nobody => rfl
  | refused pod pods failure => rfl
  | next pod _ ih =>
    rw [List.countP_cons_of_pos rfl, ih, List.findIdx_cons]
    rfl

end InTurn

section Run

variable {σ : Type} {world : Collaborators σ} {pod : PodRef} {pods : List PodRef} {state middle after : σ}
  {failure : Failure} {count : Nat} {aborted : Bool}

/-- A termination that fails is the last one. -/
theorem run_terminateInTurn_of_error (made : (world.terminate pod).run state = (.error failure, middle)) :
    (terminateInTurn world (pod :: pods)).run state = (.ok (0, true), middle) := by
  rw [terminateInTurn, Action.run_bind_of_ok (Action.run_attempt_of_run made)]
  rfl

/-- A termination that goes through is counted, and followed by the others. -/
theorem run_terminateInTurn_of_ok (made : (world.terminate pod).run state = (.ok (), middle))
    (rest : (terminateInTurn world pods).run middle = (.ok (count, aborted), after)) :
    (terminateInTurn world (pod :: pods)).run state = (.ok (count + 1, aborted), after) := by
  rw [terminateInTurn, Action.run_bind_of_ok (Action.run_attempt_of_run made)]
  dsimp only
  rw [Action.run_bind_of_ok rest]
  rfl

variable {namespaceName : String} {selector : Selector}

/-- A restart that cannot list any pods is over. -/
theorem run_restartDependents_of_error
    (listed : (world.list namespaceName selector).run state = (.error failure, middle)) :
    (restartDependents world namespaceName selector).run state = (.ok ⟨0, 0, true⟩, middle) := by
  rw [restartDependents, Action.run_bind_of_ok (Action.run_attempt_of_run listed)]
  rfl

/-- A restart that can list pods terminates them in turn, and reports on it. -/
theorem run_restartDependents_of_ok (listed : (world.list namespaceName selector).run state = (.ok pods, middle))
    (made : (terminateInTurn world pods).run middle = (.ok (count, aborted), after)) :
    (restartDependents world namespaceName selector).run state = (.ok ⟨pods.length, count, aborted⟩, after) := by
  rw [restartDependents, Action.run_bind_of_ok (Action.run_attempt_of_run listed)]
  dsimp only
  rw [Action.run_bind_of_ok made]
  rfl

end Run

/-- Terminating pods in turn calls them up in turn, and counts the calls that go through. -/
theorem exists_calls_terminateInTurn {σ : Type} (world : Collaborators σ) (pods : List PodRef) (state : σ) :
    ∃ calls after, InTurn pods calls ∧
      (terminateInTurn world pods).run state =
        (.ok (calls.countP TerminateCall.passed, calls.any fun call => !call.passed), after) ∧
      ∀ log, (terminateInTurn world.logged pods).run (state, log) =
        (.ok (calls.countP TerminateCall.passed, calls.any fun call => !call.passed), after, log ++ calls) := by
  -- The induction is on the pods still to call up, from wherever the calls so far have left the world.
  induction pods generalizing state with
  | nil =>
    refine ⟨[], state, .nobody, rfl, fun log => ?_⟩
    rw [List.append_nil]
    rfl
  | cons pod pods ih =>
    rcases made : (world.terminate pod).run state with ⟨failure | _, middle⟩
    · -- The first failure is the last call.
      refine ⟨[(pod, .error failure)], middle, .refused pod pods failure, run_terminateInTurn_of_error made,
        fun log => run_terminateInTurn_of_error (world.run_logged_terminate made log)⟩
    · obtain ⟨calls, after, turn, run, logged⟩ := ih middle
      have counted : ((pod, .ok ()) :: calls : List TerminateCall).countP TerminateCall.passed =
          calls.countP TerminateCall.passed + 1 := List.countP_cons_of_pos rfl
      refine ⟨(pod, .ok ()) :: calls, after, .next pod turn, ?_, fun log => ?_⟩
      · rw [counted]
        exact run_terminateInTurn_of_ok made run
      · rw [counted, List.append_cons]
        exact run_terminateInTurn_of_ok (world.run_logged_terminate made log) (logged (log ++ [(pod, .ok ())]))

/-- The pods that a listing found: none where it failed. -/
def foundPods : Except Failure (List PodRef) → List PodRef
  | .ok pods => pods
  | .error _ => []

/-- How a restart goes: it lists the pods, calls them up, and reports on it. -/
structure RestartCourse {σ : Type} (world : Collaborators σ) (namespaceName : String) (selector : Selector) (state : σ)
    (listing : Except Failure (List PodRef)) (calls : List TerminateCall) (report : RestartReport) (after : σ) :
    Prop where
  ran : (restartDependents world namespaceName selector).run state = (.ok report, after)
  found : ((world.list namespaceName selector).run state).1 = listing
  /-- With a log kept of them these are the calls, and nothing else is different. -/
  logged : (restartDependents world.logged namespaceName selector).run (state, []) = (.ok report, after, calls)
  /-- The pods that were found are called up from the first on, each in its place. -/
  order : calls.map Prod.fst <+: foundPods listing
  stops : ∀ early pod failure late, calls = early ++ (pod, .error failure) :: late → late = []
  /-- It takes a failure to leave a pod out. -/
  whole : (∀ call ∈ calls, call.passed = true) → calls.map Prod.fst = foundPods listing
  listed : report.listed = (foundPods listing).length
  terminated : report.terminated = calls.countP TerminateCall.passed
  /-- The place of the first failure, or behind all calls if there is none. -/
  place : report.terminated = calls.findIdx fun call => !call.passed
  aborted : report.aborted = true ↔
    (∃ failure, listing = .error failure) ∨ ∃ call ∈ calls, ∃ failure, call.2 = .error failure

/-- A call has failed exactly if it did not go through. -/
theorem TerminateCall.passed_eq_false_iff {call : TerminateCall} :
    call.passed = false ↔ ∃ failure, call.2 = .error failure := by
  rw [passed]
  cases call.2 with
  | ok _ => simp [Except.isOk, Except.toBool]
  | error failure => simp [Except.isOk, Except.toBool]

namespace RestartCourse

variable {σ : Type} {world : Collaborators σ} {namespaceName : String} {selector : Selector} {state after : σ}
  {listing : Except Failure (List PodRef)} {calls : List TerminateCall} {report : RestartReport}

/-- No more pods are terminated than were found. -/
theorem terminated_le_listed
    (course : RestartCourse world namespaceName selector state listing calls report after) :
    report.terminated ≤ report.listed := by
  -- Of the calls not all need to go through, and of the pods not all need to be called up.
  rw [course.terminated, course.listed]
  calc calls.countP TerminateCall.passed
      ≤ calls.length := List.countP_le_length
    _ = (calls.map Prod.fst).length := (List.length_map Prod.fst).symm
    _ ≤ (foundPods listing).length := course.order.length_le

/-- All pods that were found are terminated, unless the restart was cut short. -/
theorem terminated_eq_listed
    (course : RestartCourse world namespaceName selector state listing calls report after)
    (complete : report.aborted = false) : report.terminated = report.listed := by
  -- A call that had failed would have cut the restart short.
  have passed : ∀ call ∈ calls, call.passed = true := by
    intro call member
    by_cases passed : call.passed = true
    · exact passed
    · have failed := TerminateCall.passed_eq_false_iff.1 (by simpa using passed)
      have cut := course.aborted.2 (.inr ⟨call, member, failed⟩)
      rw [complete] at cut
      cases cut
  rw [course.terminated, course.listed, ← course.whole passed, List.length_map]
  exact List.countP_eq_length.2 passed

end RestartCourse

/-- Every restart takes such a course, and does not fail. -/
theorem exists_restartCourse {σ : Type} (world : Collaborators σ) (namespaceName : String) (selector : Selector)
    (state : σ) :
    ∃ listing calls report after, RestartCourse world namespaceName selector state listing calls report after := by
  rcases listed : (world.list namespaceName selector).run state with ⟨failure | pods, middle⟩
  · -- Where nothing could be listed nobody is called up.
    exact ⟨.error failure, [], ⟨0, 0, true⟩, middle,
      { ran := run_restartDependents_of_error listed
        found := congrArg Prod.fst listed
        logged := run_restartDependents_of_error (world.run_logged_list listed [])
        order := List.prefix_rfl
        stops := by simp
        whole := fun _ => rfl
        listed := rfl
        terminated := rfl
        place := rfl
        aborted := ⟨fun _ => .inl ⟨failure, rfl⟩, fun _ => rfl⟩ }⟩
  · obtain ⟨calls, after, turn, run, logged⟩ := exists_calls_terminateInTurn world pods middle
    exact ⟨.ok pods, calls, _, after,
      { ran := run_restartDependents_of_ok listed run
        found := congrArg Prod.fst listed
        logged := run_restartDependents_of_ok (world.run_logged_list listed []) (logged [])
        order := turn.map_fst_prefix
        stops := fun _ _ _ _ => turn.eq_nil_of_failed
        whole := turn.map_fst_eq_of_passed
        listed := rfl
        terminated := rfl
        place := turn.countP_passed
        aborted := by simp [TerminateCall.passed_eq_false_iff] }⟩

end StorageConfig
