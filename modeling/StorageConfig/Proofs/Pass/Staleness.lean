import StorageConfig.Proofs.Pass.Dependents
import StorageConfig.Proofs.Pass.Result

/-! Which pods may run with settings that were written over: none, unless the pass that wrote last has reported it. -/

namespace StorageConfig

namespace Happening

/-- The entries that something which happens adds to the registry. -/
def arrivals : Happening → List (PodRef × TextMap)
  | others (.addPod pod labels) => [(pod, labels)]
  | _ => []

/-- Whether something which happens is a pass that writes a config map of a namespace. -/
def rewrites (settings : Settings) (namespaceName : String) (world : MemoryWorld) : Happening → Bool
  | pass cluster => (settings.targetOf cluster).namespaceName == namespaceName &&
    PassResult.wrote ((runPass MemoryWorld.collaborators settings cluster).run world).1
  | _ => false

/-- Whether any of a number of things which happen is such a pass. -/
def rewritesAny (settings : Settings) (namespaceName : String) (world : MemoryWorld) : List Happening → Bool
  | [] => false
  | happening :: rest => happening.rewrites settings namespaceName world ||
    rewritesAny settings namespaceName (happening.apply settings world) rest

variable {settings : Settings} {namespaceName : String}

/-- Without a pass that writes there, a namespace keeps its dependents, and those that come up join them. -/
theorem dependents_apply {happening : Happening} {world : MemoryWorld} (selector : Selector)
    (kept : happening.rewrites settings namespaceName world = false) :
    (happening.apply settings world).pods.dependents namespaceName selector =
      world.pods.dependents namespaceName selector ++
        happening.arrivals.filter (MemoryPods.isDependent namespaceName selector) := by
  cases happening with
  | others event =>
    -- Only a pod that comes up touches the registry, and it is registered last.
    cases event with
    | addPod pod labels => exact List.filter_append ..
    | _ => exact (List.append_nil _).symm
  | race resource => exact (List.append_nil _).symm
  | pass cluster =>
    refine Eq.trans ?_ (List.append_nil _).symm
    by_cases here : (settings.targetOf cluster).namespaceName = namespaceName
    · -- A pass for the namespace has written nothing, and so restarted nothing.
      have idle : PassResult.wrote ((runPass MemoryWorld.collaborators settings cluster).run world).1 = false := by
        simpa [rewrites, here] using kept
      rw [apply, (MemoryWorld.restart_runPass settings cluster world).2, idle]
      rfl
    · -- A pass for another namespace finds its dependents there.
      obtain ⟨killed, listed, pods⟩ := world.exists_culled_runPass settings cluster
      rw [apply, pods]
      refine MemoryPods.dependents_culled_of_elsewhere _ fun pod member => ?_
      obtain ⟨labels, -, spot, -⟩ := (MemoryPods.mem_selected _).1 (listed.subset member)
      exact spot ▸ here

/-- Without a pass that writes there, a namespace keeps its dependents throughout, and those that come up join them. -/
theorem dependents_run {happenings : List Happening} {world : MemoryWorld} (selector : Selector)
    (kept : rewritesAny settings namespaceName world happenings = false) :
    (run settings happenings world).pods.dependents namespaceName selector =
      world.pods.dependents namespaceName selector ++
        (happenings.flatMap arrivals).filter (MemoryPods.isDependent namespaceName selector) := by
  -- The induction is on what happens, and whoever comes up later is registered behind.
  induction happenings generalizing world with
  | nil => exact (List.append_nil _).symm
  | cons happening rest ih =>
    rw [rewritesAny, Bool.or_eq_false_iff] at kept
    rw [List.flatMap_cons, List.filter_append, ← List.append_assoc, ← dependents_apply selector kept.1]
    exact ih kept.2

end Happening

/-- How the dependents of a namespace stand to the pass that was the last to write there. -/
structure LastRestart (report : RestartReport) (before now arrived : List (PodRef × TextMap)) : Prop where
  /-- Whoever is registered now has come up since, or was there before and is still left. -/
  exists_left : ∃ left, left.Sublist before ∧ now = left ++ arrived ∧
    (left ≠ [] → report.isIncomplete = true)
  /-- If the restart was not cut short then nobody is left from before. -/
  complete : report.aborted = false → now = arrived

/--
Without a report of it no pod is left that came up before the settings of its namespace were written last.

The pass that wrote last decides, whatever came before it and however many passes came after it without writing.
-/
theorem stale_dependents_are_reported {settings : Settings} {start after : MemoryWorld} {cluster : StorageCluster}
    {outcome : PassOutcome} (earlier later : List Happening)
    (ran : (runPass MemoryWorld.collaborators settings cluster).run (Happening.run settings earlier start) =
      (.ok outcome, after))
    (changed : outcome.changed = true)
    (last : Happening.rewritesAny settings (settings.targetOf cluster).namespaceName after later = false) :
    ∃ report, outcome.restart = some report ∧ LastRestart report
      ((Happening.run settings earlier start).pods.dependents (settings.targetOf cluster).namespaceName
        settings.dependents)
      ((Happening.run settings (earlier ++ .pass cluster :: later) start).pods.dependents
        (settings.targetOf cluster).namespaceName settings.dependents)
      ((later.flatMap Happening.arrivals).filter
        (MemoryPods.isDependent (settings.targetOf cluster).namespaceName settings.dependents)) := by
  obtain ⟨restart, pods⟩ := MemoryWorld.runPass_ok_pods ran
  rw [if_pos changed] at restart pods
  -- What comes after the pass starts from the registry that its restart has left.
  have split : Happening.run settings (earlier ++ .pass cluster :: later) start =
      Happening.run settings later after := by
    rw [Happening.run, List.foldl_append, List.foldl_cons]
    exact congrArg (Happening.run settings later) (congrArg Prod.snd ran)
  rw [split, Happening.dependents_run settings.dependents last, pods]
  refine ⟨_, restart, ⟨⟨_, ?_, rfl, fun left => ?_⟩, fun complete => ?_⟩⟩
  · rw [MemoryPods.dependents_culled]
    exact List.filter_sublist
  · -- A pod that is left shows that the restart was cut short.
    by_cases aborted : (MemoryPods.restartReport (Happening.run settings earlier start).pods
        (settings.targetOf cluster).namespaceName settings.dependents).aborted = true
    · simp [RestartReport.isIncomplete, aborted]
    · exact absurd (MemoryPods.dependents_culled_of_not_aborted (by simpa using aborted)) left
  · rw [MemoryPods.dependents_culled_of_not_aborted complete, List.nil_append]

/-- A cluster with the given failure domain. -/
def domainCluster (domain : String) : StorageCluster :=
  { metadata := { name := some "a", uid := some "1" }, status := some { failureDomain := some domain } }

/-- A pod of the given name comes up that depends on the settings. -/
def dependentUp (name : String) : Happening :=
  .others (.addPod ⟨"openshift-storage", name⟩ ((∅ : TextMap).insert "app" "rook-ceph-operator"))

/-- Two dependents come up, of which no more than one can be terminated. -/
def hamperedStart : List Happening := [dependentUp "x", dependentUp "y", .others (.limitTerminations (some 1))]

/-- The limit is lifted, a pass finds nothing to do, and the terminated pod is back. -/
def idleSequel : List Happening :=
  [.others (.limitTerminations none), .pass (domainCluster "rack"), dependentUp "x"]

/-- The pod that a hampered restart leaves is reported, and gone once the settings are written again. -/
theorem stale_dependents_are_reported_hampered :
    (∃ outcome after report,
      (runPass MemoryWorld.collaborators .standard (domainCluster "rack")).run
        (Happening.run .standard hamperedStart (.empty none)) = (.ok outcome, after) ∧ outcome.changed = true ∧
      Happening.rewritesAny .standard "openshift-storage" after idleSequel = false ∧
      outcome.restart = some report ∧ report.isIncomplete = true) ∧
    ∃ outcome after report,
      (runPass MemoryWorld.collaborators .standard (domainCluster "zone")).run
        (Happening.run .standard (hamperedStart ++ .pass (domainCluster "rack") :: idleSequel) (.empty none)) =
          (.ok outcome, after) ∧ outcome.changed = true ∧
      Happening.rewritesAny .standard "openshift-storage" after [dependentUp "z", .pass (domainCluster "zone")] =
        false ∧
      outcome.restart = some report ∧ report.aborted = false ∧
      ((Happening.run .standard ((hamperedStart ++ .pass (domainCluster "rack") :: idleSequel) ++
          .pass (domainCluster "zone") :: [dependentUp "z", .pass (domainCluster "zone")])
        (.empty none)).pods.dependents "openshift-storage" Settings.standard.dependents).map (·.1.name) = ["z"] := by
  refine ⟨?left, ?renewed⟩
  case left =>
    obtain ⟨outcome, after, ran, changed, last⟩ : ∃ outcome after,
        (runPass MemoryWorld.collaborators .standard (domainCluster "rack")).run
          (Happening.run .standard hamperedStart (.empty none)) = (.ok outcome, after) ∧ outcome.changed = true ∧
        Happening.rewritesAny .standard "openshift-storage" after idleSequel = false := ⟨_, _, rfl, rfl, rfl⟩
    obtain ⟨report, restart, stands⟩ := stale_dependents_are_reported hamperedStart idleSequel ran changed last
    obtain ⟨left, -, now, incomplete⟩ := stands.exists_left
    refine ⟨outcome, after, report, ran, changed, last, restart, incomplete ?_⟩
    -- Of the two dependents in the end only one has come up since.
    rintro rfl
    exact absurd (congrArg List.length now) (by decide)
  case renewed =>
    obtain ⟨outcome, after, ran, changed, last, report, restart, complete⟩ : ∃ outcome after,
        (runPass MemoryWorld.collaborators .standard (domainCluster "zone")).run
          (Happening.run .standard (hamperedStart ++ .pass (domainCluster "rack") :: idleSequel) (.empty none)) =
            (.ok outcome, after) ∧ outcome.changed = true ∧
        Happening.rewritesAny .standard "openshift-storage" after
          [dependentUp "z", .pass (domainCluster "zone")] = false ∧
        ∃ report, outcome.restart = some report ∧ report.aborted = false := ⟨_, _, rfl, rfl, rfl, _, rfl, rfl⟩
    obtain ⟨same, known, stands⟩ := stale_dependents_are_reported _ _ ran changed last
    obtain rfl := Option.some.inj (known.symm.trans restart)
    refine ⟨outcome, after, same, ran, changed, last, restart, complete, ?_⟩
    exact congrArg (List.map (·.1.name)) (stands.complete complete)

end StorageConfig
