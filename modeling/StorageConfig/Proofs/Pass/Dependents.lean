import StorageConfig.Proofs.Memory.Event
import StorageConfig.Proofs.Pass.Atomicity
import StorageConfig.Proofs.Selector

/-! Which pods passes terminate: dependents in the namespace of their cluster, and no others. -/

namespace StorageConfig

namespace MemoryPods

/-- A pod is registered in a namespace under labels that carry everything that is selected for. -/
def Registers (pods : MemoryPods) (namespaceName : String) (selector : Selector) (pod : PodRef) : Prop :=
  ∃ labels, (pod, labels) ∈ pods.running ∧ pod.namespaceName = namespaceName ∧
    ∀ key value, selector.labels.get? key = some value → labels.get? key = some value

/-- The pods that are selected are those that are registered so. -/
theorem mem_selected_iff_registers {pods : MemoryPods} {namespaceName : String} {selector : Selector} {pod : PodRef} :
    pod ∈ pods.selected namespaceName selector ↔ pods.Registers namespaceName selector pod := by
  simp only [mem_selected, Registers, Selector.isMatch_iff]

/-- The entries of a pod, in the order in which they were added. -/
def entriesOf (pods : MemoryPods) (pod : PodRef) : List (PodRef × TextMap) :=
  pods.running.filter fun entry => entry.1 == pod

/-- Terminating other pods leaves the entries of a pod alone. -/
theorem entriesOf_culled_of_not_mem {killed : List PodRef} {pod : PodRef} (spared : pod ∉ killed)
    (pods : MemoryPods) : (pods.culled killed).entriesOf pod = pods.entriesOf pod := by
  simp only [entriesOf, culled, List.filter_filter]
  -- An entry of the pod is not one of a pod that was terminated.
  apply List.filter_congr
  intro entry _
  by_cases own : entry.1 = pod
  · simp [own, spared]
  · simp [own]

/-- What a restart does to the pods: it terminates some that are registered, and drops exactly their entries. -/
structure Culls (namespaceName : String) (selector : Selector) (before after : MemoryPods) (killed : List PodRef) :
    Prop where
  terminated : after.terminated = before.terminated ++ killed
  registered : ∀ pod ∈ killed, before.Registers namespaceName selector pod
  running : after.running = before.running.filter fun entry => entry.1 ∉ killed

/-- Terminating pods that are selected is what a restart does. -/
theorem culls_culled {namespaceName : String} {selector : Selector} {pods : MemoryPods} {killed : List PodRef}
    (selected : ∀ pod ∈ killed, pod ∈ pods.selected namespaceName selector) :
    Culls namespaceName selector pods (pods.culled killed) killed :=
  ⟨rfl, fun pod member => mem_selected_iff_registers.1 (selected pod member), rfl⟩

end MemoryPods

/-- One of the things that happen to a world in memory, one after the other. -/
inductive Happening where
  | pass (cluster : StorageCluster)
  /-- Others switch failures on or off, store something, or bring up a pod. -/
  | others (event : MemoryWorld.Event)
  /-- Someone gets ready to store something right after the next reading. -/
  | race (resource : ConfigMap)

namespace Happening

/-- The world after something has happened in it. -/
def apply (settings : Settings) (world : MemoryWorld) : Happening → MemoryWorld
  | pass cluster => ((runPass MemoryWorld.collaborators settings cluster).run world).2
  | others event => event.apply world
  | race resource => { world with queued := world.queued ++ [resource] }

/-- The world after a number of things have happened in it. -/
def run (settings : Settings) (happenings : List Happening) (world : MemoryWorld) : MemoryWorld :=
  happenings.foldl (apply settings) world

variable {settings : Settings}

/-- Only passes take pods from the registry. -/
theorem prefix_running_apply {happening : Happening} (outside : ∀ cluster, happening ≠ .pass cluster)
    (world : MemoryWorld) : world.pods.running <+: (happening.apply settings world).pods.running := by
  cases happening with
  | pass cluster => exact absurd rfl (outside cluster)
  | race resource => exact List.prefix_rfl
  | others event =>
    -- A pod that comes up is registered last, and the other events leave the registry alone.
    cases event with
    | addPod pod labels => exact List.prefix_append _ _
    | _ => exact List.prefix_rfl

end Happening

namespace MemoryWorld

/-- Whatever becomes of a pass, it terminates a number of selected pods, in the order in which they are listed. -/
theorem exists_culled_runPass (settings : Settings) (cluster : StorageCluster) (world : MemoryWorld) :
    ∃ killed, killed <+: world.pods.selected (settings.targetOf cluster).namespaceName settings.dependents ∧
      ((runPass collaborators settings cluster).run world).2.pods = world.pods.culled killed := by
  cases run : (runPass collaborators settings cluster).run world with
  | mk result after =>
    cases result with
    | error failure =>
      -- A pass that fails has not come to the pods.
      refine ⟨[], List.nil_prefix, ?_⟩
      rw [MemoryPods.culled_nil, runPass_error run, pods_found]
    | ok outcome =>
      -- One that goes through restarts only what depends on a change.
      obtain ⟨-, pods⟩ := runPass_ok_pods run
      cases changed : outcome.changed with
      | false => exact ⟨[], List.nil_prefix, by simpa [changed] using pods⟩
      | true =>
        exact ⟨_, world.pods.doomed_prefix _ settings.dependents, by simpa [changed] using pods⟩

end MemoryWorld

namespace Happening

/-- A pass on a world in memory culls the dependents of its cluster's namespace, as far as it gets. -/
theorem exists_culls_pass (settings : Settings) (cluster : StorageCluster) (world : MemoryWorld) :
    ∃ killed, MemoryPods.Culls (settings.targetOf cluster).namespaceName settings.dependents world.pods
      ((pass cluster).apply settings world).pods killed := by
  obtain ⟨killed, listed, pods⟩ := world.exists_culled_runPass settings cluster
  refine ⟨killed, ?_⟩
  rw [apply, pods]
  exact MemoryPods.culls_culled fun pod member => listed.subset member

/-- Whatever happens, a pod keeps its entries unless a pass finds it registered among its dependents. -/
theorem prefix_entriesOf_apply {settings : Settings} {happening : Happening} {world : MemoryWorld} {pod : PodRef}
    (unregistered : ∀ cluster, happening = .pass cluster →
      ¬ world.pods.Registers (settings.targetOf cluster).namespaceName settings.dependents pod) :
    world.pods.entriesOf pod <+: (happening.apply settings world).pods.entriesOf pod := by
  by_cases passes : ∃ cluster, happening = .pass cluster
  · obtain ⟨cluster, rfl⟩ := passes
    obtain ⟨killed, listed, pods⟩ := world.exists_culled_runPass settings cluster
    have spared : pod ∉ killed := fun member =>
      unregistered cluster rfl (MemoryPods.mem_selected_iff_registers.1 (listed.subset member))
    -- Culling others takes none of the entries of the pod.
    have same : ((pass cluster).apply settings world).pods.entriesOf pod = world.pods.entriesOf pod := by
      rw [apply, pods, MemoryPods.entriesOf_culled_of_not_mem spared]
    exact same ▸ List.prefix_rfl
  · exact (prefix_running_apply (fun cluster same => passes ⟨cluster, same⟩) world).filter _

/-- A pod keeps its entries throughout, unless some pass finds it registered among its dependents. -/
theorem prefix_entriesOf_run {settings : Settings} {happenings : List Happening} {world : MemoryWorld} {pod : PodRef}
    (unregistered : ∀ earlier cluster later, happenings = earlier ++ .pass cluster :: later →
      ¬ (run settings earlier world).pods.Registers (settings.targetOf cluster).namespaceName
        settings.dependents pod) :
    world.pods.entriesOf pod <+: (run settings happenings world).pods.entriesOf pod := by
  -- The induction is on what happens, and the first of it is looked at from where the world stands.
  induction happenings generalizing world with
  | nil => exact List.prefix_rfl
  | cons happening rest ih =>
    have first : world.pods.entriesOf pod <+: (happening.apply settings world).pods.entriesOf pod := by
      apply prefix_entriesOf_apply
      rintro cluster rfl
      exact unregistered [] cluster rest rfl
    refine first.trans (ih fun earlier cluster later split => ?_)
    exact unregistered (happening :: earlier) cluster later (by rw [split]; rfl)

end Happening

/--
Passes terminate only dependents that are registered in the namespace of their cluster at the time.

The registry loses the entries of those pods and no others, so that a pod which no pass finds registered there
keeps its entries for good.
-/
theorem passes_terminate_only_dependents {text : String} {settings : Settings}
    (parsed : Selector.parse text = .ok settings.dependents) (start : MemoryWorld) (happenings : List Happening) :
    (∃ key value, settings.dependents.labels.get? key = some value) ∧
    (∀ earlier cluster later, happenings = earlier ++ .pass cluster :: later →
      ∃ killed, MemoryPods.Culls (settings.targetOf cluster).namespaceName settings.dependents
        (Happening.run settings earlier start).pods
        (Happening.run settings (earlier ++ [.pass cluster]) start).pods killed) ∧
    ∀ pod, (∀ earlier cluster later, happenings = earlier ++ .pass cluster :: later →
        ¬ (Happening.run settings earlier start).pods.Registers (settings.targetOf cluster).namespaceName
          settings.dependents pod) →
      start.pods.entriesOf pod <+: (Happening.run settings happenings start).pods.entriesOf pod := by
  refine ⟨Selector.exists_label_of_parse parsed, ?culls, fun pod => Happening.prefix_entriesOf_run⟩
  case culls =>
    intro earlier cluster later _
    -- The pass is the last thing that has happened.
    have last : Happening.run settings (earlier ++ [.pass cluster]) start =
        (Happening.pass cluster).apply settings (Happening.run settings earlier start) := by
      simp only [Happening.run, List.foldl_append, List.foldl_cons, List.foldl_nil]
    rw [last]
    exact Happening.exists_culls_pass settings cluster _

/-- A pod registered under two sets of labels, of which the second is selected, and one of its name elsewhere. -/
def doubledWorld : MemoryWorld :=
  let labels := (∅ : TextMap).insert "app" "rook-ceph-operator"
  { MemoryWorld.empty none with
    pods := ((MemoryPods.empty.add ⟨"openshift-storage", "rook"⟩ ∅).add ⟨"elsewhere", "rook"⟩ labels).add
      ⟨"openshift-storage", "rook"⟩ (labels.insert "tier" "control") }

/-- A pass takes both entries of a pod by one termination, and leaves the pod of that name elsewhere alone. -/
theorem passes_terminate_only_dependents_doubled :
    Selector.parse " app = rook-ceph-operator ," = .ok Settings.standard.dependents ∧
    ∃ happenings, happenings = [.race (.fresh ⟨"other", "openshift-storage"⟩), .others (.limitTerminations (some 1)),
        .pass { metadata := { name := some "a", uid := some "1" } }] ∧
      (∃ killed, killed = [⟨"openshift-storage", "rook"⟩] ∧
        (Happening.run .standard happenings doubledWorld).pods.running =
          doubledWorld.pods.running.filter fun entry => entry.1 ∉ killed) ∧
      doubledWorld.pods.entriesOf ⟨"elsewhere", "rook"⟩ <+:
        (Happening.run .standard happenings doubledWorld).pods.entriesOf ⟨"elsewhere", "rook"⟩ := by
  have parsed : Selector.parse " app = rook-ceph-operator ," = .ok Settings.standard.dependents := rfl
  obtain ⟨happenings, given⟩ : ∃ happenings : List Happening,
    happenings = [.race (.fresh ⟨"other", "openshift-storage"⟩), .others (.limitTerminations (some 1)),
      .pass { metadata := { name := some "a", uid := some "1" } }] := ⟨_, rfl⟩
  obtain ⟨-, culls, keeps⟩ := passes_terminate_only_dependents parsed doubledWorld happenings
  refine ⟨parsed, happenings, given, ?culled, keeps ⟨"elsewhere", "rook"⟩ ?kept⟩
  case culled =>
    subst given
    obtain ⟨killed, culls⟩ := culls [.race (.fresh ⟨"other", "openshift-storage"⟩),
      .others (.limitTerminations (some 1))] _ [] rfl
    exact ⟨killed, culls.terminated.symm, culls.running⟩
  case kept =>
    rintro earlier cluster later split ⟨labels, -, spot, -⟩
    -- The only pass is for a cluster of the default namespace.
    have member : Happening.pass cluster ∈ happenings := by
      rw [split]
      simp
    subst given
    obtain rfl : cluster = { metadata := { name := some "a", uid := some "1" } } := by simpa using member
    exact absurd spot (by decide)

end StorageConfig
