import StorageConfig.Collaborators

/-! A registry of pods in memory. -/

namespace StorageConfig

/-- The pods that run, and those that were terminated. -/
structure MemoryPods where
  /-- The running pods with their labels, in the order they were added. -/
  running : List (PodRef × TextMap)
  /-- The terminations that succeeded, in order. -/
  terminated : List PodRef
  /-- Whether listing is made to fail. -/
  failsList : Bool
  /-- How many terminations succeed in all before every further one fails. -/
  limit : Option Nat

namespace MemoryPods

/-- The registry without pods. -/
def empty : MemoryPods := ⟨[], [], false, none⟩

/-- The registry with one more running pod. -/
def add (pods : MemoryPods) (pod : PodRef) (labels : TextMap) : MemoryPods :=
  { pods with running := pods.running ++ [(pod, labels)] }

/-- The running pods of a namespace that a selector matches. -/
def selected (pods : MemoryPods) (namespaceName : String) (selector : Selector) : List PodRef :=
  (pods.running.filter fun (pod, labels) =>
    pod.namespaceName == namespaceName && selector.isMatch labels).map (·.1)

/-- List the pods of a namespace that a selector matches. -/
def list (pods : MemoryPods) (namespaceName : String) (selector : Selector) : Except Failure (List PodRef) :=
  if pods.failsList then .error (.podRegistry "list refused")
  else .ok (pods.selected namespaceName selector)

/-- Whether the limit on terminations is reached. -/
def isExhausted (pods : MemoryPods) : Bool := pods.limit.any (· ≤ pods.terminated.length)

/-- Terminate a pod: every running one of that name stops, and none needs to run. -/
def terminate (pods : MemoryPods) (pod : PodRef) : Except Failure Unit × MemoryPods :=
  if pods.isExhausted then (.error (.podRegistry ("delete " ++ pod.render ++ " refused")), pods)
  else
    (.ok (), { pods with
      running := pods.running.filter fun entry => entry.1 != pod
      terminated := pods.terminated ++ [pod] })

end MemoryPods

end StorageConfig
