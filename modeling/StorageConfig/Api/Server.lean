import StorageConfig.Api.Client
import StorageConfig.Api.Object
import StorageConfig.Http.Form

/-! The collaborators that an API server provides: its config maps, its pods, and the object with the identity. -/

namespace StorageConfig

namespace Api

/-- Where the config maps of a namespace are. -/
def configMapsPath (namespaceName : String) : String := "/api/v1/namespaces/" ++ namespaceName ++ "/configmaps"

/-- Where the pods of a namespace are. -/
def podsPath (namespaceName : String) : String := "/api/v1/namespaces/" ++ namespaceName ++ "/pods"

/-- Where the objects with the cluster identity are. -/
def clusterVersionsPath : String := "/apis/config.openshift.io/v1/clusterversions"

/-- The failure of a request whose refusals mean nothing in particular. -/
def orFail {α : Type} (result : Except ApiFailure α) : Except Failure α := result.mapError .api

/-- Fetch a config map; a refusal for the reason that it does not exist means there is none. -/
def get {σ : Type} (transport : Transport σ) (key : ResourceKey) : Action σ (Option ConfigMap) := do
  let result ← request transport (configMapOfJson key) .get
    (configMapsPath key.namespaceName ++ "/" ++ key.name) none none
  match result with
  | .ok resource => pure (some resource)
  | .error (.refused refusal) =>
    if refusal.reason = "NotFound" then pure none else Action.ofExcept (.error (.api (.refused refusal)))
  | .error cause => Action.ofExcept (.error (.api cause))

/-- Send a new config map; code 409 means that it exists already. -/
def create {σ : Type} (transport : Transport σ) (resource : ConfigMap) : Action σ Unit := do
  let key := resource.key
  let result ← request transport (configMapOfJson key) .post (configMapsPath key.namespaceName ++ "?")
    (some jsonType) (some (configMapToJson resource))
  match result with
  | .ok _ => pure ()
  | .error (.refused refusal) =>
    Action.ofExcept (.error (if refusal.code = 409 then .alreadyExists "ConfigMap" key.render
      else .api (.refused refusal)))
  | .error cause => Action.ofExcept (.error (.api cause))

/-- Send what replaces a config map; code 409 means that someone else has written, 404 that there is none. -/
def replace {σ : Type} (transport : Transport σ) (resource : ConfigMap) : Action σ Unit := do
  let key := resource.key
  let result ← request transport (configMapOfJson key) .patch
    (configMapsPath key.namespaceName ++ "/" ++ key.name ++ "?") (some mergePatchType)
    (some (replacementToJson resource))
  match result with
  | .ok _ => pure ()
  | .error (.refused refusal) =>
    Action.ofExcept (.error (
      if refusal.code = 409 then .conflict "ConfigMap" key.render refusal.message
      else if refusal.code = 404 then .notFound "ConfigMap" key.render
      else .api (.refused refusal)))
  | .error cause => Action.ofExcept (.error (.api cause))

/-- Fetch the cluster identity from the object of a name. -/
def identity {σ : Type} (transport : Transport σ) (singleton : String) : Action σ String := do
  let result ← request transport clusterIdOfJson .get (clusterVersionsPath ++ "/" ++ singleton) none none
  match ← Action.ofExcept (orFail result) with
  | some identity => pure identity
  | none =>
    Action.ofExcept (.error (.identityLookup ("clusterversions/" ++ singleton ++ " has no spec.clusterID")))

/-- Fetch the pods of a namespace that a selector matches; a pod without a namespace is in the one asked for. -/
def list {σ : Type} (transport : Transport σ) (namespaceName : String) (selector : Selector) :
    Action σ (List PodRef) := do
  let result ← request transport podListOfJson .get
    (podsPath namespaceName ++ "?&labelSelector=" ++ Form.encode selector.render) none none
  let pods ← Action.ofExcept (orFail result)
  pure (pods.map fun pod => ⟨pod.namespaceName.getD namespaceName, pod.displayName⟩)

/-- Delete a pod; code 404 means that it is gone already, which is as good. -/
def terminate {σ : Type} (transport : Transport σ) (pod : PodRef) : Action σ Unit := do
  let result ← request transport deletionOfJson .delete
    (podsPath pod.namespaceName ++ "/" ++ pod.name ++ "?") (some jsonType) (some (.obj []))
  match result with
  | .ok () => pure ()
  | .error (.refused refusal) =>
    if refusal.code = 404 then pure () else Action.ofExcept (.error (.api (.refused refusal)))
  | .error cause => Action.ofExcept (.error (.api cause))

/-- The collaborators that an API server behind a transport provides. -/
def collaborators {σ : Type} (transport : Transport σ) : Collaborators σ :=
  { get := get transport
    create := create transport
    replace := replace transport
    identity := identity transport
    list := list transport
    terminate := terminate transport }

end Api

end StorageConfig
