import StorageConfig.Owner

/-! Config maps: named bundles of texts, with their owners and the version they were stored under. -/

namespace StorageConfig

/-- The name and namespace of a resource. -/
structure ResourceKey where
  name : String
  namespaceName : String
  deriving DecidableEq, Repr

namespace ResourceKey

/-- A key as `namespace/name`. -/
def render (key : ResourceKey) : String := key.namespaceName ++ "/" ++ key.name

/-- A key as a document. -/
def toJson (key : ResourceKey) : Json :=
  .obj [("name", .str key.name), ("namespace", .str key.namespaceName)]

/-- The fields of a key. -/
def fields : Record ResourceKey :=
  ResourceKey.mk <$> .required "name" Decoder.text <*> .required "namespace" Decoder.text

/-- Read a key from a document. -/
def ofJson : Decoder ResourceKey := fields.decode "ResourceKey"

end ResourceKey

/-- A namespaced resource of texts under keys. -/
structure ConfigMap where
  key : ResourceKey
  data : TextMap
  ownerRefs : List OwnerRef
  /-- The version it was read under; nothing before it is stored. -/
  version : Option String
  deriving DecidableEq

namespace ConfigMap

/-- The config map that has not been stored and holds nothing. -/
def fresh (key : ResourceKey) : ConfigMap := ⟨key, ∅, [], none⟩

/-- The reference marked as controller, the first if there are several. -/
def controller? (resource : ConfigMap) : Option OwnerRef :=
  resource.ownerRefs.find? OwnerRef.isController

/-- A config map as a document. -/
def toJson (resource : ConfigMap) : Json :=
  .obj [("key", resource.key.toJson), ("data", .ofTextMap resource.data),
    ("owner_references", .arr (resource.ownerRefs.map OwnerRef.toJson)),
    ("resource_version", .ofOption .str resource.version)]

/-- The fields of a config map. -/
def fields : Record ConfigMap :=
  ConfigMap.mk <$> .required "key" ResourceKey.ofJson <*> .required "data" Decoder.textMap
    <*> .required "owner_references" (Decoder.list OwnerRef.ofJson)
    <*> .optional "resource_version" Decoder.text

/-- Read a config map from a document. -/
def ofJson : Decoder ConfigMap := fields.decode "ConfigResource"

end ConfigMap

/-- What a create-or-update did. -/
inductive WriteOutcome where
  | created
  | updated
  | unchanged
  deriving DecidableEq, Repr

namespace WriteOutcome

/-- Whether the store was written to. -/
def isChange : WriteOutcome → Bool
  | unchanged => false
  | created | updated => true

/-- The word for an outcome. -/
def render : WriteOutcome → String
  | created => "created"
  | updated => "updated"
  | unchanged => "unchanged"

/-- An outcome as a document. -/
def toJson (outcome : WriteOutcome) : Json := .str outcome.render

/-- Read an outcome from a document. -/
def ofJson : Decoder WriteOutcome :=
  Decoder.oneOf [("created", created), ("updated", updated), ("unchanged", unchanged)]

end WriteOutcome

/-- A reference to a running pod. -/
structure PodRef where
  namespaceName : String
  name : String
  deriving DecidableEq, Repr

namespace PodRef

/-- A pod as `namespace/name`. -/
def render (pod : PodRef) : String := pod.namespaceName ++ "/" ++ pod.name

/-- A pod reference as a document. -/
def toJson (pod : PodRef) : Json :=
  .obj [("namespace", .str pod.namespaceName), ("name", .str pod.name)]

/-- The fields of a pod reference. -/
def fields : Record PodRef :=
  PodRef.mk <$> .required "namespace" Decoder.text <*> .required "name" Decoder.text

/-- Read a pod reference from a document. -/
def ofJson : Decoder PodRef := fields.decode "ProcessRef"

end PodRef

end StorageConfig
