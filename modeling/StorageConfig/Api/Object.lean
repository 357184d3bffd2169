import StorageConfig.Api.PodShape
import StorageConfig.ConfigMap
import StorageConfig.ObjectMeta

/-!
The objects of an API server as its replies write them.

Members may be missing or null, but the version and kind have to be the right ones where they are given.
-/

namespace StorageConfig

namespace Api

/-- A text that can only be one. -/
def exactly (wanted : String) : Decoder Unit
  | .str found => if found = wanted then .ok () else Decoder.reject wanted (.str found)
  | other => Decoder.reject wanted other

/-- The members that name the version and kind of an object of the core group. -/
def coreKind (kind : String) : Record Unit :=
  (fun _ _ => ()) <$> .defaulted "apiVersion" (exactly "v1") () <*> .defaulted "kind" (exactly kind) ()

/-- The metadata of an object, empty where it is missing. -/
def metadata : Record ObjectMeta := (·.getD {}) <$> .optionalAnywhere "metadata" ObjectMeta.ofJson

/-- Read a config map, under the key it was asked for. -/
def configMapOfJson (key : ResourceKey) : Decoder ConfigMap :=
  Record.decodeLoose "ConfigMap"
    ((fun _ _ data _ (metadata : ObjectMeta) =>
        ⟨key, data.getD ∅, metadata.ownerRefs.getD [], metadata.resourceVersion⟩)
      <$> coreKind "ConfigMap"
      <*> .optionalAnywhere "binaryData" (Shape.map .base64).check
      <*> .optionalAnywhere "data" Decoder.textMap
      <*> .optionalAnywhere "immutable" Decoder.flag
      <*> metadata)

/-- Read a pod, of which only the metadata is kept. -/
def podOfJson : Decoder ObjectMeta :=
  Record.decodeLoose "Pod"
    ((fun _ metadata _ _ => metadata) <$> coreKind "Pod" <*> metadata
      <*> .optionalAnywhere "spec" Shape.podSpec.check
      <*> .optionalAnywhere "status" Shape.podStatus.check)

/-- Read the metadata of a list. -/
def listMetadataOfJson : Decoder Unit :=
  (Shape.record (Shape.texts ["continue", "resourceVersion", "selfLink"]
    ++ Shape.int64s ["remainingItemCount"])).check

/-- Read an object of which members beyond those of the record are kept, so that they must have a value. -/
def decodeKeeping {α : Type} (wanted : String) (fields : Record α) : Decoder α
  | .obj members => do
    (members.filter fun (name, _) => !fields.names.contains name).forM fun (_, value) => do
      let _ ← Decoder.anything value
    fields.decodeNamed members
  | other => Decoder.reject wanted other

/-- Read a list of pods; its version and kind do not matter. -/
def podListOfJson : Decoder (List ObjectMeta) :=
  decodeKeeping "ObjectList"
    ((fun _ pods => pods.getD []) <$> .required "metadata" listMetadataOfJson
      <*> .required "items" (Decoder.nullable (Decoder.list podOfJson)))

/-- Read the cluster identity from the object that holds it; there may be none. -/
def clusterIdOfJson : Decoder (Option String) := fun json => do
  let _ ← decodeKeeping "DynamicObject" (.defaulted "metadata" ObjectMeta.ofJson {}) json
  .ok ((json.member? "spec").bind (·.member? "clusterID") |>.bind Json.asText?)

/-- Read the report on a request that gives no object. -/
def statusOfJson : Decoder Unit :=
  let cause :=
    Record.decode "StatusCause"
      ((fun _ _ _ => ()) <$> .defaulted "reason" Decoder.text "" <*> .defaulted "message" Decoder.text ""
        <*> .defaulted "field" Decoder.text "")
  let details :=
    Record.decode "StatusDetails"
      ((fun _ _ _ _ _ _ => ()) <$> .defaulted "name" Decoder.text "" <*> .defaulted "group" Decoder.text ""
        <*> .defaulted "kind" Decoder.text "" <*> .defaulted "uid" Decoder.text ""
        <*> .defaulted "causes" (Decoder.list cause) []
        <*> .defaulted "retryAfterSeconds" (Decoder.natural 32 "u32") 0)
  Record.decode "Status"
    ((fun _ _ _ _ _ => ())
      <$> .optionalAnywhere "status" (Decoder.oneOf [("Success", ()), ("Failure", ())])
      <*> .defaulted "code" (Decoder.natural 16 "u16") 0
      <*> .defaulted "message" Decoder.text "" <*> .defaulted "reason" Decoder.text ""
      <*> .optionalAnywhere "details" details)

/-- Read the answer to a deletion, all of which must have a value: a report, or the pod that is going away. -/
def deletionOfJson : Decoder Unit := fun json => do
  let json ← Decoder.anything json
  if (json.member? "kind").bind Json.asText? = some "Status" then statusOfJson json
  else (podOfJson json).map fun _ => ()

/-- A config map as it is first written. -/
def configMapToJson (resource : ConfigMap) : Json :=
  .obj [("apiVersion", .str "v1"), ("kind", .str "ConfigMap"),
    ("metadata", ObjectMeta.toJson
      { name := some resource.key.name
        namespaceName := some resource.key.namespaceName
        ownerRefs := some resource.ownerRefs }),
    ("data", .ofTextMap resource.data)]

/--
The document that is merged into a stored config map to replace it.

The version makes the server refuse it when someone else has written, and only keys to set are given,
so what others added stays.
-/
def replacementToJson (resource : ConfigMap) : Json :=
  .obj [("metadata", .obj
      [("resourceVersion", .ofOption .str resource.version),
        ("ownerReferences", .arr (resource.ownerRefs.map OwnerRef.toApiJson))]),
    ("data", .ofTextMap resource.data)]

end Api

end StorageConfig
