import StorageConfig.Owner

/-!
The metadata that every object of an API server carries.

Every member may be missing or null, unknown ones are passed over, and those that are missing are not written.
-/

namespace StorageConfig

namespace OwnerRef

/-- The members of a reference as an API server writes it; a missing text is empty. -/
def apiFields : Record OwnerRef :=
  (fun apiVersion blocksDeletion controller kind name uid =>
      ⟨⟨apiVersion.getD "", kind.getD "", name.getD "", uid.getD ""⟩, controller, blocksDeletion⟩)
    <$> .optionalAnywhere "apiVersion" Decoder.text
    <*> .optionalAnywhere "blockOwnerDeletion" Decoder.flag
    <*> .optionalAnywhere "controller" Decoder.flag
    <*> .optionalAnywhere "kind" Decoder.text
    <*> .optionalAnywhere "name" Decoder.text
    <*> .optionalAnywhere "uid" Decoder.text

/-- Read a reference as an API server writes it. -/
def ofApiJson : Decoder OwnerRef := apiFields.decodeLoose "OwnerReference"

/-- A reference as an API server writes it, flags only where they are set. -/
def toApiJson (ref : OwnerRef) : Json :=
  .obj ([("apiVersion", .str ref.owner.apiVersion)]
    ++ Json.presentMember "blockOwnerDeletion" .bool ref.blocksDeletion
    ++ Json.presentMember "controller" .bool ref.controller
    ++ [("kind", .str ref.owner.kind), ("name", .str ref.owner.name), ("uid", .str ref.owner.uid)])

end OwnerRef

/-- Who last set which fields of an object. -/
structure ManagedFields where
  apiVersion : Option String
  fieldsType : Option String
  fieldsV1 : Option Json
  manager : Option String
  operation : Option String
  subresource : Option String
  time : Option Timestamp

namespace ManagedFields

/-- The members of an entry. -/
def fields : Record ManagedFields :=
  ManagedFields.mk <$> .optionalAnywhere "apiVersion" Decoder.text
    <*> .optionalAnywhere "fieldsType" Decoder.text
    <*> .optionalAnywhere "fieldsV1" (fun json => (Decoder.anything json).map Json.normalize)
    <*> .optionalAnywhere "manager" Decoder.text
    <*> .optionalAnywhere "operation" Decoder.text
    <*> .optionalAnywhere "subresource" Decoder.text
    <*> .optionalAnywhere "time" Decoder.timestamp

/-- Read an entry from a document. -/
def ofJson : Decoder ManagedFields := fields.decodeLoose "ManagedFieldsEntry"

/-- An entry as a document. -/
def toJson (entry : ManagedFields) : Json :=
  .obj (Json.presentMember "apiVersion" .str entry.apiVersion
    ++ Json.presentMember "fieldsType" .str entry.fieldsType
    ++ Json.presentMember "fieldsV1" id entry.fieldsV1
    ++ Json.presentMember "manager" .str entry.manager
    ++ Json.presentMember "operation" .str entry.operation
    ++ Json.presentMember "subresource" .str entry.subresource
    ++ Json.presentMember "time" (fun instant => .str instant.render) entry.time)

end ManagedFields

/-- The metadata of an object. -/
structure ObjectMeta where
  annotations : Option TextMap := none
  creationTimestamp : Option Timestamp := none
  deletionGracePeriodSeconds : Option Int := none
  deletionTimestamp : Option Timestamp := none
  finalizers : Option (List String) := none
  generateName : Option String := none
  generation : Option Int := none
  labels : Option TextMap := none
  managedFields : Option (List ManagedFields) := none
  name : Option String := none
  namespaceName : Option String := none
  ownerRefs : Option (List OwnerRef) := none
  resourceVersion : Option String := none
  selfLink : Option String := none
  uid : Option String := none

namespace ObjectMeta

/-- The members of metadata. -/
def fields : Record ObjectMeta :=
  ObjectMeta.mk <$> .optionalAnywhere "annotations" Decoder.textMap
    <*> .optionalAnywhere "creationTimestamp" Decoder.timestamp
    <*> .optionalAnywhere "deletionGracePeriodSeconds" Decoder.int64
    <*> .optionalAnywhere "deletionTimestamp" Decoder.timestamp
    <*> .optionalAnywhere "finalizers" (Decoder.list Decoder.text)
    <*> .optionalAnywhere "generateName" Decoder.text
    <*> .optionalAnywhere "generation" Decoder.int64
    <*> .optionalAnywhere "labels" Decoder.textMap
    <*> .optionalAnywhere "managedFields" (Decoder.list ManagedFields.ofJson)
    <*> .optionalAnywhere "name" Decoder.text
    <*> .optionalAnywhere "namespace" Decoder.text
    <*> .optionalAnywhere "ownerReferences" (Decoder.list OwnerRef.ofApiJson)
    <*> .optionalAnywhere "resourceVersion" Decoder.text
    <*> .optionalAnywhere "selfLink" Decoder.text
    <*> .optionalAnywhere "uid" Decoder.text

/-- Read metadata from a document. -/
def ofJson : Decoder ObjectMeta := fields.decodeLoose "ObjectMeta"

/-- Metadata as a document. -/
def toJson (metadata : ObjectMeta) : Json :=
  let instant (t : Timestamp) : Json := .str t.render
  .obj (Json.presentMember "annotations" .ofTextMap metadata.annotations
    ++ Json.presentMember "creationTimestamp" instant metadata.creationTimestamp
    ++ Json.presentMember "deletionGracePeriodSeconds" .int metadata.deletionGracePeriodSeconds
    ++ Json.presentMember "deletionTimestamp" instant metadata.deletionTimestamp
    ++ Json.presentMember "finalizers" (fun names => .arr (names.map .str)) metadata.finalizers
    ++ Json.presentMember "generateName" .str metadata.generateName
    ++ Json.presentMember "generation" .int metadata.generation
    ++ Json.presentMember "labels" .ofTextMap metadata.labels
    ++ Json.presentMember "managedFields" (fun entries => .arr (entries.map ManagedFields.toJson))
      metadata.managedFields
    ++ Json.presentMember "name" .str metadata.name
    ++ Json.presentMember "namespace" .str metadata.namespaceName
    ++ Json.presentMember "ownerReferences" (fun refs => .arr (refs.map OwnerRef.toApiJson))
      metadata.ownerRefs
    ++ Json.presentMember "resourceVersion" .str metadata.resourceVersion
    ++ Json.presentMember "selfLink" .str metadata.selfLink
    ++ Json.presentMember "uid" .str metadata.uid)

/-- The name of an object, or else what its name is generated from. -/
def displayName (metadata : ObjectMeta) : String :=
  (metadata.name <|> metadata.generateName).getD ""

end ObjectMeta

end StorageConfig
