import StorageConfig.Json.Record
import StorageConfig.Text.Split

/-! The objects that own a resource, and the references by which it names them. -/

namespace StorageConfig

/-- The group of an API version: what stands before its last slash, nothing for the core group. -/
def apiGroup (apiVersion : String) : String :=
  match cutAtLast '/' apiVersion.toList with
  | some (group, _) => String.ofList group
  | none => ""

/-- Who an owner reference points at. -/
structure Owner where
  apiVersion : String
  kind : String
  name : String
  uid : String
  deriving DecidableEq, Repr

namespace Owner

/-- The group and kind of an owner, its version left aside. -/
def groupKind (owner : Owner) : String × String := (apiGroup owner.apiVersion, owner.kind)

/-- The group, kind and name of an owner, by which references to it are recognised. -/
def identity (owner : Owner) : (String × String) × String := (owner.groupKind, owner.name)

/-- Whether two owners have one group and kind. -/
def sameKind (left right : Owner) : Bool := left.groupKind == right.groupKind

/-- Whether two owners are one object, whatever their version and uid. -/
def sameObject (left right : Owner) : Bool := left.identity == right.identity

/-- An owner as a document. -/
def toJson (owner : Owner) : Json :=
  .obj [("api_version", .str owner.apiVersion), ("kind", .str owner.kind),
    ("name", .str owner.name), ("uid", .str owner.uid)]

/-- The fields of an owner. -/
def fields : Record Owner :=
  Owner.mk <$> .required "api_version" Decoder.text <*> .required "kind" Decoder.text
    <*> .required "name" Decoder.text <*> .required "uid" Decoder.text

/-- Read an owner from a document. -/
def ofJson : Decoder Owner := fields.decode "OwnerIdentity"

end Owner

/-- A reference from a resource to an object responsible for it. -/
structure OwnerRef where
  owner : Owner
  /-- Whether the owner is the managing controller. -/
  controller : Option Bool
  /-- Whether deleting the owner waits for the resource. -/
  blocksDeletion : Option Bool
  deriving DecidableEq, Repr

namespace OwnerRef

/-- The controlling reference to an owner. -/
def controlling (owner : Owner) : OwnerRef := ⟨owner, some true, some true⟩

/-- Whether the reference marks the controller. -/
def isController (ref : OwnerRef) : Bool := ref.controller == some true

/-- The reference without its flags. -/
def released (ref : OwnerRef) : OwnerRef := ⟨ref.owner, none, none⟩

/-- A reference as a document. -/
def toJson (ref : OwnerRef) : Json :=
  .obj [("owner", ref.owner.toJson), ("controller", .ofOption .bool ref.controller),
    ("block_owner_deletion", .ofOption .bool ref.blocksDeletion)]

/-- The fields of a reference. -/
def fields : Record OwnerRef :=
  OwnerRef.mk <$> .required "owner" Owner.ofJson <*> .optional "controller" Decoder.flag
    <*> .optional "block_owner_deletion" Decoder.flag

/-- Read a reference from a document. -/
def ofJson : Decoder OwnerRef := fields.decode "OwnerRef"

end OwnerRef

end StorageConfig
