import StorageConfig.Json.Misfit
import StorageConfig.Text.Base64

/-! Shapes that documents of an API server have, apart from what their values mean. -/

namespace StorageConfig

/-- The shape of a document. -/
inductive Shape where
  | anything
  | flag
  | text
  /-- An integer between two bounds. -/
  | integer (low high : Int)
  | instant
  /-- A text in base64, or null for no bytes. -/
  | base64
  /-- An integer of 32 bits or a text. -/
  | portNumber
  | list (item : Shape)
  | map (value : Shape)
  /-- An object whose declared members may each be missing or null. -/
  | record (members : List (String × Shape))

namespace Shape

/-- An integer of 32 bits. -/
def int32 : Shape := integer (-Nat.pow 2 31) (Nat.pow 2 31 - 1)

/-- An integer of 64 bits. -/
def int64 : Shape := integer (-Nat.pow 2 63) (Nat.pow 2 63 - 1)

/-- Whether a document is an integer between two bounds. -/
def isInteger (low high : Int) : Json → Bool
  | .num (.integer value) => low ≤ value && value ≤ high
  | _ => false

/-- Whether a document is null. -/
def isNull : Json → Bool
  | .null => true
  | _ => false

mutual

/-- Whether a document has a shape. -/
def fits : Shape → Json → Bool
  | anything, json => json.isSound
  | flag, .bool _ => true
  | text, .str _ => true
  | integer low high, json => isInteger low high json
  | instant, .str value => (Timestamp.parse value).isOk
  | base64, .null => true
  | base64, .str value => isBase64 value.toList
  | portNumber, .str _ => true
  | portNumber, json => isInteger (-Nat.pow 2 31) (Nat.pow 2 31 - 1) json
  | list item, .arr items => items.all fun json => fits item json
  | map value, .obj entries => entries.all fun entry => fits value entry.2
  | record members, .obj entries => fitsMembers members entries
  | _, _ => false

/-- Whether all values of the declared members have their shapes. -/
def fitsMembers : List (String × Shape) → List (String × Json) → Bool
  | [], _ => true
  | (name, shape) :: members, entries =>
    entries.all (fun entry => entry.1 != name || isNull entry.2 || fits shape entry.2)
      && fitsMembers members entries

end

/-- Read a document of a shape without keeping anything. -/
def check (shape : Shape) : Decoder Unit := fun json =>
  if shape.fits json then .ok () else Decoder.reject "another shape" json

end Shape

end StorageConfig
