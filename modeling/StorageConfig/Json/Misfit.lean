import StorageConfig.Json
import StorageConfig.Decimal.Shortest
import StorageConfig.Text.Quoted
import StorageConfig.Timestamp.Reader

/-! Why a document does not fit the type it is read as, and how that is worded. -/

namespace StorageConfig

/-- What kind of document was found, scalars with their value. -/
inductive Json.Kind where
  | flawed
  | null
  | flag (value : Bool)
  | integer (value : Int)
  | floating (value : Binary64)
  | text (value : String)
  | sequence
  | map
  deriving DecidableEq

/-- The kind of a document. -/
def Json.kind : Json → Json.Kind
  | .flawed => .flawed
  | .null => .null
  | .bool value => .flag value
  | .num (.integer value) => .integer value
  | .num (.floating value) => .floating value
  | .str value => .text value
  | .arr _ => .sequence
  | .obj _ => .map

/-- The wording of a kind. -/
def Json.Kind.message : Json.Kind → String
  | .flawed => "flawed value"
  | .null => "null"
  | .flag value => "boolean `" ++ (if value then "true" else "false") ++ "`"
  | .integer value => "integer `" ++ toString value ++ "`"
  | .floating value => "floating point `" ++ value.documentText ++ "`"
  | .text value => "string " ++ quoted value
  | .sequence => "sequence"
  | .map => "map"

/-- Why a document does not fit a type. -/
inductive Misfit where
  /-- Another kind of document was wanted. -/
  | wrongKind (found : Json.Kind) (wanted : String)
  /-- An integer lies outside the wanted range. -/
  | outOfRange (value : Int) (wanted : String)
  /-- A record lacks a field that has no default. -/
  | missing (field : String)
  /-- A record names a field twice. -/
  | repeated (field : String)
  /-- No case of an enumeration has this name. -/
  | unknownCase (name : String) (known : List String)
  /-- An enumeration in object form needs exactly one member. -/
  | notOneMember
  /-- A record in array form ends before a field that may not be left out. -/
  | tooShort (length : Nat) (record : String) (fields : Nat)
  /-- A record in array form has items left over. -/
  | tooLong (length : Nat)
  /-- A text is no instant. -/
  | noTimestamp (fault : Timestamp.Fault)
  deriving DecidableEq

namespace Misfit

/-- The names of cases, each in backticks. -/
def caseNames (names : List String) : String :=
  ", ".intercalate (names.map fun name => "`" ++ name ++ "`")

/-- The wording of a misfit. -/
def message : Misfit → String
  | wrongKind found wanted => "invalid type: " ++ found.message ++ ", expected " ++ wanted
  | outOfRange value wanted =>
    "invalid value: integer `" ++ toString value ++ "`, expected " ++ wanted
  | missing field => "missing field `" ++ field ++ "`"
  | repeated field => "duplicate field `" ++ field ++ "`"
  | unknownCase name known =>
    "unknown variant `" ++ name ++ "`, expected one of " ++ caseNames known
  | notOneMember => "invalid value: map, expected map with a single key"
  | tooShort length record fields =>
    "invalid length " ++ toString length ++ ", expected struct " ++ record ++ " with "
      ++ toString fields ++ (if fields = 1 then " element" else " elements")
  | tooLong length =>
    "invalid length " ++ toString length ++ ", expected fewer elements in array"
  | noTimestamp fault => fault.message

end Misfit

/-- A reading of documents as values of a type. -/
abbrev Decoder (α : Type) := Json → Except Misfit α

namespace Decoder

/-- A document of another kind than the wanted one. -/
def reject {α : Type} (wanted : String) (json : Json) : Except Misfit α :=
  .error (.wrongKind json.kind wanted)

/-- Any document that has no flawed part. -/
def anything : Decoder Json := fun json =>
  if json.isSound then .ok json else reject "any value" json

/-- A truth value. -/
def flag : Decoder Bool
  | .bool value => .ok value
  | other => reject "a boolean" other

/-- A text. -/
def text : Decoder String
  | .str value => .ok value
  | other => reject "a string" other

/-- An integer between two bounds. -/
def integer (low high : Int) (wanted : String) : Decoder Int
  | .num (.integer value) =>
    if low ≤ value ∧ value ≤ high then .ok value else .error (.outOfRange value wanted)
  | other => reject wanted other

/-- A natural number of at most so many bits. -/
def natural (bits : Nat) (wanted : String) : Decoder Nat :=
  fun json => (integer 0 (Nat.pow 2 bits - 1) wanted json).map Int.toNat

/-- A signed integer of at most 64 bits. -/
def int64 : Decoder Int := integer (-Nat.pow 2 63) (Nat.pow 2 63 - 1) "i64"

/-- A count that fits a machine word. -/
def count : Decoder Nat := natural 64 "usize"

/-- Any number, rounded to binary64. -/
def number : Decoder Binary64
  | .num (.integer value) =>
    let size := (UInt64.ofNat value.natAbs).toFloat
    .ok (.ofFloat (if value < 0 then -size else size))
  | .num (.floating value) => .ok value
  | other => reject "f64" other

/-- An instant. -/
def timestamp : Decoder Timestamp
  | .str value =>
    match Timestamp.parse value with
    | .ok instant => .ok instant
    | .error fault => .error (.noTimestamp fault)
  | other => reject "an RFC 3339 formatted date and time string" other

/-- Read every item, in order. -/
def items {α : Type} (item : Decoder α) : List Json → Except Misfit (List α)
  | [] => .ok []
  | json :: rest => do
    let value ← item json
    let values ← items item rest
    .ok (value :: values)

/-- A list of values. -/
def list {α : Type} (item : Decoder α) : Decoder (List α)
  | .arr values => items item values
  | other => reject "a sequence" other

/-- Read the members of an object into a map of texts, in order. -/
def bindings (map : TextMap) : List (String × Json) → Except Misfit TextMap
  | [] => .ok map
  | (key, json) :: rest => do
    let value ← text json
    bindings (map.insert key value) rest

/-- A map of texts. -/
def textMap : Decoder TextMap
  | .obj members => bindings ∅ members
  | other => reject "a map" other

/-- A value, or nothing where the document is null. -/
def nullable {α : Type} (decode : Decoder α) : Decoder (Option α)
  | .null => .ok none
  | other => (decode other).map some

/-- A case of an enumeration: its name, or an object with its name as the only key and a null value. -/
def oneOf {α : Type} (cases : List (String × α)) : Decoder α
  | .str name => named name
  | .obj [(name, unit)] => do
    let value ← named name
    match unit with
    | .null => .ok value
    | other => reject "unit" other
  | .obj _ => .error .notOneMember
  | other => reject "string or map" other
where
  /-- The case of a name. -/
  named (name : String) : Except Misfit α :=
    match cases.find? (fun entry => entry.1 == name) with
    | some (_, value) => .ok value
    | none => .error (.unknownCase name (cases.map (·.1)))

end Decoder

end StorageConfig
