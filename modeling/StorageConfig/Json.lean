import StorageConfig.TextMap
import StorageConfig.Decimal.Binary64

/-! Documents: the values that JSON texts stand for. -/

namespace StorageConfig

/-- A number of a document: an integer of at most 64 bits, or a binary64 number. -/
inductive Json.Number where
  | integer (value : Int)
  | floating (value : Binary64)
  deriving DecidableEq

/-- A document; an object keeps its members in the order it was built in. -/
inductive Json where
  /-- What a well-formed text stands for that has no value, such as a number too large for its form. -/
  | flawed
  | null
  | bool (value : Bool)
  | num (value : Json.Number)
  | str (text : String)
  | arr (items : List Json)
  | obj (members : List (String × Json))

namespace Json

instance : Inhabited Json := ⟨null⟩

/-- The document of an integer. -/
def int (value : Int) : Json := num (.integer value)

/-- The document of a count. -/
def nat (value : Nat) : Json := int value

/-- The document of a text, or null where there is none. -/
def ofOption {α : Type} (encode : α → Json) : Option α → Json
  | some value => encode value
  | none => null

/-- The object of a map of texts. -/
def ofTextMap (map : TextMap) : Json :=
  obj (map.entries.map fun (key, value) => (key, str value))

/-- A member for an optional part, or none. -/
def presentMember {α : Type} (name : String) (encode : α → Json) : Option α → List (String × Json)
  | some value => [(name, encode value)]
  | none => []

/-- The value of a member of an object; of several with one name the last counts. -/
def member? (name : String) : Json → Option Json
  | obj members => (members.reverse.find? fun entry => entry.1 == name).map (·.2)
  | _ => none

/-- The text that a document is. -/
def asText? : Json → Option String
  | str text => some text
  | _ => none

mutual

/-- The document with the members of every object sorted, each name once with its last value. -/
def normalize : Json → Json
  | arr items => arr (normalizeItems items)
  | obj members => obj (normalizeMembers members [])
  | scalar => scalar

/-- The documents of a list, each normalized. -/
def normalizeItems : List Json → List Json
  | [] => []
  | item :: items => item.normalize :: normalizeItems items

/-- The members bound into those already sorted, one after the other. -/
def normalizeMembers : List (String × Json) → List (String × Json) → List (String × Json)
  | [], sorted => sorted
  | (name, value) :: members, sorted => normalizeMembers members (bindKey name value.normalize sorted)

end

mutual

/-- Whether no part of a document is flawed. -/
def isSound : Json → Bool
  | flawed => false
  | arr items => areItemsSound items
  | obj members => areMembersSound members
  | _ => true

/-- Whether no part of an item of a list is flawed. -/
def areItemsSound : List Json → Bool
  | [] => true
  | item :: items => item.isSound && areItemsSound items

/-- Whether no part of a member's value is flawed. -/
def areMembersSound : List (String × Json) → Bool
  | [] => true
  | (_, value) :: members => value.isSound && areMembersSound members

end

end Json

end StorageConfig
