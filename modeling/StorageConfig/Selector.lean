import StorageConfig.Failure
import StorageConfig.Text.Blank
import StorageConfig.Text.Split

/-! Label selectors: labels that a pod must carry, written as `key=value` terms with commas between. -/

namespace StorageConfig

/-- Whether a text is a label name: 1 to 63 letters, digits, `-`, `_` and `.`, with a letter or digit at both ends. -/
def isLabelName (name : List Char) : Bool :=
  name.length ≤ 63 && name.head?.any Char.isAlphanum && name.getLast?.any Char.isAlphanum
    && name.all fun c => c.isAlphanum || c == '-' || c == '_' || c == '.'

/-- A lower-case ASCII letter or a digit. -/
def isDnsLetter (c : Char) : Bool := c.isLower || c.isDigit

/-- Whether a text is one part of a DNS name. -/
def isDnsPart (part : List Char) : Bool :=
  part.length ≤ 63 && part.head?.any isDnsLetter && part.getLast?.any isDnsLetter
    && part.all fun c => isDnsLetter c || c == '-'

/-- Whether a text is a DNS name of at most 253 characters. -/
def isDnsName (name : List Char) : Bool :=
  name.length ≤ 253 && (splitAtMark '.' name).all isDnsPart

/-- Whether a text is a label key: a label name, perhaps after a DNS name and a slash. -/
def isLabelKey (key : List Char) : Bool :=
  match cutAtFirst '/' key with
  | some (domain, name) => isDnsName domain && isLabelName name
  | none => isLabelName key

/-- Whether a text is a label value: nothing, or a label name. -/
def isLabelValue (value : List Char) : Bool := value.isEmpty || isLabelName value

/-- The labels that a pod must carry to be selected. -/
structure Selector where
  labels : TextMap
  deriving DecidableEq

namespace Selector

/-- The selector of one label. -/
def single (key value : String) : Selector := ⟨(∅ : TextMap).insert key value⟩

/-- Whether labels carry everything that is selected for. -/
def isMatch (selector : Selector) (labels : TextMap) : Bool :=
  selector.labels.entries.all fun (key, value) => labels.get? key == some value

/-- The terms of a text: what stands between its commas, trimmed, blank terms left out. -/
def terms (text : List Char) : List (List Char) :=
  ((splitAtMark ',' text).map trim).filter fun term => !term.isEmpty

/-- The label of a term, if it has the form `key=value` with a label key and a label value. -/
def readTerm (term : List Char) : Option (List Char × List Char) := do
  let (key, value) ← cutAtFirst '=' term
  let key := trim key
  let value := trim value
  if isLabelKey key && isLabelValue value then some (key, value) else none

/-- Bind the labels of terms into a map; a term of another form is the fault. -/
def readTerms (labels : TextMap) : List (List Char) → Except (List Char) TextMap
  | [] => .ok labels
  | term :: rest =>
    match readTerm term with
    | some (key, value) => readTerms (labels.insert (String.ofList key) (String.ofList value)) rest
    | none => .error term

/-- Read a selector from its text, which must have a term; what cannot be read is the fault. -/
def read (text : String) : Except String Selector :=
  match readTerms ∅ (terms text.toList) with
  | .error term => .error (String.ofList term)
  | .ok labels => if labels.isEmpty then .error text else .ok ⟨labels⟩

/-- Read a selector from its text as one step of an operation. -/
def parse (text : String) : Except Failure Selector := (read text).mapError .selectorParse

/-- The text of a selector, its terms in the order of their keys. -/
def render (selector : Selector) : String :=
  ",".intercalate (selector.labels.entries.map fun (key, value) => key ++ "=" ++ value)

/-- A selector as a document. -/
def toJson (selector : Selector) : Json := .ofTextMap selector.labels

/-- Read a selector from a document; any labels will do there. -/
def ofJson : Decoder Selector := fun json => (Decoder.textMap json).map Selector.mk

end Selector

end StorageConfig
