import StorageConfig.Json.Printer

/-!
Documents as YAML in block style.

Sequences stand at the column of their key, empty containers in flow style, and a text goes without quotes
where it can be read as nothing but that text.
-/

namespace StorageConfig

namespace Yaml

/-- The words that stand for something other than a text. -/
def reservedWords : List String :=
  ["", "~", "null", "Null", "NULL", "true", "True", "TRUE", "false", "False", "FALSE", ".nan", ".NaN", ".NAN",
    ".inf", ".Inf", ".INF", "-.inf", "-.Inf", "-.INF", "+.inf", "+.Inf", "+.INF", "<<", "=",
    "y", "Y", "yes", "Yes", "YES", "n", "N", "no", "No", "NO", "on", "On", "ON", "off", "Off", "OFF"]

/-- The characters that mark something other than a plain text at its start. -/
def isIndicator (c : Char) : Bool := "-?:,[]\x7b\x7d#&*!|>\'\"%@`".toList.contains c

/-- Whether a text looks like a number from its start. -/
def looksNumeric : List Char → Bool
  | '+' :: c :: _ | '-' :: c :: _ | '.' :: c :: _ => c.isDigit || c == '.'
  | c :: _ => c.isDigit
  | [] => false

/-- Whether a colon or a number sign in a text would end it. -/
def hasSeparator : List Char → Bool
  | ':' :: ' ' :: _ | ' ' :: '#' :: _ | [':'] => true
  | _ :: rest => hasSeparator rest
  | [] => false

/-- Whether a text needs no quotes; only texts of printable ASCII characters do without. -/
def isPlain (text : String) : Bool :=
  let chars := text.toList
  !reservedWords.contains text && !chars.head?.any isIndicator && !looksNumeric chars && !hasSeparator chars
    && chars.head? != some ' ' && chars.getLast? != some ' '
    && chars.all fun c => 0x20 ≤ c.toNat && c.toNat < 0x7F

/-- A text in quotes: single ones where nothing needs an escape. -/
def quotedText (text : String) : String :=
  if text.toList.all fun c => 0x20 ≤ c.toNat && c.toNat < 0x7F then
    "\'" ++ String.join (text.toList.map fun c => if c = '\'' then "\'\'" else c.toString) ++ "\'"
  else Json.renderText text

/-- A text. -/
def scalarText (text : String) : String := if isPlain text then text else quotedText text

/-- A value that fits on the line of its key or dash. -/
def inlineText? : Json → Option String
  | .null | .flawed => some "null"
  | .bool value => some (if value then "true" else "false")
  | .num value => some value.render
  | .str text => some (scalarText text)
  | .arr [] => some "[]"
  | .obj [] => some "\x7b\x7d"
  | .arr _ | .obj _ => none

/-- Lines moved to the right. -/
def indent (lines : List String) : List String := lines.map ("  " ++ ·)

/-- The first line after a dash, the others below it. -/
def dashed : List String → List String
  | [] => ["-"]
  | first :: rest => ("- " ++ first) :: indent rest

mutual

/-- The lines of a value. -/
def lines : Json → List String
  | .arr items => if items.isEmpty then ["[]"] else itemLines items
  | .obj members => if members.isEmpty then ["\x7b\x7d"] else memberLines members
  | scalar => (inlineText? scalar).toList

/-- The lines of the items of a sequence. -/
def itemLines : List Json → List String
  | [] => []
  | item :: items => dashed (lines item) ++ itemLines items

/-- The lines of the members of a mapping. -/
def memberLines : List (String × Json) → List String
  | [] => []
  | (name, value) :: members =>
    let below := lines value
    let entry :=
      match inlineText? value, value with
      | some text, _ => [scalarText name ++ ": " ++ text]
      | none, .arr _ => (scalarText name ++ ":") :: below
      | none, _ => (scalarText name ++ ":") :: indent below
    entry ++ memberLines members

end

end Yaml

end StorageConfig
