import StorageConfig.Json
import StorageConfig.Decimal.Shortest
import StorageConfig.Text.Quoted

/-! The compact text of a document, members in the order they are held. -/

namespace StorageConfig

namespace Json

/-- How a character stands inside a text of a document. -/
def escapeChar (c : Char) : String :=
  match c with
  | '\"' => "\\\""
  | '\\' => "\\\\"
  | '\n' => "\\n"
  | '\r' => "\\r"
  | '\t' => "\\t"
  | '\x08' => "\\b"
  | '\x0c' => "\\f"
  | c =>
    if c.toNat < 0x20 then
      "\\u00" ++ (if c.toNat < 0x10 then "0" else "") ++ hexDigits c.toNat
    else c.toString

/-- A text of a document, in its quotes. -/
def renderText (text : String) : String :=
  text.foldl (fun out c => out ++ escapeChar c) "\"" ++ "\""

/-- A number of a document. -/
def Number.render : Number → String
  | .integer value => toString value
  | .floating value => value.documentText

mutual

/-- The compact text of a document, in which what has no value is null. -/
def render : Json → String
  | flawed => "null"
  | null => "null"
  | bool true => "true"
  | bool false => "false"
  | num value => value.render
  | str text => renderText text
  | arr items => "[" ++ renderItems items ++ "]"
  | obj members => "\x7b" ++ renderMembers members ++ "\x7d"

/-- The items of an array, with commas between. -/
def renderItems : List Json → String
  | [] => ""
  | [item] => item.render
  | item :: items => item.render ++ "," ++ renderItems items

/-- The members of an object, with commas between. -/
def renderMembers : List (String × Json) → String
  | [] => ""
  | [(name, value)] => renderText name ++ ":" ++ value.render
  | (name, value) :: members =>
    renderText name ++ ":" ++ value.render ++ "," ++ renderMembers members

end

end Json

end StorageConfig
