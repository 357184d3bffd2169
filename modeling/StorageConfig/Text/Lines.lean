import StorageConfig.Text.Split

/-! Texts as lines: a line feed ends each, with a carriage return before it as part of the break. -/

namespace StorageConfig

/-- A line that ended with a line feed, without the rest of its break. -/
def dropReturn (line : List Char) : List Char :=
  if line.getLast? = some '\r' then line.dropLast else line

/-- The lines of a text, of which the last need not be ended. -/
def textLines (text : String) : List String :=
  let parts := splitAtMark '\n' text.toList
  let ended := parts.dropLast.map dropReturn
  -- What follows the last line feed is a line only if there is something.
  (ended ++ (parts.getLast?.toList.filter fun rest => !rest.isEmpty)).map String.ofList

/-- The first line of a text, empty where there is none. -/
def firstLine (text : String) : String := (textLines text).head?.getD ""

end StorageConfig
