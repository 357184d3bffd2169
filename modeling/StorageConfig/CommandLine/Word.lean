import StorageConfig.Text.Split

/-! The words of a command line, told apart by their dashes. -/

namespace StorageConfig

namespace CommandLine

/-- One word of a command line. -/
inductive Word where
  /-- Two dashes alone, after which no options follow. -/
  | terminator
  /-- A name after two dashes, perhaps with a value after an equals sign. -/
  | long (name : String) (value : Option String)
  /-- A letter after a single dash; what follows it is never looked at. -/
  | short (letter : Char)
  /-- Anything else, a lone dash among it. -/
  | plain (text : String)
  deriving DecidableEq, Repr

/-- Tell a word by its dashes. -/
def Word.ofText (text : String) : Word :=
  match text.toList with
  | ['-', '-'] => .terminator
  | '-' :: '-' :: rest =>
    match cutAtFirst '=' rest with
    | some (name, value) => .long (String.ofList name) (some (String.ofList value))
    | none => .long (String.ofList rest) none
  | '-' :: letter :: _ => .short letter
  | _ => .plain text

end CommandLine

end StorageConfig
