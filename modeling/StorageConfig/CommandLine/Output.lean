import StorageConfig.Json.Printer
import StorageConfig.Text.Lines
import StorageConfig.Text.Lowercase
import StorageConfig.Timestamp

/-! The lines that the program writes, log entries among them. -/

namespace StorageConfig

namespace CommandLine

/-- How important a log entry is, the least first. -/
inductive LogLevel where
  | trace
  | debug
  | info
  | warn
  | error
  deriving DecidableEq, Repr

namespace LogLevel

/-- The place of a level in the order of importance. -/
def rank : LogLevel → Nat
  | trace => 0
  | debug => 1
  | info => 2
  | warn => 3
  | error => 4

/-- The level that a text asks for, in upper or lower case; an unknown one asks for information. -/
def ofText (text : String) : LogLevel :=
  match lowercase text with
  | "trace" => .trace
  | "debug" => .debug
  | "warn" => .warn
  | "error" => .error
  | _ => .info

/-- How a level is written. -/
def name : LogLevel → String
  | trace => "TRACE"
  | debug => "DEBUG"
  | info => "INFO"
  | warn => "WARN"
  | error => "ERROR"

end LogLevel

/-- How log entries are written. -/
inductive LogForm where
  | text
  | json
  deriving DecidableEq, Repr

/-- Something worth telling about a run. -/
structure LogEntry where
  level : LogLevel
  /-- The part of the program that tells it. -/
  source : String
  message : String
  deriving DecidableEq, Repr

/-- A line of the output. -/
inductive OutputLine where
  | plain (text : String)
  | log (form : LogForm) (entry : LogEntry)
  deriving DecidableEq, Repr

namespace OutputLine

/-- How a character of a message is shown on a terminal: none may control it. -/
def showChar (c : Char) : String :=
  match c with
  | '\x07' => "\\x07"
  | '\x08' => "\\x08"
  | '\x0c' => "\\x0c"
  | '\x1b' => "\\x1b"
  | '\x7f' => "\\x7f"
  | c => if 0x80 ≤ c.toNat ∧ c.toNat ≤ 0x9F then "\\u\x7b" ++ hexDigits c.toNat ++ "\x7d" else c.toString

/-- The lines of a message, the last of which is ended too. -/
def messageLines (message : String) : List String :=
  (textLines (message ++ "\n")).map fun line => String.join (line.toList.map showChar)

/-- The lines of a log entry: a message in text form may run over several, and only the first tells its level. -/
def ofEntry (form : LogForm) (entry : LogEntry) : List OutputLine :=
  match form with
  | .json => [.log .json entry]
  | .text =>
    match messageLines entry.message with
    | [] => []
    | first :: rest => .log .text { entry with message := first } :: rest.map .plain

/-- An instant as it stands in a log, to the microsecond. -/
def stamp (seconds : Int) (microseconds : Nat) : String :=
  let instant : Timestamp := ⟨seconds, false⟩
  String.ofList instant.render.toList.dropLast ++ "." ++ Timestamp.padded 6 microseconds ++ "Z"

/-- A level in a column of five characters. -/
def column (level : LogLevel) : String :=
  String.ofList (List.replicate (5 - level.name.length) ' ') ++ level.name

/-- The text of a line that is written at an instant. -/
def render (instant : String) : OutputLine → String
  | plain text => text
  | log .text entry => instant ++ " " ++ column entry.level ++ " " ++ entry.source ++ ": " ++ entry.message
  | log .json entry =>
    (Json.obj [("timestamp", .str instant), ("level", .str entry.level.name),
      ("fields", .obj [("message", .str entry.message)]), ("target", .str entry.source)]).render

end OutputLine

end CommandLine

end StorageConfig
