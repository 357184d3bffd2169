import StorageConfig.CommandLine.Choice
import StorageConfig.Decimal.Count
import StorageConfig.Text.Terminal

/-! What can be wrong with a command line or its environment, and how it is worded. -/

namespace StorageConfig

namespace CommandLine

/-- What is wrong with a command line or its environment. -/
inductive Complaint where
  /-- A word is no option, and no value is awaited. -/
  | unexpectedWord (word : String)
  /-- An option without values is given one. -/
  | unexpectedValue (choice : Choice) (value : String)
  /-- A value is awaited, and there is none. -/
  | missingValue (choice : Choice)
  /-- An option is given twice. -/
  | repeated (choice : Choice)
  /-- A value is no count. -/
  | noCount (parameter : Parameter) (value : String) (fault : CountFault)
  /-- A value is neither true nor false. -/
  | noTruthValue (toggle : Toggle) (value : String)
  deriving DecidableEq, Repr

namespace Complaint

/-- How a word that will not do is marked. -/
def marked (word : String) : String := "\'" ++ Terminal.styled [33] word ++ "\'"

/-- How the option that a complaint is about is marked. -/
def named (choice : Choice) : String := "\'" ++ Terminal.bold choice.usage ++ "\'"

/-- How a bad value is shown. -/
def badValue (value : String) (choice : Choice) : String :=
  "invalid value " ++ marked value ++ " for " ++ named choice

/-- The wording of a complaint, styled for a terminal. -/
def message : Complaint → String
  | unexpectedWord word => "unexpected argument " ++ marked word ++ " found"
  | unexpectedValue choice value =>
    "unexpected value " ++ marked value ++ " for " ++ named choice ++ " found; no more were expected"
  | missingValue choice => "a value is required for " ++ named choice ++ " but none was supplied"
  | repeated choice => "the argument " ++ named choice ++ " cannot be used multiple times"
  | noCount parameter value fault => badValue value (.parameter parameter) ++ ": " ++ fault.message
  | noTruthValue toggle value => badValue value (.toggle toggle)

/-- What is written about a complaint, styled for a terminal. -/
def text (complaint : Complaint) : String :=
  Terminal.styled [1, 31] "error:" ++ " " ++ complaint.message

end Complaint

end CommandLine

end StorageConfig
