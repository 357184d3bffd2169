import StorageConfig.CommandLine.Arguments

/-! What the program tells about itself, styled for a terminal. -/

namespace StorageConfig

namespace CommandLine

namespace Help

/-- A heading. -/
def heading (text : String) : String := Terminal.styled [1, 4] text

/-- What a variable says, as far as the help shows it. -/
def variableNote (environment : Environment) (name : String) : String :=
  " [env: " ++ name ++ "=" ++ (environment name).getD "" ++ "]"

/-- The lines of one option: how it is written, and below that what it is for. -/
def entry (usage description : String) : List String :=
  -- A value from the environment may run over several lines, which stay in one column.
  usage :: (splitAtMark '\n' description.toList).map fun line => "          " ++ String.ofList line

/-- The lines of a parameter. -/
def parameterLines (environment : Environment) (parameter : Parameter) : List String :=
  entry ("      " ++ Terminal.bold ("--" ++ parameter.name) ++ " <" ++ parameter.placeholder ++ ">")
    (parameter.purpose ++ variableNote environment parameter.variableName
      ++ (parameter.standard?.elim "" fun standard => " [default: " ++ standard ++ "]"))

/-- The lines of a toggle. -/
def toggleLines (environment : Environment) (toggle : Toggle) : List String :=
  entry ("      " ++ Terminal.bold ("--" ++ toggle.name))
    (toggle.purpose ++ toggle.variableName?.elim "" (variableNote environment))

/-- The lines of an inquiry. -/
def inquiryLines (inquiry : Inquiry) : List String :=
  entry ("  " ++ Terminal.bold (String.ofList ['-', inquiry.letter]) ++ ", "
    ++ Terminal.bold ("--" ++ inquiry.name)) inquiry.purpose

/-- The help on all options. -/
def lines (environment : Environment) : List String :=
  ["Reconciles CSI operator configuration derived from StorageCluster specs", "",
    heading "Usage:" ++ " " ++ Terminal.bold programName ++ " [OPTIONS]", "", heading "Options:"]
    ++ Parameter.all.flatMap (parameterLines environment) ++ Toggle.all.flatMap (toggleLines environment)
    ++ Inquiry.all.flatMap inquiryLines

end Help

/-- The text that answers an inquiry, styled for a terminal. -/
def Inquiry.answer (environment : Environment) : Inquiry → String
  | help => "\n".intercalate (Help.lines environment)
  | version => programName ++ " " ++ programVersion

end CommandLine

end StorageConfig
