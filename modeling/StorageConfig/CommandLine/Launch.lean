import StorageConfig.CommandLine.Help
import StorageConfig.CommandLine.LogFilter
import StorageConfig.StorageCluster.Definition
import StorageConfig.Yaml

/-! A run of the program from its command line up to the connection with an API server. -/

namespace StorageConfig

namespace CommandLine

/-- What a run leaves behind. -/
structure Outcome where
  /-- The exit code. -/
  code : UInt8
  output : List OutputLine
  /-- The lines of the error output. -/
  faults : List String
  deriving DecidableEq, Repr

namespace Outcome

/-- A run that prints lines that were asked for. -/
def printing (lines : List String) : Outcome := ⟨0, lines.map .plain, []⟩

/-- A run that ends with a complaint, of which the first line is shown. -/
def complaining (complaint : Complaint) : Outcome := ⟨2, [], [firstLine (Terminal.plain complaint.text)]⟩

end Outcome

/-- Why a start fails. -/
inductive StartFault where
  /-- The label selector has a part that is no term. -/
  | badSelector (part : String)
  /-- There is no API server to connect with. -/
  | noServer
  deriving DecidableEq, Repr

/-- The wording of a start fault. -/
def StartFault.message : StartFault → String
  | badSelector part => "SelectorParse(" ++ quoted part ++ ")"
  | noServer => "Kube"

/-- The part of the program that tells of its start. -/
def logSource : String := "storage_config_operator"

/-- What is told about a start. -/
def greetings (settings : Settings) : List String :=
  ["Starting Storage Config Operator",
    "  Version: " ++ programVersion,
    "  Config map: " ++ settings.configMapName,
    "  Dependent selector: " ++ settings.dependents.render,
    "  Resync interval: " ++ toString settings.resyncSeconds ++ "s"]

/-- The lines that tell of a start, as far as they are to be written. -/
def startLines (form : LogForm) (filter : LogFilter) (settings : Settings) : List OutputLine :=
  let entries := (greetings settings).map fun message => (⟨.info, logSource, message⟩ : LogEntry)
  (entries.filter filter.admits).flatMap (OutputLine.ofEntry form)

/-- Start as the arguments and the environment say, with no API server in reach. -/
def start (environment : Environment) (arguments : Arguments) : Outcome :=
  let form := if arguments.logsJson then .json else .text
  let (directives, warnings) := LogFilter.read ((environment LogFilter.variableName).getD "")
  let filter := directives ++ LogFilter.standing (.ofText arguments.logLevel)
  let (output, fault) :=
    match arguments.settings with
    | .ok settings => (startLines form filter settings, StartFault.noServer)
    | .error part => ([], .badSelector part)
  ⟨1, output, warnings.flatMap textLines ++ ["Error: " ++ fault.message]⟩

/-- Run the program. -/
def launch (environment : Environment) (words : List String) : Outcome :=
  match Arguments.read environment words with
  | .error (.inquiry inquiry) => .printing (textLines (Terminal.plain (inquiry.answer environment)))
  | .error (.complaint complaint) => .complaining complaint
  | .ok arguments =>
    if arguments.printsDefinition then .printing (Yaml.lines StorageCluster.definition)
    else start environment arguments

end CommandLine

end StorageConfig
