import StorageConfig.CommandLine.Complaint
import StorageConfig.CommandLine.Word

/-!
Reading a command line.

An option is taken into account when the next option or the end follows, not when its value does.
A word that is no option is thus complained of before a bad value to its left.
-/

namespace StorageConfig

namespace CommandLine

/-- The values of the environment variables that are set. -/
abbrev Environment := String → Option String

/-- Why a reading ends before the command line does. -/
inductive Halt where
  /-- A question is to be answered. -/
  | inquiry (inquiry : Inquiry)
  /-- Something is wrong. -/
  | complaint (complaint : Complaint)
  deriving DecidableEq, Repr

/-- The options taken into account so far. -/
structure Given where
  values : List (Parameter × String)
  toggles : List Toggle
  deriving DecidableEq, Repr

namespace Given

/-- A command line without options. -/
def nothing : Given := ⟨[], []⟩

/-- Whether a value will do for a parameter: only the resync interval is no free text. -/
def check (parameter : Parameter) (value : String) : Except Complaint Unit :=
  match parameter with
  | .resyncSeconds =>
    match Count.parse value with
    | .ok _ => .ok ()
    | .error fault => .error (.noCount parameter value fault)
  | _ => .ok ()

/-- Take a value into account. -/
def give (given : Given) (parameter : Parameter) (value : String) : Except Halt Given :=
  match given.values.lookup parameter with
  | some _ => .error (.complaint (.repeated (.parameter parameter)))
  | none =>
    match check parameter value with
    | .ok () => .ok { given with values := (parameter, value) :: given.values }
    | .error complaint => .error (.complaint complaint)

/-- Take a toggle into account. -/
def set (given : Given) (toggle : Toggle) : Except Halt Given :=
  if toggle ∈ given.toggles then .error (.complaint (.repeated (.toggle toggle)))
  else .ok { given with toggles := toggle :: given.toggles }

end Given

/-- A parameter that is not taken into account yet, and its value if that has come. -/
abbrev Pending := Option (Parameter × Option String)

/-- Take into account what is pending. -/
def settle (given : Given) : Pending → Except Halt Given
  | none => .ok given
  | some (parameter, none) => .error (.complaint (.missingValue (.parameter parameter)))
  | some (parameter, some value) => given.give parameter value

/-- Read the words of a command line from left to right. -/
def readWords (given : Given) (pending : Pending) : List String → Except Halt Given
  | [] => settle given pending
  | text :: rest =>
    match Word.ofText text with
    | .terminator =>
      match rest with
      | [] => settle given pending
      | extra :: _ => .error (.complaint (.unexpectedWord extra))
    | .long name value =>
      match Choice.ofName? name, value with
      | none, _ => .error (.complaint (.unexpectedWord ("--" ++ name)))
      | some (.parameter parameter), none => do
        let given ← settle given pending
        readWords given (some (parameter, none)) rest
      | some (.parameter parameter), some value => do
        let given ← settle given pending
        let given ← given.give parameter value
        readWords given none rest
      | some (.toggle toggle), none => do
        let given ← settle given pending
        let given ← given.set toggle
        readWords given none rest
      | some (.inquiry inquiry), none => do
        let _ ← settle given pending
        .error (.inquiry inquiry)
      | some choice, some value => .error (.complaint (.unexpectedValue choice value))
    | .short letter =>
      match Inquiry.ofLetter? letter with
      | some inquiry => do
        let _ ← settle given pending
        .error (.inquiry inquiry)
      | none => .error (.complaint (.unexpectedWord (String.ofList ['-', letter])))
    | .plain text =>
      match pending with
      | some (parameter, none) => readWords given (some (parameter, some text)) rest
      | _ => .error (.complaint (.unexpectedWord text))

/-- What a command line and its environment ask for. -/
structure Arguments where
  watchedNamespace : Option String
  configMapName : String
  defaultNamespace : String
  dependents : String
  identitySingleton : String
  resyncSeconds : UInt64
  healthAddress : String
  metricsAddress : String
  logLevel : String
  logsJson : Bool
  printsDefinition : Bool

namespace Arguments

/-- The value of a parameter: from the command line, else from the environment, else the standard one. -/
def value? (environment : Environment) (given : Given) (parameter : Parameter) : Option String :=
  given.values.lookup parameter <|> environment parameter.variableName <|> parameter.standard?

/-- The value of a parameter that has a standard one. -/
def value (environment : Environment) (given : Given) (parameter : Parameter) : String :=
  (value? environment given parameter).getD ""

/-- The count of a parameter. -/
def count (environment : Environment) (given : Given) (parameter : Parameter) : Except Complaint UInt64 :=
  let text := value environment given parameter
  (Count.parse text).mapError (.noCount parameter text)

/-- Whether a toggle is on: it is given, or its variable says so. -/
def isOn (environment : Environment) (given : Given) (toggle : Toggle) : Except Complaint Bool :=
  if toggle ∈ given.toggles then .ok true
  else
    match toggle.variableName?.bind environment with
    | none => .ok false
    | some "true" => .ok true
    | some "false" => .ok false
    | some "" => .error (.missingValue (.toggle toggle))
    | some other => .error (.noTruthValue toggle other)

/-- Fill up what the command line gives with what the environment says. -/
def ofGiven (environment : Environment) (given : Given) : Except Complaint Arguments := do
  let value := value environment given
  let resyncSeconds ← count environment given .resyncSeconds
  let logsJson ← isOn environment given .logsJson
  let printsDefinition ← isOn environment given .printsDefinition
  .ok
    { watchedNamespace := value? environment given .watchedNamespace
      configMapName := value .configMapName
      defaultNamespace := value .defaultNamespace
      dependents := value .dependents
      identitySingleton := value .identitySingleton
      resyncSeconds, logsJson, printsDefinition
      healthAddress := value .healthAddress
      metricsAddress := value .metricsAddress
      logLevel := value .logLevel }

/-- Read a command line in its environment. -/
def read (environment : Environment) (words : List String) : Except Halt Arguments := do
  let given ← readWords .nothing none words
  (ofGiven environment given).mapError .complaint

/-- The settings asked for, or the faulty part of the label selector. -/
def settings (arguments : Arguments) : Except String Settings :=
  (Selector.read arguments.dependents).map fun dependents =>
    { configMapName := arguments.configMapName
      defaultNamespace := arguments.defaultNamespace
      dependents
      identitySingleton := arguments.identitySingleton
      resyncSeconds := arguments.resyncSeconds }

end Arguments

end CommandLine

end StorageConfig
