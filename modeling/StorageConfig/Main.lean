import StorageConfig.CommandLine.Launch
import Std.Time.DateTime.Timestamp

/-! The program itself: a command line and an environment in, lines and an exit code out. -/

open StorageConfig
open StorageConfig.CommandLine

/-- The environment variables that the program asks for. -/
def variableNames : List String :=
  Parameter.all.map Parameter.variableName ++ Toggle.all.filterMap Toggle.variableName?
    ++ [LogFilter.variableName]

/-- The variables that are set, with their values. -/
def readEnvironment : IO (List (String × String)) :=
  variableNames.filterMapM fun name => do
    return (← IO.getEnv name).map (name, ·)

/-- Write a line, log entries with the time of the day. -/
def writeLine (line : OutputLine) : IO Unit := do
  let now ← Std.Time.Timestamp.now
  let microseconds := now.toNanosecondsSinceUnixEpoch.val / 1000
  IO.println (line.render (OutputLine.stamp (microseconds / 1000000) (microseconds % 1000000).toNat))

/-- Run the program on the arguments it is called with. -/
def main (words : List String) : IO UInt32 := do
  let found ← readEnvironment
  let outcome := launch (fun name => found.lookup name) words
  outcome.output.forM writeLine
  outcome.faults.forM fun line => IO.eprintln line
  return outcome.code.toUInt32
