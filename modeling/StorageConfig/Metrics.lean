import StorageConfig.Failure
import StorageConfig.Pass

/-! Counting passes, restarts and how long passes take. -/

namespace StorageConfig

/-- How many observations stayed within each of a few bounds. -/
structure Histogram where
  /-- For each bound the number of observations up to it. -/
  withinBounds : List UInt64
  count : UInt64
  sum : Float

namespace Histogram

/-- The bounds, in seconds. -/
def bounds : List Float := [0.005, 0.01, 0.025, 0.05, 0.1, 0.25, 0.5, 1, 2.5, 5, 10]

/-- The histogram without observations. -/
def empty : Histogram := ⟨bounds.map fun _ => 0, 0, 0⟩

/-- The histogram with one more observation. -/
def observe (histogram : Histogram) (seconds : Float) : Histogram :=
  { withinBounds := List.zipWith (fun bound within => if seconds ≤ bound then within + 1 else within)
      bounds histogram.withinBounds
    count := histogram.count + 1
    sum := histogram.sum + seconds }

end Histogram

/-- What has been counted so far; counters start again at zero beyond 64 bits. -/
structure Metrics where
  /-- Passes by outcome, in the order of the outcomes' names. -/
  passes : List (String × UInt64)
  podsRestarted : UInt64
  restartsAborted : UInt64
  duration : Histogram

namespace Metrics

/-- Nothing counted yet. -/
def empty : Metrics := ⟨[], 0, 0, .empty⟩

/-- How many passes ended in an outcome. -/
def passCount (metrics : Metrics) (outcome : String) : UInt64 :=
  ((metrics.passes.find? fun entry => entry.1 == outcome).map (·.2)).getD 0

/-- Count a pass under its outcome. -/
def countPass (metrics : Metrics) (outcome : String) : Metrics :=
  { metrics with passes := bindKey outcome (metrics.passCount outcome + 1) metrics.passes }

/-- Count restarted pods. -/
def countRestarted (metrics : Metrics) (pods : UInt64) : Metrics :=
  { metrics with podsRestarted := metrics.podsRestarted + pods }

/-- Count a restart that was cut short. -/
def countAborted (metrics : Metrics) : Metrics :=
  { metrics with restartsAborted := metrics.restartsAborted + 1 }

/-- Take note of the duration of a pass. -/
def observe (metrics : Metrics) (seconds : Float) : Metrics :=
  { metrics with duration := metrics.duration.observe seconds }

/-- Count what a restart did. -/
def recordRestart (metrics : Metrics) (report : RestartReport) : Metrics :=
  let counted := metrics.countRestarted (UInt64.ofNat report.terminated)
  if report.aborted then counted.countAborted else counted

/-- The word under which the result of a pass is counted. -/
def outcomeName : Except Failure PassOutcome → String
  | .ok outcome => if outcome.changed then "changed" else "unchanged"
  | .error _ => "error"

/-- Count a pass by its result and duration. -/
def recordPass (metrics : Metrics) (seconds : Float) (result : Except Failure PassOutcome) : Metrics :=
  let counted := (metrics.observe seconds).countPass (outcomeName result)
  match result with
  | .ok ⟨_, _, some report⟩ => counted.recordRestart report
  | _ => counted

end Metrics

/-- A world, and the metrics in which its passes are counted, if they are. -/
structure Monitored (σ : Type) where
  world : σ
  metrics : Option Metrics

namespace Monitored

/-- An action on the world alone. -/
def onWorld {σ α : Type} (action : Action σ α) : Action (Monitored σ) α :=
  ⟨fun state =>
    let (result, world) := action.run state.world
    (result, { state with world })⟩

end Monitored

/-- Run a pass that takes the given time, and count it. -/
def runMonitoredPass {σ : Type} (world : Collaborators σ) (settings : Settings) (seconds : Float)
    (cluster : StorageCluster) : Action (Monitored σ) PassOutcome :=
  ⟨fun state =>
    let (result, after) := (runPass world settings cluster).run state.world
    (result, ⟨after, state.metrics.map fun metrics => metrics.recordPass seconds result⟩)⟩

end StorageConfig
