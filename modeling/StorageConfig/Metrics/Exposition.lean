import StorageConfig.Decimal.Shortest
import StorageConfig.Metrics

/-! The lines in which metrics are shown to a scraper: families and series in the order of their names. -/

namespace StorageConfig

namespace Metrics

/-- The name of the family that counts restarted pods. -/
def podsRestartedName : String := "operator_config_dependent_pods_restarted_total"

/-- The name of the family that counts restarts cut short. -/
def restartsAbortedName : String := "operator_config_dependent_restarts_aborted_total"

/-- The name of the family of durations. -/
def durationName : String := "operator_config_reconcile_duration_seconds"

/-- The name of the family that counts passes. -/
def passesName : String := "operator_config_reconcile_passes_total"

/-- The families, in the order they are registered. -/
def familyNames : List String := [passesName, podsRestartedName, restartsAbortedName, durationName]

/-- Register the families beside those of a registry, of which none may have one of their names. -/
def register (registered : List String) : Except Failure (List String) :=
  if familyNames.any registered.contains then
    .error (.internal "metrics registration failed: Duplicate metrics collector registration attempted")
  else .ok (registered ++ familyNames)

/-- A float as a sample value. -/
def sampleText (value : Float) : String := (Binary64.ofFloat value).plainText

/-- A counter as a sample value, rounded to binary64. -/
def counterText (value : UInt64) : String := sampleText value.toFloat

/-- A label value, with what would end it or its line escaped. -/
def escapeLabel (value : String) : String :=
  String.join (value.toList.map fun
    | '\\' => "\\\\"
    | '\"' => "\\\""
    | '\n' => "\\n"
    | c => c.toString)

/-- A label in braces. -/
def label (name value : String) : String := "\x7b" ++ name ++ "=\"" ++ escapeLabel value ++ "\"\x7d"

/-- The lines of a family that has series. -/
def family (name help type : String) (samples : List String) : List String :=
  if samples.isEmpty then []
  else ["# HELP " ++ name ++ " " ++ help, "# TYPE " ++ name ++ " " ++ type] ++ samples

/-- The samples of a histogram. -/
def histogramSamples (name : String) (histogram : Histogram) : List String :=
  let bucket (bound : String) (within : UInt64) :=
    name ++ "_bucket" ++ label "le" bound ++ " " ++ counterText within
  List.zipWith (fun bound within => bucket (sampleText bound) within) Histogram.bounds histogram.withinBounds
    ++ [bucket "+Inf" histogram.count,
      name ++ "_sum " ++ sampleText histogram.sum,
      name ++ "_count " ++ counterText histogram.count]

/-- All lines. -/
def exposition (metrics : Metrics) : List String :=
  family podsRestartedName "Dependent pods deleted to pick up new config" "counter"
      [podsRestartedName ++ " " ++ counterText metrics.podsRestarted]
    ++ family restartsAbortedName "Dependent restarts stopped early by a registry failure" "counter"
      [restartsAbortedName ++ " " ++ counterText metrics.restartsAborted]
    ++ family durationName "Duration of reconciliation passes" "histogram"
      (histogramSamples durationName metrics.duration)
    ++ family passesName "Reconciliation passes by outcome" "counter"
      (metrics.passes.map fun (outcome, count) =>
        passesName ++ label "outcome" outcome ++ " " ++ counterText count)

end Metrics

end StorageConfig
