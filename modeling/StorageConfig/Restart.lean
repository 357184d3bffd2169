import StorageConfig.Collaborators

/-! Terminating the pods that depend on the settings, so that they come back with the new ones. -/

namespace StorageConfig

/-- How far a restart got. -/
structure RestartReport where
  /-- How many pods were found. -/
  listed : Nat
  /-- How many were asked to terminate without a failure. -/
  terminated : Nat
  /-- Whether a failure cut the restart short. -/
  aborted : Bool
  deriving DecidableEq, Repr

namespace RestartReport

/-- Whether pods may still run with the earlier settings. -/
def isIncomplete (report : RestartReport) : Bool := report.aborted || report.listed == 0

/-- A report as a document. -/
def toJson (report : RestartReport) : Json :=
  .obj [("listed", .nat report.listed), ("terminated", .nat report.terminated),
    ("aborted", .bool report.aborted)]

/-- The fields of a report. -/
def fields : Record RestartReport :=
  RestartReport.mk <$> .required "listed" Decoder.count <*> .required "terminated" Decoder.count
    <*> .required "aborted" Decoder.flag

/-- Read a report from a document. -/
def ofJson : Decoder RestartReport := fields.decode "RestartReport"

end RestartReport

/-- Terminate pods in order up to the first failure; the result counts the successes and tells of a failure. -/
def terminateInTurn {σ : Type} (world : Collaborators σ) : List PodRef → Action σ (Nat × Bool)
  | [] => pure (0, false)
  | pod :: pods => do
    match ← (world.terminate pod).attempt with
    | .error _ => pure (0, true)
    | .ok () =>
      let (count, aborted) ← terminateInTurn world pods
      pure (count + 1, aborted)

/-- Terminate every pod of a namespace that the selector matches; failures end up in the report. -/
def restartDependents {σ : Type} (world : Collaborators σ) (namespaceName : String) (selector : Selector) :
    Action σ RestartReport := do
  match ← (world.list namespaceName selector).attempt with
  | .error _ => pure ⟨0, 0, true⟩
  | .ok pods =>
    let (terminated, aborted) ← terminateInTurn world pods
    pure ⟨pods.length, terminated, aborted⟩

end StorageConfig
