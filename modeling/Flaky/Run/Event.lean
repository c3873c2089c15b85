-- SUMMARY: Events of a run, the artifacts it writes, and the errors that end it.
import Flaky.Engine
import Flaky.Instrumentation
import Flaky.Round.Record
import Flaky.Run.Status
import Flaky.RunLog

/-!
# Run events

What a run makes known while it goes on. An artifact that cannot be written is
an event and not an error: the run goes on without it.
-/

namespace Flaky

/-! ## Artifacts -/

inductive Artifact
  | runLog
  | report
  | summary
  | junit
deriving DecidableEq

def Artifact.name : Artifact → String
  | .runLog => "run log"
  | .report => "report"
  | .summary => "summary"
  | .junit => "JUnit report"

inductive ArtifactError
  | runLog (error : RunLogError)
  /-- The report could not be written. -/
  | bare (cause : IoError)
  | file (path : String) (cause : IoError)
  /-- The summary could not be written while it was made. -/
  | summary (path : String) (cause : IoError)
  /-- The JUnit report was opened but could not be written. -/
  | junit (path : String) (cause : IoError)
deriving DecidableEq

namespace ArtifactError

def message : ArtifactError → String
  | .runLog error => error.message
  | .bare cause => cause.text
  | .file path _ => s!"error writing to `{path}`"
  | .summary path _ => s!"error serializing summary to `{path}`"
  | .junit path _ => s!"error writing JUnit output to `{path}`"

/-- What lies behind the error, outermost first. -/
def causes : ArtifactError → List String
  | .runLog error => error.causes
  | .bare _ => []
  | .file _ cause | .summary _ cause => [cause.text]
  | .junit _ cause => ["error serializing JUnit report", cause.text]

end ArtifactError

/-- An error with everything that lies behind it, on one line. -/
def chainText (message : String) (causes : List String) : String :=
  String.intercalate ": " (message :: causes)

def ArtifactError.chain (error : ArtifactError) : String := chainText error.message error.causes

/-! ## Events -/

inductive RunEvent
  | runStarted (runId : Uuid) (maxRounds : Nat) (baseSeed : Seed)
  | instrumentationReady (directory : String)
  | roundStarted (round : Round) (maxRounds : Nat)
  | roundFinished (record : RoundRecord) (result : RoundResult)
  | runAborted (reason : AbortReason)
  | artifactWritten (artifact : Artifact) (path : String)
  | artifactFailed (artifact : Artifact) (path : String) (error : ArtifactError)
  | runFinished (runId : Uuid) (status : RunStatus) (roundsRun : Nat)
      (baselineFailures flaky : OrderedSet TestId)
deriving DecidableEq

/-! ## Errors -/

/-- What ends a run without an outcome. -/
inductive RunError
  /-- The directory of the run or of a round cannot be created. -/
  | directory (path : String) (cause : IoError)
  | instrumentation (error : InstrumentationError)
  | engine (id : ExecutionId) (error : EngineError)
deriving DecidableEq

namespace RunError

def message : RunError → String
  | .directory path _ => s!"failed to create run directory `{path}`"
  | .instrumentation _ => "failed to materialize instrumentation"
  | .engine id _ => s!"execution engine failed for round {id.text}"

/-- The kind of the error, in a word. -/
def kind : RunError → String
  | .directory _ _ => "run-dir"
  | .instrumentation _ => "instrumentation"
  | .engine _ _ => "engine"

/-- What lies behind the error, outermost first. -/
def causes : RunError → List String
  | .directory _ cause => [cause.text]
  | .instrumentation error => error.message :: error.causes
  | .engine _ error => error.message :: error.causes

end RunError

end Flaky
