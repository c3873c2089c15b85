-- SUMMARY: The log entries that events of a run give.
import Flaky.Run.Event

/-!
# Events in the log
-/

namespace Flaky

/-- The text of a number that may be missing. -/
def optionText : Option Nat → String
  | none => "None"
  | some n => s!"Some({n})"

def boolText (b : Bool) : String := if b then "true" else "false"

def RunEvent.logEntry : RunEvent → LogEntry
  | .runStarted runId maxRounds baseSeed =>
    ⟨.events, .info, "starting flakehunt run",
      [("run_id", runId.text), ("max_rounds", toString maxRounds), ("base_seed", baseSeed.text)]⟩
  | .instrumentationReady directory =>
    ⟨.events, .debug, "instrumentation materialized", [("artifact_dir", directory)]⟩
  | .roundStarted round maxRounds =>
    ⟨.events, .debug, s!"starting {round.name}",
      [("execution_id", round.id.text), ("max_rounds", toString maxRounds)]⟩
  | .roundFinished record result =>
    ⟨.events, .info, s!"finished {record.round.name}",
      [("execution_id", record.round.id.text), ("index", optionText record.round.index?),
        ("seed", optionText (record.round.seed?.map Seed.toNat)),
        ("passed", toString record.passed.size), ("failed", toString record.failed.size),
        ("recovered", toString record.recovered.size),
        ("non_retried", toString result.nonRetried.size)]⟩
  | .runAborted reason => ⟨.events, .warn, reason.message, []⟩
  | .artifactWritten artifact path =>
    ⟨.events, .debug, s!"wrote {artifact.name}", [("path", path)]⟩
  | .artifactFailed artifact path error =>
    ⟨.events, .warn, s!"could not write {artifact.name} to {path}: {error.chain}", []⟩
  | .runFinished runId status roundsRun baselineFailures flaky =>
    ⟨.events, .info, "flakehunt run finished",
      [("run_id", runId.text), ("aborted", boolText status.isAborted),
        ("rounds_run", toString roundsRun),
        ("baseline_failures", toString baselineFailures.size), ("flaky", toString flaky.size)]⟩

end Flaky
