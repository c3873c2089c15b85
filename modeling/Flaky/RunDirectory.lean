-- SUMMARY: Where a run keeps its files inside a store.
import Flaky.Path
import Flaky.Uuid

/-!
# Run directories

A store holds the artifact of the instrumentation and one directory for each
run, named after the run's id.
-/

namespace Flaky

structure RunDirectory where
  store : String
  runId : Uuid
deriving DecidableEq

namespace RunDirectory

/-- The directory of all runs of a store. -/
def allRuns (store : String) : String := Path.join store "runs"

/-- The directory of a store's instrumentation artifact. -/
def artifacts (store : String) : String := Path.join store "instrumentation"

def runLogName : String := "run.log"

def path (dir : RunDirectory) : String := Path.join (allRuns dir.store) dir.runId.text

def runLog (dir : RunDirectory) : String := Path.join dir.path runLogName

def report (dir : RunDirectory) : String := Path.join dir.path "report.md"

def summary (dir : RunDirectory) : String := Path.join dir.path "summary.json"

end RunDirectory

end Flaky
