-- SUMMARY: What a finished run is reported from: its records, its status and its times, and the tests found flaky.
import Flaky.Round.Record
import Flaky.Run.Status
import Flaky.Timestamp

/-!
# Finished runs

A test is flaky if it failed in some seeded round and not in the baseline. The
records of a finished run have had the failures of the baseline subtracted.
-/

namespace Flaky

structure FinishedRun where
  runId : Uuid
  baseSeed : Seed
  maxRounds : Nat
  status : RunStatus
  baseline : RoundRecord
  rounds : List RoundRecord
  startedAt : Timestamp
  /-- How long the run took, in milliseconds. -/
  elapsed : Nat

/-- The failures of all seeded rounds together. -/
def aggregateFailures (records : List RoundRecord) : OrderedSet TestId :=
  (records.filter fun r => !r.round.isBaseline).foldl (fun set r => set.union r.failed) .empty

namespace FinishedRun

def baselineFailures (run : FinishedRun) : OrderedSet TestId := run.baseline.failed

def flaky (run : FinishedRun) : OrderedSet TestId := aggregateFailures run.rounds

def records (run : FinishedRun) : List RoundRecord := run.baseline :: run.rounds

end FinishedRun

end Flaky
