-- SUMMARY: Finished rounds: a round with what it showed, and the subtraction of the failures of the baseline.
import Flaky.Round
import Flaky.Tally

/-!
# Round records

A record keeps the tests that failed and passed in a round. Tests that fail
without perturbation are moved out of a seeded round's failures, but stay on
record; the number of tests that the round executed does not change.
-/

namespace Flaky

structure RoundRecord where
  round : Round
  failed : OrderedSet TestId
  passed : OrderedSet TestId
  /-- The tests that passed after failing in an earlier round. -/
  recovered : OrderedSet TestId
  /-- The tests that failed, and fail without perturbation too. -/
  alsoFailedInBaseline : OrderedSet TestId
deriving DecidableEq

/-- The record of a round that has finished. -/
def Round.complete (round : Round) (result : RoundResult) : RoundRecord :=
  ⟨round, .ofList result.failed.testIds, result.passed, result.recovered, .empty⟩

namespace RoundRecord

/-- The number of tests executed. -/
def executed (record : RoundRecord) : Nat :=
  record.failed.size + record.alsoFailedInBaseline.size + record.passed.size

/-- Move the failures that the baseline has too out of a seeded round's failures, and say how many
    were moved. The baseline's own record stays as it is. -/
def subtractBaseline (record : RoundRecord) (baselineFailures : OrderedSet TestId) :
    RoundRecord × Nat :=
  if record.round.isBaseline then (record, 0)
  else
    let shared := record.failed.inter baselineFailures
    ({ record with
        failed := record.failed.diff baselineFailures
        alsoFailedInBaseline := record.alsoFailedInBaseline.union shared }, shared.size)

end RoundRecord

end Flaky
