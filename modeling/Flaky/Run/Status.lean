-- SUMMARY: How the rounds of a run ended, and what is said of a run that stopped early.
import Flaky.Failure
import Flaky.TestId
import Flaky.Text.Plural

/-!
# Run status
-/

namespace Flaky

/-- Why the rounds stopped early. -/
inductive AbortReason
  /-- Tests failed in ways that rule out a retry. -/
  | nonRetried (tests : List (TestId × NoRetry))
  /-- The settings ask to stop after the first seeded round. -/
  | simulated
deriving DecidableEq

inductive RunStatus
  | completed
  | aborted (reason : AbortReason)
deriving DecidableEq

namespace AbortReason

/-- What is said of a run that stopped for the reason. -/
def message : AbortReason → String
  | .nonRetried tests =>
    s!"could not determine flakiness for {tests.length} {Text.tests tests.length}:\n" ++
      String.intercalate "\n" (tests.map fun (id, reason) => s!"   {id.text} ({reason.text})")
  | .simulated => "could not determine flakiness: run stopped by the simulate-non-retryable setting"

end AbortReason

namespace RunStatus

def isAborted : RunStatus → Bool
  | .completed => false
  | .aborted _ => true

end RunStatus

end Flaky
