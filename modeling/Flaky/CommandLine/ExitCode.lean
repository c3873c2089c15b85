-- SUMMARY: The exit codes of the program.

/-!
# Exit codes
-/

namespace Flaky

inductive ExitCode
  | ok
  | flakyTests
  | engineFailed
  | instrumentationFailed
  | nonRetriedTests
  | setupError
  | outputError
  /-- The arguments make no request. -/
  | usageError
deriving DecidableEq

namespace ExitCode

def number : ExitCode → UInt8
  | .ok => 0
  | .flakyTests => 100
  | .engineFailed => 101
  | .instrumentationFailed => 102
  | .nonRetriedTests => 106
  | .setupError => 96
  | .outputError => 110
  | .usageError => 2

/-- The codes that are promised to callers. -/
def documented : List ExitCode :=
  [.ok, .flakyTests, .engineFailed, .instrumentationFailed, .nonRetriedTests, .setupError,
    .outputError]

end ExitCode

end Flaky
