-- SUMMARY: Kinds of test failure and the reasons for which a failed test is not retried.

/-!
# Failures

An engine says of every failure what kind it is. Assertion failures and errors
may be retried under perturbation; the other kinds say that the environment
failed, so retrying tells nothing about the test.
-/

namespace Flaky

inductive FailureKind
  | assertion
  | error
  | infrastructureError
  | resourceExhausted
  | selectionRefused
deriving DecidableEq

namespace FailureKind

def all : List FailureKind :=
  [.assertion, .error, .infrastructureError, .resourceExhausted, .selectionRefused]

/-- The name an engine gives the kind in an event. -/
def name : FailureKind → String
  | .assertion => "assertion"
  | .error => "error"
  | .infrastructureError => "infrastructure-error"
  | .resourceExhausted => "resource-exhausted"
  | .selectionRefused => "selection-refused"

def ofName? (text : String) : Option FailureKind := all.find? fun kind => kind.name == text

/-- The kind in words. -/
def describe : FailureKind → String
  | .assertion => "assertion failure"
  | .error => "error"
  | .infrastructureError => "infrastructure error"
  | .resourceExhausted => "resource exhaustion"
  | .selectionRefused => "selection refused by engine"

def retryable : FailureKind → Bool
  | .assertion | .error => true
  | .infrastructureError | .resourceExhausted | .selectionRefused => false

end FailureKind

/-- Why a failed test is not retried. -/
inductive NoRetry
  /-- It failed in more seeded rounds than the cap allows. -/
  | capExceeded (failures max : Nat)
  /-- The filter does not select it. -/
  | notSelected
  /-- Its failure is of a kind that is never retried. -/
  | cause (kind : FailureKind)
deriving DecidableEq

def NoRetry.text : NoRetry → String
  | .capExceeded failures max => s!"failed {failures} times, more than the maximum of {max}"
  | .notSelected => "not selected by retry filter"
  | .cause kind => "non-retryable " ++ kind.describe

end Flaky
