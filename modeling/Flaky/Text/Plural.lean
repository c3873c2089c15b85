-- SUMMARY: Words that go with a count.

/-!
# Counts in words
-/

namespace Flaky.Text

def tests (count : Nat) : String := if count = 1 then "test" else "tests"

def rounds (count : Nat) : String := if count = 1 then "round" else "rounds"

def failures (count : Nat) : String := if count = 1 then "failure" else "failures"

/-- `is` or `are`. -/
def isOrAre (count : Nat) : String := if count = 1 then "is" else "are"

end Flaky.Text
