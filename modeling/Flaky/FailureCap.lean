-- SUMMARY: The cap on the number of seeded rounds in which one test may fail, and its text form.
import Flaky.Number.Power
import Flaky.Text.Decimal

/-!
# Failure caps

A cap is a positive 32-bit count or no limit at all. On the command line it is
written as a decimal number or as `unlimited` in any case.
-/

namespace Flaky

inductive FailureCap
  | count (max : Nat)
  | unlimited
deriving DecidableEq

namespace FailureCap

/-- The greatest count a cap can hold. -/
def largest : Nat := twoTo 32 - 1

def isExceeded : FailureCap → Nat → Bool
  | .count max, failures => failures > max
  | .unlimited, _ => false

def text : FailureCap → String
  | .count max => toString max
  | .unlimited => "unlimited"

/-- The cap of a number: a positive 32-bit count, or none. -/
def ofInt? (n : Int) : Option FailureCap :=
  if 0 < n ∧ n ≤ largest then some (.count n.toNat) else none

/-! ## Reading -/

inductive ReadError
  | integer (reason : Text.IntegerError) (text : String)
  | notPositive
deriving DecidableEq

def ReadError.reason : ReadError → String
  | .integer reason text => s!"{reason.message} parsing '{text}'"
  | .notPositive => "max-failures-per-test may not be <= 0"

def ReadError.message (e : ReadError) : String :=
  "unrecognized value for max-failures-per-test: " ++ e.reason

/-- ASCII letters in lower case, all else unchanged. -/
def lowered (s : String) : List Char := s.toList.map Char.toLower

def ofText (s : String) : Except ReadError FailureCap :=
  if lowered s = "unlimited".toList then .ok .unlimited
  else
    match Text.signed 64 s.toList with
    | .error e => .error (.integer e s)
    | .ok n =>
      if n ≤ 0 then .error .notPositive
      else if n ≤ largest then .ok (.count n.toNat)
      else .error (.integer .tooLarge s)

end FailureCap

end Flaky
