-- SUMMARY: Exact decimal numbers: digits times a power of ten.

/-!
# Decimal numbers

The value of a decimal literal, kept exactly: a sign, a natural number of
digits, and a power of ten. `whole` says that it was written without a point
and without an exponent.
-/

namespace Flaky

structure Decimal where
  negative : Bool
  digits : Nat
  exponent : Int
  whole : Bool
deriving DecidableEq

namespace Decimal

def ofInt (n : Int) : Decimal := ⟨n < 0, n.natAbs, 0, true⟩

/-- The integer written without point and exponent. A negative zero is none. -/
def int? (d : Decimal) : Option Int :=
  if d.whole then
    if d.negative then (if d.digits = 0 then none else some (-(d.digits : Int)))
    else some d.digits
  else none

end Decimal

end Flaky
