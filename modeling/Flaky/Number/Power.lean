-- SUMMARY: Powers of two and of ten.

/-!
# Powers
-/

namespace Flaky

/-- The number of values of `bits` bits. -/
def twoTo (bits : Nat) : Nat := Nat.pow 2 bits

/-- The number of values of `digits` decimal digits. -/
def tenTo (digits : Nat) : Nat := Nat.pow 10 digits

end Flaky
