-- SUMMARY: Test identities (class and method), their order, and tests as an engine reports them.

/-!
# Tests

A test is named by a class and a method. Tests are ordered by class, then by
method, both by code point.
-/

namespace Flaky

structure TestId where
  className : String
  method : String
deriving DecidableEq

namespace TestId

instance : Ord TestId :=
  ⟨compareLex (compareOn TestId.className) (compareOn TestId.method)⟩

instance : Std.TransOrd TestId :=
  inferInstanceAs (Std.TransCmp (compareLex (compareOn TestId.className) (compareOn TestId.method)))

theorem compare_eq (a b : TestId) :
    compare a b = (compare a.className b.className).then (compare a.method b.method) := rfl

instance : Std.LawfulEqOrd TestId where
  compare_self := Std.ReflCmp.compare_self
  eq_of_compare {a b} h := by
    rw [compare_eq, Ordering.then_eq_eq] at h
    cases a; cases b
    simp_all

def text (id : TestId) : String := id.className ++ "#" ++ id.method

end TestId

/-- A test as the engine reports it, with the annotations declared on it or on its class. -/
structure Test where
  id : TestId
  annotations : List String
deriving DecidableEq

end Flaky
