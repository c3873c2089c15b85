-- SUMMARY: Sets of tests grouped by class: insertion, membership, size and the ordered listing of test identities.
import Flaky.OrderedSet
import Flaky.TestId

/-!
# Tests grouped by class

The shape in which a round's failures are kept: classes in order, each with the
ordered set of its methods. Read as a set of test identities it is
`GroupedTests.testIds`.
-/

namespace Flaky

/-! ## The groups -/

/-- One class and its methods. -/
abbrev ClassGroup := String × OrderedSet String

/-- Add a test to the groups, opening its class where it belongs. -/
def insertGrouped (id : TestId) : List ClassGroup → List ClassGroup
  | [] => [(id.className, OrderedSet.empty.insert id.method)]
  | (c, methods) :: rest =>
    match compare id.className c with
    | .lt => (id.className, OrderedSet.empty.insert id.method) :: (c, methods) :: rest
    | .eq => (c, methods.insert id.method) :: rest
    | .gt => (c, methods) :: insertGrouped id rest

/-- Whether a test is new to the groups: its class is opened for it, or its method is added to an
    open class. -/
def isNewGrouped (id : TestId) : List ClassGroup → Bool
  | [] => true
  | (c, methods) :: rest =>
    match compare id.className c with
    | .lt => true
    | .eq => !methods.contains id.method
    | .gt => isNewGrouped id rest

structure GroupedTests where
  groups : List ClassGroup
deriving DecidableEq

namespace GroupedTests

def empty : GroupedTests := ⟨[]⟩

instance : Inhabited GroupedTests := ⟨empty⟩

def contains (tests : GroupedTests) (id : TestId) : Bool :=
  tests.groups.any fun (c, methods) => c == id.className && methods.contains id.method

/-- The set with `id` added, and whether `id` is new to it. -/
def insert (tests : GroupedTests) (id : TestId) : GroupedTests × Bool :=
  (⟨insertGrouped id tests.groups⟩, isNewGrouped id tests.groups)

def ofList (ids : List TestId) : GroupedTests :=
  ids.foldl (fun tests id => (tests.insert id).1) empty

/-- No class is listed. -/
def isEmpty (tests : GroupedTests) : Bool := tests.groups.isEmpty

/-- The number of tests over all classes. -/
def size (tests : GroupedTests) : Nat := (tests.groups.map fun g => g.2.size).foldr (· + ·) 0

/-- Every test, class by class and method by method. -/
def testIds (tests : GroupedTests) : List TestId :=
  tests.groups.flatMap fun (c, methods) => methods.toList.map fun m => ⟨c, m⟩

end GroupedTests

end Flaky
