-- SUMMARY: Perturbation settings of seeded rounds: the mode, the inclusive range of positions, and the test-name filter.

/-!
# Perturbation

What a seeded round asks the instrumented tests to perturb. The settings are
handed on to the engine; only their form is checked here.
-/

namespace Flaky

/-! ## Mode -/

inductive PerturbationMode
  | full
  | one
  | eq
  | id
deriving DecidableEq

namespace PerturbationMode

def all : List PerturbationMode := [.full, .one, .eq, .id]

def name : PerturbationMode → String
  | .full => "full"
  | .one => "one"
  | .eq => "eq"
  | .id => "id"

def names : List String := all.map name

def ofName? (text : String) : Option PerturbationMode := all.find? fun mode => mode.name == text

/-- What is said of a name that is no mode's. -/
def unknownMessage (text : String) : String :=
  s!"unrecognized value for perturbation mode: {text}\n(known values: " ++
    String.intercalate ", " names ++ ")"

end PerturbationMode

/-! ## Range -/

/-- Inclusive bounds on the positions that may be perturbed. -/
structure PerturbationRange where
  start : UInt64
  stop : UInt64
  start_le_stop : start ≤ stop
deriving DecidableEq

namespace PerturbationRange

def ofBounds? (start stop : UInt64) : Option PerturbationRange :=
  if h : start ≤ stop then some ⟨start, stop, h⟩ else none

/-- What is said of bounds in the wrong order. -/
def invertedMessage (start stop : UInt64) : String :=
  s!"perturbation range start ({start}) is greater than its end ({stop})"

end PerturbationRange

/-! ## Settings -/

structure Perturbation where
  mode : PerturbationMode
  /-- The regular expression of the test names that are perturbed, if not all are. -/
  testNames : Option String
  range : Option PerturbationRange
deriving DecidableEq

def Perturbation.standard : Perturbation := ⟨.full, none, none⟩

end Flaky
