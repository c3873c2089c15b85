-- SUMMARY: The matrix of flaky tests by seeded rounds.
import Flaky.Report

/-!
# The flakiness matrix

One column for each seeded round, one row for each flaky test, and in each cell
what the test did in the round.
-/

namespace Flaky

inductive Cell
  | pass
  | fail
  | notRun
deriving DecidableEq

def Cell.text : Cell → String
  | .pass => "pass"
  | .fail => "FAIL"
  | .notRun => "-"

structure MatrixColumn where
  executionId : ExecutionId
  index : Nat
  seed : Seed
deriving DecidableEq

structure Matrix where
  columns : List MatrixColumn
  /-- One row for each test, in order. -/
  rows : List (TestId × List Cell)
deriving DecidableEq

/-- What a test did in a round. -/
def RoundRecord.cell (record : RoundRecord) (test : TestId) : Cell :=
  if record.failed.contains test then .fail
  else if record.passed.contains test then .pass
  else .notRun

/-- The column of a seeded round. -/
def RoundRecord.column? (record : RoundRecord) : Option MatrixColumn :=
  record.round.seeding.map fun seeding => ⟨record.round.id, seeding.index, seeding.seed⟩

namespace Matrix

/-- The matrix of some tests over the seeded rounds among some records. -/
def ofRecords (records : List RoundRecord) (tests : OrderedSet TestId) : Matrix :=
  let seeded := records.filter fun r => !r.round.isBaseline
  ⟨seeded.filterMap (·.column?), tests.toList.map fun t => (t, seeded.map (·.cell t))⟩

/-- The cell of a test in the first column of a round's index. -/
def cell? (matrix : Matrix) (test : TestId) (index : Nat) : Option Cell := do
  let column ← matrix.columns.findIdx? fun c => c.index == index
  let cells ← matrix.rows.lookup test
  cells[column]?

def isEmpty (matrix : Matrix) : Bool := matrix.rows.isEmpty

end Matrix

namespace FinishedRun

def matrix (run : FinishedRun) : Matrix := .ofRecords run.rounds run.flaky

end FinishedRun

end Flaky
