-- SUMMARY: The Markdown report of a finished run.
import Flaky.Report.Matrix

/-!
# Markdown reports

The report is a list of lines; every line is ended by a line feed.
-/

namespace Flaky.Markdown

open Flaky.Text (isOrAre)

/-- A table row of cells. -/
def row (cells : List String) : String := "| " ++ String.intercalate " | " cells ++ " |"

def code (text : String) : String := "`" ++ text ++ "`"

/-! ## Sections -/

def abortLines : AbortReason → List String
  | .nonRetried tests =>
    (s!"The run stopped early: could not determine flakiness for {tests.length} " ++
      s!"{Text.tests tests.length}.") :: "" ::
      tests.map fun (id, reason) => s!"- {code id.text}: {reason.text}"
  | .simulated => ["The run stopped early because `simulate-non-retryable` is set."]

def statusLines : RunStatus → List String
  | .completed => []
  | .aborted reason => "" :: abortLines reason

def baselineLines (failures : OrderedSet TestId) : List String :=
  if failures.isEmpty then ["No tests failed without perturbation."]
  else
    (s!"{failures.size} {Text.tests failures.size} failed without perturbation, and " ++
      s!"{isOrAre failures.size} excluded from the matrix below:") :: "" ::
      failures.toList.map fun id => s!"- {code id.text}"

def flakyLine (flaky : OrderedSet TestId) : String :=
  if flaky.isEmpty then "No tests failed only under perturbation."
  else s!"{flaky.size} {Text.tests flaky.size} failed under at least one seed:"

def matrixHeader (matrix : Matrix) : String :=
  row ("Test" :: matrix.columns.map fun c => s!"seed {c.index} ({code c.seed.text})")

def matrixRule (matrix : Matrix) : String := row ("---" :: matrix.columns.map fun _ => "---")

def matrixRow (test : TestId) (cells : List Cell) : String :=
  row (code test.text :: cells.map Cell.text)

def matrixLines (matrix : Matrix) : List String :=
  matrixHeader matrix :: matrixRule matrix ::
    matrix.rows.map fun (test, cells) => matrixRow test cells

def roundRow (record : RoundRecord) : String :=
  let (round, seed) :=
    match record.round.seeding with
    | some seeding => (toString seeding.index, seeding.seed.text)
    | none => ("baseline", "-")
  row [round, seed, code record.round.id.text, toString record.passed.size,
    toString (record.failed.size + record.alsoFailedInBaseline.size)]

def roundLines (records : List RoundRecord) : List String :=
  row ["Round", "Seed", "Execution id", "Passed", "Failed"] ::
    row (List.replicate 5 "---") :: records.map roundRow

/-! ## The report -/

def lines (run : FinishedRun) : List String :=
  ["# Flakehunt report", "",
    s!"Run {code run.runId.text} executed {run.rounds.length} of {run.maxRounds} seeded " ++
      s!"{Text.rounds run.maxRounds} with base seed {run.baseSeed.text}."] ++
  statusLines run.status ++
  ["", "## Baseline failures", ""] ++ baselineLines run.baselineFailures ++
  ["", "## Flaky tests", "", flakyLine run.flaky, ""] ++ matrixLines run.matrix ++
  ["", "## Rounds", ""] ++ roundLines run.records

def text (run : FinishedRun) : String := String.join ((lines run).map (· ++ "\n"))

end Flaky.Markdown
