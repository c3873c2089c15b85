-- SUMMARY: When the matrix part of a run's report is a table: no flaky test may have a bar or a line feed in its name.
import Flaky.Proofs.MatrixTable
import Flaky.Proofs.Run.Matrix

/-!
# The matrix of a run in its report

The report of a run has the text of its matrix between two other parts. Engines name
tests as they like, and the report writes the names as they are. So it has a table of
its matrix unless a test that failed in a seeded round, and not in the baseline, has a
name that breaks a row.
-/

namespace Flaky

namespace Markdown

/-! ## The parts of a report -/

def linesText (lines : List String) : String := String.join (lines.map (· ++ "\n"))

/-- The lines before the matrix. -/
def prefaceLines (run : FinishedRun) : List String :=
  ["# Flakehunt report", "",
    s!"Run {code run.runId.text} executed {run.rounds.length} of {run.maxRounds} seeded " ++
      s!"{Text.rounds run.maxRounds} with base seed {run.baseSeed.text}."] ++
  statusLines run.status ++
  ["", "## Baseline failures", ""] ++ baselineLines run.baselineFailures ++
  ["", "## Flaky tests", "", flakyLine run.flaky, ""]

/-- The lines after the matrix. -/
def codaLines (run : FinishedRun) : List String := ["", "## Rounds", ""] ++ roundLines run.records

theorem text_eq (run : FinishedRun) : text run =
    linesText (prefaceLines run) ++ matrixText run.matrix ++ linesText (codaLines run) := by
  have hlines : lines run = prefaceLines run ++ matrixLines run.matrix ++ codaLines run := by
    simp only [lines, prefaceLines, codaLines, List.append_assoc]
  rw [text, hlines, linesText, linesText, matrixText, ← String.toList_inj]
  simp only [String.toList_append, String.toList_join, List.map_append, List.flatMap_append]

end Markdown

/-! ## Finished runs -/

section

variable {σ : Type}

/-- The report of a run that finishes has the text of its matrix in it, and that is a table with a
    line for each flaky test, in order, and a cell for each seeded round exactly if no test that
    failed in a seeded round and not in the baseline has a bar or a line feed in its name. -/
theorem run_matrix_tabulated_iff (engine : Engine σ) (instrumentation : Instrumentation)
    (plan : RunPlan) (state : σ) (disk : Disk) {outcome : RunOutcome}
    (h : (run engine instrumentation plan (.start plan state disk)).1 = .ok (.finished outcome)) :
    ∃ (baseline : EngineRun) (seeded : List EngineRun),
      (run engine instrumentation plan (.start plan state disk)).2.turns =
        plan.turns baseline seeded ∧
      outcome.finished.rounds.length = seeded.length ∧
      outcome.finished.matrix.rows.map (·.1) = outcome.finished.flaky.toList ∧
      Markdown.text outcome.finished =
        Markdown.linesText (Markdown.prefaceLines outcome.finished) ++
          Markdown.matrixText outcome.finished.matrix ++
          Markdown.linesText (Markdown.codaLines outcome.finished) ∧
      (Markdown.Tabulates seeded.length outcome.finished.matrix
          (Markdown.matrixText outcome.finished.matrix) ↔
        ∀ test, (∃ turn ∈ seeded, ReportedFailed turn.reports test) →
          ¬ ReportedFailed baseline.reports test → Markdown.FitsCell test.text) := by
  obtain ⟨acts, course, moved⟩ := run_course engine instrumentation plan state disk
  rw [h] at course
  obtain ⟨baseline, seeded, status, -, turns, rfl, -⟩ := course.ended
  have reflects := @RunPlan.finish_matrix_reflects plan baseline.reports
    (seeded.map (·.reports)) status
  refine ⟨baseline, seeded, moved.turns_start.trans turns, ?_, ?_, Markdown.text_eq _, ?_⟩
  · simp [RunPlan.finish, subtractAll, RunPlan.records]
  · rw [RunPlan.finish_matrix, Matrix.grid_tests]
  · have hwidth := reflects.width
    rw [List.length_map] at hwidth
    have htable := Markdown.tabulates_iff fun row hrow =>
      (reflects.cells row hrow).1.trans reflects.width.symm
    rw [hwidth] at htable
    rw [htable]
    constructor
    · rintro fits test ⟨turn, hturn, hfailed⟩ fresh
      obtain ⟨row, hrow, rfl⟩ := List.mem_map.mp ((reflects.rows test).mpr
        ⟨⟨turn.reports, List.mem_map_of_mem hturn, hfailed⟩, fresh⟩)
      exact fits row hrow
    · intro fits row hrow
      obtain ⟨⟨reports, hreports, hfailed⟩, fresh⟩ :=
        (reflects.rows row.1).mp (List.mem_map_of_mem hrow)
      obtain ⟨turn, hturn, rfl⟩ := List.mem_map.mp hreports
      exact fits row.1 ⟨turn, hturn, hfailed⟩ fresh

theorem run_matrix_tabulated_small :
    ∃ outcome, (run .small .none .small (.start .small () .blank)).1 = .ok (.finished outcome) ∧
      ∃ (baseline : EngineRun) (seeded : List EngineRun),
        (run .small .none .small (.start .small () .blank)).2.turns =
          RunPlan.small.turns baseline seeded ∧
        outcome.finished.rounds.length = seeded.length ∧
        outcome.finished.matrix.rows.map (·.1) = outcome.finished.flaky.toList ∧
        Markdown.text outcome.finished =
          Markdown.linesText (Markdown.prefaceLines outcome.finished) ++
            Markdown.matrixText outcome.finished.matrix ++
            Markdown.linesText (Markdown.codaLines outcome.finished) ∧
        (Markdown.Tabulates seeded.length outcome.finished.matrix
            (Markdown.matrixText outcome.finished.matrix) ↔
          ∀ test, (∃ turn ∈ seeded, ReportedFailed turn.reports test) →
            ¬ ReportedFailed baseline.reports test → Markdown.FitsCell test.text) := by
  obtain ⟨outcome, h⟩ := small_finishes
  exact ⟨outcome, h, run_matrix_tabulated_iff Engine.small .none RunPlan.small () .blank h⟩

end

/-! ## A name with a bar -/

/-- An engine for one test with a bar in its name, which fails in seeded rounds only. -/
def Engine.barred : Engine Unit := fun selection _ disk =>
  let test : Test := ⟨⟨"A", "a|b"⟩, []⟩
  let report : Report :=
    if selection.round.isBaseline then .passed test else .failed test .assertion none
  (⟨[report], none, [], [], []⟩, (), disk)

/-- The row of the test has a cell more than its matrix. -/
theorem not_run_matrix_tabulated :
    ∃ outcome, (run .barred .none .small (.start .small () .blank)).1 = .ok (.finished outcome) ∧
      ¬ Markdown.Tabulates outcome.finished.rounds.length outcome.finished.matrix
        (Markdown.matrixText outcome.finished.matrix) := by
  have matrices : (Outcome.finished? (run .barred .none .small (.start .small () .blank)).1).map
      (fun outcome => (outcome.finished.rounds.length, outcome.finished.matrix.columns.length,
        outcome.finished.matrix.rows)) =
      some (2, 2, [(⟨"A", "a|b"⟩, [.fail, .fail])]) := by
    decide +kernel
  obtain ⟨outcome, hfinished, hmatrix⟩ := Option.map_eq_some_iff.mp matrices
  obtain ⟨hrounds, hcolumns, hrows⟩ :
      outcome.finished.rounds.length = 2 ∧ outcome.finished.matrix.columns.length = 2 ∧
        outcome.finished.matrix.rows = [(⟨"A", "a|b"⟩, [.fail, .fail])] := by
    simpa using hmatrix
  refine ⟨outcome, Outcome.eq_of_finished? hfinished, fun h => ?_⟩
  have full : ∀ row ∈ outcome.finished.matrix.rows,
      row.2.length = outcome.finished.matrix.columns.length := by
    rw [hrows, hcolumns]
    exact List.forall_mem_singleton.mpr rfl
  rw [hrounds, ← hcolumns, Markdown.tabulates_iff full, hrows, List.forall_mem_singleton] at h
  exact absurd h (by decide)

end Flaky
