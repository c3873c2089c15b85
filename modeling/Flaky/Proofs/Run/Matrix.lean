-- SUMMARY: The matrix of a run: its columns are the seeded rounds and its rows the flaky tests, with what each reported in each.
import Flaky.Proofs.Run.Verdict

/-!
# The matrix of a run

The rows of the matrix are taken from the records as the subtraction of the
baseline leaves them, the cells from the same records test by test. A test that
has a row did not fail in the baseline, so its cells tell what the engine reported
on it, and nothing that the subtraction moved.
-/

namespace Flaky

/-! ## Cells -/

/-- A cell tells what was reported on a test in a round. -/
structure Cell.Tells (cell : Cell) (reports : List Report) (test : TestId) : Prop where
  fail : cell = .fail ↔ ReportedFailed reports test
  pass : cell = .pass ↔ ReportedPassed reports test ∧ ¬ ReportedFailed reports test
  notRun : cell = .notRun ↔ ¬ ReportedPassed reports test ∧ ¬ ReportedFailed reports test

/-- A cell tells of every test that did not fail in the baseline. -/
theorem RoundRecord.Reflects.cell {record : RoundRecord} {baseline reports : List Report}
    {test : TestId} (h : record.Reflects baseline reports)
    (fresh : ¬ ReportedFailed baseline test) : (record.cell test).Tells reports test := by
  have hfailed : record.failed.contains test = true ↔ ReportedFailed reports test := by
    rw [OrderedSet.contains_eq_true, h.failed, and_iff_left fresh]
  have hpassed : record.passed.contains test = true ↔
      ReportedPassed reports test ∧ ¬ ReportedFailed reports test := by
    rw [OrderedSet.contains_eq_true, h.passed]
  by_cases hf : ReportedFailed reports test
  · constructor <;> simp [RoundRecord.cell, hfailed, hf]
  · by_cases hp : ReportedPassed reports test
    · constructor <;> simp [RoundRecord.cell, hfailed, hpassed, hf, hp]
    · constructor <;> simp [RoundRecord.cell, hfailed, hpassed, hf, hp]

/-! ## Matrices with a column for each index -/

namespace Matrix

/-- The matrix with a column for each index below a width, and a row of cells for each test. -/
def grid (width : Nat) (column : Nat → MatrixColumn) (tests : OrderedSet TestId)
    (cells : TestId → List Cell) : Matrix :=
  ⟨(List.range width).map column, tests.toList.map fun test => (test, cells test)⟩

variable {width : Nat} {column : Nat → MatrixColumn} {tests : OrderedSet TestId}
variable {cells : TestId → List Cell} {test : TestId} {i : Nat}

theorem grid_tests : (grid width column tests cells).rows.map (·.1) = tests.toList := by
  simp [grid, Function.comp_def]

theorem grid_column (h : i < (grid width column tests cells).columns.length) :
    (grid width column tests cells).columns[i] = column i := by
  simp [grid]

/-- The column of an index stands at the index. -/
theorem grid_position (hindex : ∀ i, (column i).index = i) :
    (grid width column tests cells).columns.findIdx? (fun c => c.index == i) =
      if i < width then some i else none := by
  split
  case isTrue hi =>
    rw [List.findIdx?_eq_some_iff_getElem]
    refine ⟨by simpa [grid] using hi, by simp [grid, hindex], fun j hj => ?_⟩
    simpa [grid, hindex] using Nat.ne_of_lt hj
  case isFalse hi =>
    rw [List.findIdx?_eq_none_iff]
    simp only [grid, List.mem_map, List.mem_range, forall_exists_index, and_imp]
    rintro _ j hj rfl
    simpa [hindex] using (by omega : j ≠ i)

theorem grid_row :
    (grid width column tests cells).rows.lookup test =
      if test ∈ tests then some (cells test) else none := by
  split
  case isTrue htest => exact List.lookup_graph cells htest
  case isFalse htest =>
    rw [List.lookup_eq_none_iff]
    simp only [grid, List.mem_map, forall_exists_index, and_imp]
    rintro _ other hother rfl
    exact bne_iff_ne.mpr fun heq => htest (heq ▸ hother)

/-- The cell of a test in the column of an index. -/
theorem grid_cell? (hindex : ∀ i, (column i).index = i) :
    (grid width column tests cells).cell? test i =
      if i < width ∧ test ∈ tests then (cells test)[i]? else none := by
  rw [cell?, grid_position hindex, grid_row]
  by_cases hi : i < width <;> by_cases htest : test ∈ tests <;> simp [hi, htest]

end Matrix

/-! ## Finished runs -/

/-- A matrix tells of the seeded rounds of a plan, and of the tests that failed in them and not in
    the baseline. -/
structure Matrix.Reflects (matrix : Matrix) (plan : RunPlan) (baseline : List Report)
    (seeded : List (List Report)) : Prop where
  width : matrix.columns.length = seeded.length
  columns : ∀ i column, matrix.columns[i]? = some column → column.index = i ∧
    column.executionId = (plan.seeded i).id ∧ (plan.seeded i).seed? = some column.seed
  sorted : Increasing (matrix.rows.map (·.1))
  rows : ∀ test, test ∈ matrix.rows.map (·.1) ↔
    (∃ reports ∈ seeded, ReportedFailed reports test) ∧ ¬ ReportedFailed baseline test
  cells : ∀ row ∈ matrix.rows, row.2.length = seeded.length ∧ .fail ∈ row.2
  cell : ∀ test i reports, test ∈ matrix.rows.map (·.1) → seeded[i]? = some reports →
    ∃ cell, matrix.cell? test i = some cell ∧ cell.Tells reports test
  absent : ∀ test i, test ∉ matrix.rows.map (·.1) ∨ seeded.length ≤ i →
    matrix.cell? test i = none
  /-- The position of a column is within every row. -/
  bounded : ∀ test i position cells,
    matrix.columns.findIdx? (fun column => column.index == i) = some position →
    matrix.rows.lookup test = some cells → position < cells.length

section

variable {plan : RunPlan} {baseline : List Report} {seeded : List (List Report)}
variable {status : RunStatus}

/-- The column of the seeded round at an index. -/
def RunPlan.column (plan : RunPlan) (i : Nat) : MatrixColumn :=
  ⟨(plan.seeded i).id, i, plan.settings.baseSeed.forRound (UInt64.ofNat i)⟩

/-- The seeded records, with the failures of the baseline subtracted. -/
def RunPlan.fresh (plan : RunPlan) (baseline : List Report) (seeded : List (List Report)) :
    List RoundRecord :=
  seeded.mapIdx (plan.subtracted baseline seeded)

theorem RunPlan.fresh_columns :
    (plan.fresh baseline seeded).filterMap (·.column?) =
      (List.range seeded.length).map plan.column := by
  rw [fresh, List.mapIdx_eq_zipIdx_map, List.filterMap_map, List.range_eq_range',
    ← List.zipIdx_map_snd, List.map_map, ← List.filterMap_eq_map]
  rfl

/-- The matrix of a finished run. -/
theorem RunPlan.finish_matrix :
    (plan.finish (plan.baseline.shows [] baseline) (plan.records baseline [] seeded)
      status).matrix =
    .grid seeded.length plan.column
      (plan.finish (plan.baseline.shows [] baseline) (plan.records baseline [] seeded) status).flaky
      fun test => (plan.fresh baseline seeded).map (·.cell test) := by
  have hrounds : (plan.finish (plan.baseline.shows [] baseline) (plan.records baseline [] seeded)
      status).rounds = plan.fresh baseline seeded :=
    List.ext_getElem? fun i => by rw [finish_rounds, fresh, List.getElem?_mapIdx]
  have hseeded : (plan.fresh baseline seeded).filter (fun record => !record.round.isBaseline) =
      plan.fresh baseline seeded := by
    rw [List.filter_eq_self]
    intro record hrecord
    obtain ⟨i, _, rfl⟩ := List.mem_mapIdx.mp hrecord
    rfl
  rw [FinishedRun.matrix, Matrix.ofRecords, hrounds, hseeded, fresh_columns, Matrix.grid]

/-- The matrix of a finished run tells of its seeded rounds. -/
theorem RunPlan.finish_matrix_reflects :
    (plan.finish (plan.baseline.shows [] baseline) (plan.records baseline [] seeded)
      status).matrix.Reflects plan baseline seeded := by
  have hflaky := @mem_finish_flaky plan baseline seeded status
  rw [finish_matrix]
  generalize (plan.finish _ _ status).flaky = flaky at hflaky ⊢
  have htests := @Matrix.grid_tests seeded.length plan.column flaky fun test =>
    (plan.fresh baseline seeded).map (·.cell test)
  have hcell : ∀ test ∈ flaky, ∀ (i : Nat) reports, seeded[i]? = some reports →
      ∃ cell : Cell, ((plan.fresh baseline seeded).map (·.cell test))[i]? = some cell ∧
        cell.Tells reports test := by
    intro test htest i reports hreports
    refine ⟨(plan.subtracted baseline seeded i reports).cell test, by simp [fresh, hreports], ?_⟩
    exact subtracted_reflects.cell (hflaky.mp htest).2
  constructor
  case width => simp [Matrix.grid]
  case columns =>
    intro i column hcolumn
    obtain ⟨_, rfl⟩ := List.getElem?_eq_some_iff.mp hcolumn
    rw [Matrix.grid_column]
    exact ⟨rfl, rfl, rfl⟩
  case sorted => exact htests ▸ flaky.increasing
  case rows => exact fun test => htests ▸ hflaky
  case cells =>
    intro row hrow
    obtain ⟨test, htest, rfl⟩ := List.mem_map.mp hrow
    obtain ⟨reports, hreports, hfailed⟩ := (hflaky.mp htest).1
    obtain ⟨i, hi⟩ := List.mem_iff_getElem?.mp hreports
    obtain ⟨cell, hcell, tells⟩ := hcell test htest i reports hi
    exact ⟨by simp [fresh], tells.fail.mpr hfailed ▸ List.mem_of_getElem? hcell⟩
  case cell =>
    intro test i reports htest hreports
    rw [htests] at htest
    have hi : i < seeded.length := (List.getElem?_eq_some_iff.mp hreports).1
    rw [Matrix.grid_cell? fun _ => rfl, if_pos ⟨hi, htest⟩]
    exact hcell test htest i reports hreports
  case absent =>
    intro test i houtside
    rw [htests] at houtside
    rw [Matrix.grid_cell? fun _ => rfl, if_neg]
    rintro ⟨hi, htest⟩
    exact houtside.elim (fun hout => hout htest) (by omega)
  case bounded =>
    intro test i position cells hposition hcells
    rw [Matrix.grid_position fun _ => rfl] at hposition
    rw [Matrix.grid_row] at hcells
    obtain ⟨hi, rfl⟩ : i < seeded.length ∧ i = position := by simpa using hposition
    obtain ⟨-, rfl⟩ : test ∈ flaky ∧ _ = cells := by simpa using hcells
    simpa [fresh] using hi

end

section

variable {σ : Type}

/-- Of a run that finishes, the rows of the matrix are its flaky tests, and the matrix tells of its
    seeded rounds as the engine reported on them. -/
theorem run_matrix (engine : Engine σ) (instrumentation : Instrumentation) (plan : RunPlan)
    (state : σ) (disk : Disk) {outcome : RunOutcome}
    (h : (run engine instrumentation plan (.start plan state disk)).1 = .ok (.finished outcome)) :
    ∃ (baseline : EngineRun) (seeded : List EngineRun),
      (run engine instrumentation plan (.start plan state disk)).2.turns =
        plan.turns baseline seeded ∧
      outcome.finished.rounds.length = seeded.length ∧
      outcome.finished.matrix.rows.map (·.1) = outcome.finished.flaky.toList ∧
      outcome.finished.matrix.Reflects plan baseline.reports (seeded.map (·.reports)) := by
  obtain ⟨acts, course, moved⟩ := run_course engine instrumentation plan state disk
  rw [h] at course
  obtain ⟨baseline, seeded, status, -, turns, rfl, -⟩ := course.ended
  refine ⟨baseline, seeded, moved.turns_start.trans turns, ?_, ?_, RunPlan.finish_matrix_reflects⟩
  · simp [RunPlan.finish, subtractAll, RunPlan.records]
  · rw [RunPlan.finish_matrix, Matrix.grid_tests]

theorem run_matrix_small :
    ∃ outcome, (run .small .none .small (.start .small () .blank)).1 = .ok (.finished outcome) ∧
      ∃ (baseline : EngineRun) (seeded : List EngineRun),
        (run .small .none .small (.start .small () .blank)).2.turns =
          RunPlan.small.turns baseline seeded ∧
        outcome.finished.rounds.length = seeded.length ∧
        outcome.finished.matrix.rows.map (·.1) = outcome.finished.flaky.toList ∧
        outcome.finished.matrix.Reflects .small baseline.reports (seeded.map (·.reports)) := by
  obtain ⟨outcome, h⟩ := small_finishes
  exact ⟨outcome, h, run_matrix Engine.small .none RunPlan.small () .blank h⟩

end

end Flaky
