-- SUMMARY: The verdict of a whole run: its records and its flaky tests are what the reports of its rounds make of them.
import Flaky.Proofs.Run.Course

/-!
# The verdict of a run

The verdict passes through the tally, the frozen result, the groups of tests, the
rounds with their resets and the subtraction of the baseline. What comes out is
told by the reports alone: a test is flaky exactly if it is reported failed in a
seeded round and not in the baseline.
-/

namespace Flaky

/-! ## Records -/

/-- A seeded record is what the reports of its round and of the baseline make of it. -/
structure RoundRecord.Reflects (record : RoundRecord) (baseline reports : List Report) : Prop where
  failed : ∀ id, id ∈ record.failed ↔ ReportedFailed reports id ∧ ¬ ReportedFailed baseline id
  alsoFailedInBaseline : ∀ id, id ∈ record.alsoFailedInBaseline ↔
    ReportedFailed reports id ∧ ReportedFailed baseline id
  passed : ∀ id, id ∈ record.passed ↔ ReportedPassed reports id ∧ ¬ ReportedFailed reports id

theorem Round.shows_reflects {round : Round} {past : List (List Report)}
    {baseline reports : List Report} (h : round.isBaseline = false) :
    ((round.shows past reports).subtractBaseline (failedTests baseline)).1.Reflects
      baseline reports := by
  refine ⟨fun id => ?_, fun id => ?_, fun id => ?_⟩
  · simp [RoundRecord.subtractBaseline, Round.shows, h, mem_failedTests]
  · simp [RoundRecord.subtractBaseline, Round.shows, h, mem_failedTests]
  · simp [RoundRecord.subtractBaseline, Round.shows, h, mem_failedTests, mem_passedTests]

theorem mem_aggregateFailures {records : List RoundRecord} {id : TestId} :
    id ∈ aggregateFailures records ↔
      ∃ record ∈ records, record.round.isBaseline = false ∧ id ∈ record.failed := by
  have collect : ∀ (kept : List RoundRecord) (set : OrderedSet TestId),
      id ∈ kept.foldl (fun set r => set.union r.failed) set ↔
        id ∈ set ∨ ∃ record ∈ kept, id ∈ record.failed := by
    intro kept
    induction kept with
    | nil => simp
    | cons record rest ih =>
      intro set
      simp [ih, or_assoc]
  simp [aggregateFailures, collect, and_assoc]

/-! ## Verdicts -/

theorem RunOutcome.hasFlakyTests_iff {outcome : RunOutcome} :
    outcome.hasFlakyTests = true ↔ ∃ id, id ∈ outcome.finished.flaky := by
  rw [hasFlakyTests, OrderedSet.isEmpty, Bool.not_eq_true', List.isEmpty_eq_false_iff_exists_mem]
  exact Iff.rfl

section

variable {σ : Type} {plan : RunPlan}

/-- The seeded record at an index, with the failures of the baseline subtracted. -/
def RunPlan.subtracted (plan : RunPlan) (baseline : List Report) (seeded : List (List Report))
    (i : Nat) (reports : List Report) : RoundRecord :=
  (((plan.seeded i).shows (baseline :: seeded.take i) reports).subtractBaseline
    (failedTests baseline)).1

theorem RunPlan.subtracted_reflects {baseline reports : List Report} {seeded : List (List Report)}
    {i : Nat} : (plan.subtracted baseline seeded i reports).Reflects baseline reports :=
  Round.shows_reflects rfl

section

variable {baseline : List Report} {seeded : List (List Report)} {status : RunStatus}

/-- The seeded record of a finished run at an index. -/
theorem RunPlan.finish_rounds {i : Nat} :
    (plan.finish (plan.baseline.shows [] baseline) (plan.records baseline [] seeded)
      status).rounds[i]? = seeded[i]?.map (plan.subtracted baseline seeded i) := by
  simp only [finish, subtractAll, records, List.getElem?_map, List.getElem?_mapIdx, Option.map_map,
    List.length_nil, Nat.zero_add, List.nil_append]
  rfl

/-- The flaky tests of a finished run. -/
theorem RunPlan.mem_finish_flaky {id : TestId} :
    id ∈ (plan.finish (plan.baseline.shows [] baseline) (plan.records baseline [] seeded)
      status).flaky ↔
    (∃ reports ∈ seeded, ReportedFailed reports id) ∧ ¬ ReportedFailed baseline id := by
  simp only [FinishedRun.flaky, mem_aggregateFailures, List.mem_iff_getElem?, finish_rounds,
    Option.map_eq_some_iff]
  constructor
  · rintro ⟨record, ⟨i, reports, hreports, rfl⟩, -, hid⟩
    obtain ⟨hfailed, hfresh⟩ := (subtracted_reflects.failed id).mp hid
    exact ⟨⟨reports, ⟨i, hreports⟩, hfailed⟩, hfresh⟩
  · rintro ⟨⟨reports, ⟨i, hreports⟩, hfailed⟩, hfresh⟩
    exact ⟨_, ⟨i, reports, hreports, rfl⟩, rfl,
      (subtracted_reflects.failed id).mpr ⟨hfailed, hfresh⟩⟩

end

/-- Of a run that finishes, the failures of the baseline, the seeded records and the flaky tests are
    what the reports of the engine make of them. -/
theorem run_verdict (engine : Engine σ) (instrumentation : Instrumentation) (plan : RunPlan)
    (state : σ) (disk : Disk) {outcome : RunOutcome}
    (h : (run engine instrumentation plan (.start plan state disk)).1 = .ok (.finished outcome)) :
    ∃ (baseline : EngineRun) (seeded : List EngineRun),
      (run engine instrumentation plan (.start plan state disk)).2.turns =
        plan.turns baseline seeded ∧
      (∀ id, id ∈ outcome.finished.baselineFailures ↔ ReportedFailed baseline.reports id) ∧
      outcome.finished.rounds.length = seeded.length ∧
      (∀ i did, seeded[i]? = some did → ∃ record, outcome.finished.rounds[i]? = some record ∧
        record.round = plan.seeded i ∧ record.Reflects baseline.reports did.reports) ∧
      (∀ id, id ∈ outcome.finished.flaky ↔
        (∃ did ∈ seeded, ReportedFailed did.reports id) ∧ ¬ ReportedFailed baseline.reports id) ∧
      (outcome.hasFlakyTests = true ↔ ∃ id,
        (∃ did ∈ seeded, ReportedFailed did.reports id) ∧
          ¬ ReportedFailed baseline.reports id) := by
  obtain ⟨acts, course, moved⟩ := run_course engine instrumentation plan state disk
  rw [h] at course
  obtain ⟨baseline, seeded, status, -, turns, rfl, -⟩ := course.ended
  have hflaky : ∀ id, id ∈ (plan.finish (plan.baseline.shows [] baseline.reports)
      (plan.records baseline.reports [] (seeded.map (·.reports))) status).flaky ↔
      (∃ did ∈ seeded, ReportedFailed did.reports id) ∧ ¬ ReportedFailed baseline.reports id := by
    intro id
    simp [RunPlan.mem_finish_flaky]
  refine ⟨baseline, seeded, moved.turns_start.trans turns, fun id => mem_failedTests, ?_, ?_,
    hflaky, ?_⟩
  · simp [RunPlan.finish, subtractAll, RunPlan.records]
  · intro i did hdid
    refine ⟨plan.subtracted baseline.reports (seeded.map (·.reports)) i did.reports, ?_, rfl,
      RunPlan.subtracted_reflects⟩
    simp [RunPlan.finish_rounds, hdid]
  · simp only [RunOutcome.hasFlakyTests_iff, hflaky]

theorem run_verdict_small :
    ∃ outcome, (run .small .none .small (.start .small () .blank)).1 = .ok (.finished outcome) ∧
      ∃ (baseline : EngineRun) (seeded : List EngineRun),
        (run .small .none .small (.start .small () .blank)).2.turns =
          RunPlan.small.turns baseline seeded ∧
        ∀ id, id ∈ outcome.finished.flaky ↔
          (∃ did ∈ seeded, ReportedFailed did.reports id) ∧
            ¬ ReportedFailed baseline.reports id := by
  obtain ⟨outcome, h⟩ := small_finishes
  obtain ⟨baseline, seeded, turns, -, -, -, flaky, -⟩ :=
    run_verdict Engine.small .none RunPlan.small () .blank h
  exact ⟨outcome, h, baseline, seeded, turns, flaky⟩

end

end Flaky
