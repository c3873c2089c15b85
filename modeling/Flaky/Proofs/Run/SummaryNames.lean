-- SUMMARY: Which runs have a summary that keeps distinct tests distinct: those whose failing tests have distinct texts.
import Flaky.Proofs.Run.StopPolicy
import Flaky.Proofs.Run.Verdict
import Flaky.Proofs.TestNames

/-!
# Tests in the summary of a run

The summary names tests by their text, which two tests may have in common. Every
test that it names failed in the baseline or is flaky, and no test is both. So
what a summary may confuse are two tests that were reported failed in the run,
and it confuses them whichever of its sets they are in.
-/

namespace Flaky

/-! ## Finished runs -/

/-- The tests that rule out a retry in rounds that ended so. -/
def RunStatus.nonRetried : RunStatus → List TestId
  | .aborted (.nonRetried tests) => tests.map (·.1)
  | .aborted .simulated | .completed => []

/-- A summary keeps the tests of a run apart: each of its sets has as many names as it is made from
    tests, and no name is given to a failure of the baseline and to a flaky test. -/
structure RunSummary.Distinguishes (summary : RunSummary) (run : FinishedRun) : Prop where
  rounds : (summary.baseline :: summary.rounds).map (·.failed.size) =
    run.records.map (·.failed.size)
  aggregateFailures : summary.aggregateFailures.size = run.flaky.size
  baselineFailures : summary.baselineFailures.size = run.baselineFailures.size
  nonRetried : summary.nonRetried.size = run.status.nonRetried.length
  disjoint : ∀ name ∈ summary.baselineFailures, name ∉ summary.aggregateFailures

namespace FinishedRun

/-- A test failed in the baseline or is flaky. -/
def Failing (run : FinishedRun) (id : TestId) : Prop := id ∈ run.baselineFailures ∨ id ∈ run.flaky

/-- The tests that a run names all failed, and no test is both flaky and a failure of the
    baseline. -/
structure Coherent (run : FinishedRun) : Prop where
  apart : ∀ id ∈ run.baselineFailures, id ∉ run.flaky
  rounds : ∀ record ∈ run.rounds, ∀ id ∈ record.failed, id ∈ run.flaky
  nonRetried : ∀ id ∈ run.status.nonRetried, run.Failing id
  distinct : run.status.nonRetried.Nodup

variable {run : FinishedRun}

theorem nonRetried_ofRun :
    (RunSummary.ofRun run).nonRetried = RunSummary.namesOf run.status.nonRetried := by
  unfold RunSummary.ofRun RunStatus.nonRetried
  rcases run.status with _ | _ | _ <;> rfl

theorem Coherent.distinguishes_iff (h : run.Coherent) :
    (RunSummary.ofRun run).Distinguishes run ↔
      ∀ a b, run.Failing a → run.Failing b → a.text = b.text → a = b := by
  have size_iff : ∀ s : OrderedSet TestId, (RunSummary.namesOf s.toList).size = s.size ↔
      ∀ a ∈ s, ∀ b ∈ s, a.text = b.text → a = b := fun s => RunSummary.size_namesOf_iff s.nodup
  constructor
  · rintro ⟨-, aggregate, baseline, -, disjoint⟩
    have flaky := (size_iff run.flaky).mp aggregate
    have failed := (size_iff run.baselineFailures).mp baseline
    have across : ∀ a ∈ run.baselineFailures, ∀ b ∈ run.flaky, a.text ≠ b.text := by
      intro a ha b hb heq
      refine disjoint a.text ?_ ?_
      · exact RunSummary.mem_namesOf.mpr ⟨a, ha, rfl⟩
      · exact RunSummary.mem_namesOf.mpr ⟨b, hb, heq.symm⟩
    intro a b ha hb heq
    rcases ha with ha | ha <;> rcases hb with hb | hb
    · exact failed a ha b hb heq
    · exact absurd heq (across a ha b hb)
    · exact absurd heq.symm (across b hb a ha)
    · exact flaky a ha b hb heq
  · intro apart
    have whole : ∀ s : OrderedSet TestId, (∀ id ∈ s, run.Failing id) →
        (RunSummary.namesOf s.toList).size = s.size := fun s hs =>
      (size_iff s).mpr fun a ha b hb => apart a b (hs a ha) (hs b hb)
    refine ⟨?_, whole _ fun _ => .inr, whole _ fun _ => .inl, ?_, ?_⟩
    · have hbaseline : (RunSummary.ofRecord run.baseline).failed.size = run.baseline.failed.size :=
        whole _ fun _ => .inl
      have hrounds : ∀ record ∈ run.rounds,
          (RunSummary.ofRecord record).failed.size = record.failed.size := fun record hrecord =>
        whole _ fun id hid => .inr (h.rounds record hrecord id hid)
      simp only [RunSummary.ofRun, records, List.map_cons, List.map_map, hbaseline, List.cons.injEq,
        true_and]
      exact List.map_congr_left hrounds
    · rw [nonRetried_ofRun, RunSummary.size_namesOf_iff h.distinct]
      exact fun a ha b hb => apart a b (h.nonRetried a ha) (h.nonRetried b hb)
    · intro name hbaseline hflaky
      obtain ⟨a, ha, rfl⟩ := RunSummary.mem_namesOf.mp hbaseline
      obtain ⟨b, hb, heq⟩ := RunSummary.mem_namesOf.mp hflaky
      obtain rfl : b = a := apart b a (.inr hb) (.inl ha) heq
      exact h.apart b ha hb

end FinishedRun

/-! ## Whole runs -/

/-- A test was reported failed in some turn of the engine. -/
def ReportedFailing (turns : List EngineTurn) (id : TestId) : Prop :=
  ∃ turn ∈ turns, ReportedFailed turn.reports id

section

variable {plan : RunPlan} {baseline : List Report} {seeded : List (List Report)}
variable {status : RunStatus}

theorem Report.Blocks.reportedFailed {filter : Filter} {cap : FailureCap} {failures : Nat}
    {report : Report} {reports : List Report} (h : report.Blocks filter cap failures)
    (hreport : report ∈ reports) : ReportedFailed reports report.test.id := by
  cases report with
  | failed test kind message => exact ⟨test, kind, message, hreport, rfl⟩
  | passed test => exact h.elim
  | skipped test => exact h.elim

/-- The tests that ended the rounds were reported failed in one of them, and none is listed
    twice. -/
theorem RunSettings.Stopped.listed {settings : RunSettings}
    (h : settings.Stopped seeded status) :
    (∀ id ∈ status.nonRetried, ∃ reports ∈ seeded, ReportedFailed reports id) ∧
      status.nonRetried.Nodup := by
  cases status with
  | completed => exact ⟨List.forall_mem_nil _, .nil⟩
  | aborted reason =>
    cases reason with
    | simulated => exact ⟨List.forall_mem_nil _, .nil⟩
    | nonRetried tests =>
      obtain ⟨-, sorted, blocking, -⟩ := h.tests tests rfl
      refine ⟨fun id hid => ?_, ?_⟩
      · obtain ⟨report, ⟨reports, hreports, hreport, hblocks⟩, rfl⟩ := (blocking id).mp hid
        exact ⟨reports, List.mem_of_getElem? hreports, hblocks.reportedFailed hreport⟩
      · have increasing : Increasing (tests.map (·.1)) := List.pairwise_map.mpr sorted
        exact OrderedSet.nodup ⟨_, increasing⟩

/-- What a run names, from what was reported in its rounds. -/
theorem RunPlan.finish_failing {id : TestId} :
    (plan.finish (plan.baseline.shows [] baseline) (plan.records baseline [] seeded)
      status).Failing id ↔
    ReportedFailed baseline id ∨ ∃ reports ∈ seeded, ReportedFailed reports id := by
  rw [FinishedRun.Failing, RunPlan.mem_finish_flaky]
  have hbaseline : id ∈ (plan.finish (plan.baseline.shows [] baseline)
      (plan.records baseline [] seeded) status).baselineFailures ↔ ReportedFailed baseline id :=
    mem_failedTests
  rw [hbaseline]
  by_cases h : ReportedFailed baseline id <;> simp [h]

theorem RunPlan.finish_coherent (h : plan.settings.Stopped seeded status) :
    (plan.finish (plan.baseline.shows [] baseline) (plan.records baseline [] seeded)
      status).Coherent where
  apart id hbaseline hflaky :=
    (RunPlan.mem_finish_flaky.mp hflaky).2 (mem_failedTests.mp hbaseline)
  rounds record hrecord id hid := by
    obtain ⟨i, hi⟩ := List.mem_iff_getElem?.mp hrecord
    rw [RunPlan.finish_rounds, Option.map_eq_some_iff] at hi
    obtain ⟨reports, -, rfl⟩ := hi
    exact mem_aggregateFailures.mpr ⟨_, hrecord, rfl, hid⟩
  nonRetried id hid := by
    obtain ⟨reports, hreports, hfailed⟩ := h.listed.1 id hid
    exact RunPlan.finish_failing.mpr (.inr ⟨reports, hreports, hfailed⟩)
  distinct := h.listed.2

/-- The tests that a finished run names are those that its turns report as failed. -/
theorem RunPlan.reportedFailing_turns {did : EngineRun} {dids : List EngineRun} {id : TestId} :
    ReportedFailing (plan.turns did dids) id ↔
      ReportedFailed did.reports id ∨
        ∃ reports ∈ dids.map (·.reports), ReportedFailed reports id := by
  have later : (∃ turn ∈ plan.seededTurns 0 dids, ReportedFailed turn.reports id) ↔
      ∃ reports ∈ dids.map (·.reports), ReportedFailed reports id := by
    simp only [RunPlan.seededTurns, List.mem_mapIdx, List.mem_map]
    constructor
    · rintro ⟨_, ⟨i, hi, rfl⟩, hfailed⟩
      exact ⟨_, ⟨dids[i], List.getElem_mem hi, rfl⟩, hfailed⟩
    · rintro ⟨_, ⟨did, hdid, rfl⟩, hfailed⟩
      obtain ⟨i, hi, rfl⟩ := List.getElem_of_mem hdid
      exact ⟨_, ⟨i, hi, rfl⟩, hfailed⟩
  rw [ReportedFailing, RunPlan.turns, List.exists_mem_cons_iff, later]
  rfl

end

section

variable {σ : Type}

/-- The summary of a run that finishes keeps its tests apart exactly if no two tests that were
    reported failed in the run can be cut from one text. -/
theorem run_summary_distinguishes_iff (engine : Engine σ) (instrumentation : Instrumentation)
    (plan : RunPlan) (state : σ) (disk : Disk) {outcome : RunOutcome}
    (h : (run engine instrumentation plan (.start plan state disk)).1 = .ok (.finished outcome)) :
    (RunSummary.ofRun outcome.finished).Distinguishes outcome.finished ↔
      ∀ a b,
        ReportedFailing (run engine instrumentation plan (.start plan state disk)).2.turns a →
        ReportedFailing (run engine instrumentation plan (.start plan state disk)).2.turns b →
        ¬ a.Blurs b := by
  obtain ⟨acts, course, moved⟩ := run_course engine instrumentation plan state disk
  rw [h] at course
  obtain ⟨baseline, seeded, status, hne, turns, rfl, ends⟩ := course.ended
  have stopped := ends.stopped (by simpa using hne)
  rw [(RunPlan.finish_coherent stopped).distinguishes_iff, moved.turns_start, turns]
  simp only [RunPlan.finish_failing, RunPlan.reportedFailing_turns]
  constructor
  · intro apart a b ha hb hblurs
    exact hblurs.ne (apart a b ha hb hblurs.text_eq)
  · intro sharp a b ha hb heq
    rcases TestId.text_eq_iff.mp heq with rfl | hblurs | hblurs
    · rfl
    · exact absurd hblurs (sharp a b ha hb)
    · exact absurd hblurs (sharp b a hb ha)

theorem run_summary_distinguishes_small :
    ∃ outcome, (run .small .none .small (.start .small () .blank)).1 = .ok (.finished outcome) ∧
      ((RunSummary.ofRun outcome.finished).Distinguishes outcome.finished ↔
        ∀ a b,
          ReportedFailing (run .small .none .small (.start .small () .blank)).2.turns a →
          ReportedFailing (run .small .none .small (.start .small () .blank)).2.turns b →
          ¬ a.Blurs b) := by
  obtain ⟨outcome, h⟩ := small_finishes
  exact ⟨outcome, h, run_summary_distinguishes_iff Engine.small .none RunPlan.small () .blank h⟩

end

/-! ## A test that another is taken for -/

/-- An engine for two tests of one text: one fails in the baseline and the other in seeded
    rounds. -/
def Engine.blurred : Engine Unit := fun selection _ disk =>
  let id : TestId := if selection.round.isBaseline then ⟨"A#b", "c"⟩ else ⟨"A", "b#c"⟩
  (⟨[.failed ⟨id, []⟩ .assertion none], none, [], [], []⟩, (), disk)

/-- The name of a flaky test is the name of a failure of the baseline too. -/
theorem not_run_summary_distinguishes :
    ∃ outcome, (run .blurred .none .small (.start .small () .blank)).1 = .ok (.finished outcome) ∧
      ¬ (RunSummary.ofRun outcome.finished).Distinguishes outcome.finished := by
  have names : (Outcome.finished? (run .blurred .none .small (.start .small () .blank)).1).map
      (fun outcome => ((RunSummary.ofRun outcome.finished).baselineFailures.toList,
        (RunSummary.ofRun outcome.finished).aggregateFailures.toList)) =
      some (["A#b#c"], ["A#b#c"]) := by
    decide +kernel
  obtain ⟨outcome, hfinished, hnames⟩ := Option.map_eq_some_iff.mp names
  obtain ⟨hbaseline, hflaky⟩ := Prod.mk.inj hnames
  refine ⟨outcome, Outcome.eq_of_finished? hfinished, fun h => h.disjoint "A#b#c" ?_ ?_⟩
  · rw [← OrderedSet.mem_toList, hbaseline]
    exact List.mem_singleton_self _
  · rw [← OrderedSet.mem_toList, hflaky]
    exact List.mem_singleton_self _

end Flaky
