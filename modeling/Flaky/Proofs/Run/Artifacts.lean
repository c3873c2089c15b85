-- SUMMARY: The artifacts of a finished run agree: they list the same rounds in the same order, with the same counts, and each is in its file.
import Flaky.Proofs.Run.Matrix
import Flaky.Proofs.Run.Written
import Flaky.Proofs.Suites

/-!
# Artifacts that agree

The run log grows round by round, while the report, the summary, the JUnit report
and the matrix are made at the end from the records, each on its own. They agree
because the records are in the order of the rounds, and because the groups of a
record share out the tests of its round.
-/

namespace Flaky

/-! ## One round -/

/-- What the artifacts tell of a round in which the engine made some reports. -/
structure RoundRecord.ToldOf (record : RoundRecord) (round : Round) (reports : List Report) :
    Prop where
  about : record.round = round
  row : Markdown.roundRow record = Markdown.row
    [round.index?.elim "baseline" toString, round.seed?.elim "-" Seed.text,
      Markdown.code round.id.text, toString record.passed.size,
      toString (record.failed.size + record.alsoFailedInBaseline.size)]
  summary : (RunSummary.ofRecord record).executionId = round.id.text ∧
    (RunSummary.ofRecord record).index = round.index? ∧
    (RunSummary.ofRecord record).seed = round.seed?.map Seed.toNat ∧
    (RunSummary.ofRecord record).passedCount = record.passed.size
  suite : record.junitSuite.name = round.name ∧
    record.junitSuite.properties = ("execution-id", round.id.text) ::
      (round.seed?.map fun seed => ("seed", seed.text)).toList
  passing : (record.junitSuite.cases.filter fun c => !c.isFailure).length = record.passed.size
  failing : record.junitSuite.failures = record.failed.size + record.alsoFailedInBaseline.size
  increasing : Increasing (record.junitSuite.cases.map (·.test))
  /-- A case fails if its test was reported failed, in the baseline too or not. -/
  cases : ∀ c ∈ record.junitSuite.cases, c.isFailure = true ↔ ReportedFailed reports c.test
  executed : record.junitSuite.cases.length = record.executed
  distinct : record.executed = ((failedTests reports).union (passedTests reports)).size

theorem RoundRecord.Covers.toldOf {record : RoundRecord} {round : Round} {reports : List Report}
    (h : record.Covers reports) (hround : record.round = round) : record.ToldOf round reports := by
  subst hround
  refine
    { about := rfl
      row := ?_
      summary := ⟨rfl, rfl, rfl, rfl⟩
      suite := ⟨rfl, rfl⟩
      passing := length_passing
      failing := junitSuite_failures
      increasing := h.increasing
      cases := fun c => h.isFailure
      executed := length_junitCases
      distinct := h.executed }
  unfold Markdown.roundRow Round.index? Round.seed?
  cases record.round.seeding <;> rfl

/-! ## All rounds -/

/-- The artifacts of a run list some rounds, in this order. -/
structure FinishedRun.Lists (run : FinishedRun) (rounds : List Round) : Prop where
  records : run.records.map (·.round) = rounds
  report : ∃ before, Markdown.lines run = before ++
    Markdown.row ["Round", "Seed", "Execution id", "Passed", "Failed"] ::
      Markdown.row (List.replicate 5 "---") :: run.records.map Markdown.roundRow
  summary : (RunSummary.ofRun run).baseline :: (RunSummary.ofRun run).rounds =
    run.records.map RunSummary.ofRecord
  junit : Junit.suites run = run.records.map (·.junitSuite)
  /-- The columns of the matrix are the rounds but for the first, the baseline. -/
  columns : run.matrix.columns.map (fun column => (column.executionId, some column.index,
      some column.seed)) =
    rounds.tail.map fun round => (round.id, round.index?, round.seed?)

section

variable {plan : RunPlan} {baseline : List Report} {seeded : List (List Report)}
variable {status : RunStatus}

theorem subtractAll_rounds {baseline : RoundRecord} {records : List RoundRecord} :
    (subtractAll baseline records).map (·.round) = records.map (·.round) := by
  have unchanged : ∀ record : RoundRecord,
      (record.subtractBaseline baseline.failed).1.round = record.round := by
    intro record
    unfold RoundRecord.subtractBaseline
    split <;> rfl
  simp [subtractAll, Function.comp_def, unchanged]

/-- The record of a finished run at an index is of the round at the index. -/
theorem RunPlan.finish_covers {i : Nat} {record : RoundRecord} {reports : List Report}
    (hrecord : (plan.finish (plan.baseline.shows [] baseline) (plan.records baseline [] seeded)
      status).records[i]? = some record)
    (hreports : (baseline :: seeded)[i]? = some reports) :
    record.round = plan.round i ∧ record.Covers reports := by
  cases i with
  | zero =>
    obtain rfl : plan.baseline.shows [] baseline = record := Option.some.inj hrecord
    obtain rfl : baseline = reports := Option.some.inj hreports
    exact ⟨rfl, Round.shows_covers⟩
  | succ i =>
    rw [List.getElem?_cons_succ] at hreports
    rw [FinishedRun.records, List.getElem?_cons_succ, finish_rounds, hreports] at hrecord
    obtain rfl : plan.subtracted baseline seeded i reports = record := Option.some.inj hrecord
    exact ⟨rfl, Round.shows_covers.subtract _⟩

theorem RunPlan.records_round :
    (plan.records baseline [] seeded).map (·.round) =
      (List.range seeded.length).map plan.seeded := by
  rw [records, List.mapIdx_eq_zipIdx_map, List.map_map, List.range_eq_range', ← List.zipIdx_map_snd,
    List.map_map]
  refine List.map_congr_left fun indexed _ => ?_
  simp [Round.shows]

/-- The artifacts of a finished run list its rounds in order. -/
theorem RunPlan.finish_lists :
    (plan.finish (plan.baseline.shows [] baseline) (plan.records baseline [] seeded)
      status).Lists ((List.range (seeded.length + 1)).map plan.round) := by
  have hrounds : (List.range (seeded.length + 1)).map plan.round =
      plan.baseline :: (List.range seeded.length).map plan.seeded := by
    rw [List.range_succ_eq_map, List.map_cons, List.map_map]
    rfl
  refine ⟨?_, ?_, rfl, rfl, ?_⟩
  · rw [hrounds, FinishedRun.records, List.map_cons, finish, subtractAll_rounds, records_round]
    rfl
  · exact ⟨_, rfl⟩
  · rw [hrounds, finish_matrix, List.tail_cons, Matrix.grid, List.map_map, List.map_map]
    rfl

/-! ## What is in the files -/

section

variable {σ : Type} {engine : Engine σ} {instrumentation : Instrumentation}
variable {deeds : List Deed} {world last : World σ} {outcome : RunOutcome}

/-- The ids of the records of a run are those of its finished rounds. -/
theorem RunPlan.finish_ids {first : FinishedRound} {rounds : List FinishedRound} :
    (plan.finish first.record (rounds.map (·.record)) status).records.map (·.round.id) =
      (first :: rounds).map fun f => f.round.id := by
  have hrounds : (plan.finish first.record (rounds.map (·.record)) status).records.map (·.round) =
      (first :: rounds).map (·.round) := by
    rw [FinishedRun.records, List.map_cons, finish, subtractAll_rounds, List.map_map]
    rfl
  simpa [Function.comp_def] using congrArg (List.map Round.id) hrounds

/-- What the files of a run hold that wrote all its artifacts. -/
theorem Diary.reads (h : Diary plan deeds (.ok (.finished outcome)))
    (works : Deed.DoAll engine instrumentation plan deeds world last)
    (written : (eventsOf deeds).filterMap RunEvent.failure? = [])
    (apart : plan.JunitApart last.disk) :
    (∀ task ∈ outcome.finished.tasks outcome.directory plan.settings.junitPath,
      last.disk.isFile task.2.1 = true → last.disk.read task.2.1 = .ok (Utf8.bytes task.2.2)) ∧
    (engine.Spares plan.directory.runLog → last.disk.isFile plan.directory.runLog = true →
      RunLog.read plan.directory.runLog last.disk =
        .ok (outcome.finished.records.map (·.round.id))) := by
  have fine : plan.LogFine _ := RunPlan.logFine_of_unfailing written
  rw [h.failures] at written
  cases h with
  | @finished opened baseline rounds status run writings many consecutive hrun tasks =>
    have closing := run.closingDeeds_closing writings
    have htasks := (run.closingDeeds_task writings).trans tasks
    rw [List.filterMap_append, List.filterMap_append] at written
    obtain ⟨-, written⟩ := List.append_eq_nil_iff.mp (List.append_eq_nil_iff.mp written).2
    refine ⟨?_, fun spares hfile => ?_⟩
    · obtain ⟨_, -, later⟩ := works.split
      obtain ⟨_, -, closed⟩ := later.split
      have reads := closed.closing_reads closing written (by rw [htasks]; exact apart.tasks)
      rw [htasks] at reads
      exact reads
    · -- the log is whole after the last round, and the artifacts are written elsewhere
      obtain ⟨middle, entry, closed, hempty, grown⟩ := works.rounds_grow spares consecutive fine
      have kept := closed.closing_keeps closing
      rw [htasks] at kept
      have hlast := kept.find grown.find fun place hat => by
        rintro ⟨task, htask, hsame⟩
        exact apart.log task htask place (kept.locate hat) hsame
      rw [hrun, RunPlan.finish_ids]
      exact RunLog.read_grown hempty hlast hfile

/-- The artifacts of a run that finished agree: the report, the summary, the JUnit report and the
    matrix list the rounds of the run in order, with counts that agree and that are those of the
    tests that were reported. If all of them were written, they are in their files, and the run log
    reads back as the ids of the rounds, as long as the engine leaves it alone and the JUnit report
    is not put over a file of the run. -/
theorem run_artifacts (engine : Engine σ) (instrumentation : Instrumentation) (plan : RunPlan)
    (state : σ) (disk : Disk) {outcome : RunOutcome}
    (h : (run engine instrumentation plan (.start plan state disk)).1 = .ok (.finished outcome))
    (written : (run engine instrumentation plan (.start plan state disk)).2.events.filterMap
      RunEvent.failure? = []) :
    ∃ (baseline : EngineRun) (seeded : List EngineRun),
      (run engine instrumentation plan (.start plan state disk)).2.turns =
        plan.turns baseline seeded ∧
      outcome.finished.Lists ((List.range (seeded.length + 1)).map plan.round) ∧
      (∀ i (record : RoundRecord) did, outcome.finished.records[i]? = some record →
        (baseline :: seeded)[i]? = some did → record.ToldOf (plan.round i) did.reports) ∧
      (plan.JunitApart (run engine instrumentation plan (.start plan state disk)).2.disk →
        (∀ task ∈ outcome.finished.tasks outcome.directory plan.settings.junitPath,
          (run engine instrumentation plan (.start plan state disk)).2.disk.isFile task.2.1 = true →
          (run engine instrumentation plan (.start plan state disk)).2.disk.read task.2.1 =
            .ok (Utf8.bytes task.2.2)) ∧
        (engine.Spares plan.directory.runLog →
          (run engine instrumentation plan (.start plan state disk)).2.disk.isFile
            plan.directory.runLog = true →
          RunLog.read plan.directory.runLog
              (run engine instrumentation plan (.start plan state disk)).2.disk =
            .ok (outcome.finished.records.map (·.round.id)))) := by
  -- the course has the reports of the rounds, the diary what became of the disk
  obtain ⟨acts, course, moved⟩ := run_course engine instrumentation plan state disk
  obtain ⟨deeds, diary, did⟩ := run_diary engine instrumentation plan state disk
  rw [h] at course diary
  rw [did.events] at written
  have reads := diary.reads did.works written
  obtain ⟨baseline, seeded, status, -, turns, houtcome, -⟩ := course.ended
  refine ⟨baseline, seeded, moved.turns_start.trans turns, ?_, ?_, reads⟩
  · have hlength : (seeded.map (·.reports)).length = seeded.length := List.length_map _
    rw [houtcome, ← hlength]
    exact RunPlan.finish_lists
  · intro i record did hrecord hdid
    rw [houtcome] at hrecord
    have hreports : (baseline.reports :: seeded.map (·.reports))[i]? = some did.reports := by
      rw [← List.map_cons, List.getElem?_map, hdid]
      rfl
    obtain ⟨hround, covers⟩ := RunPlan.finish_covers hrecord hreports
    exact covers.toldOf hround

/-- The small plan, with a JUnit report. -/
def RunPlan.tested : RunPlan :=
  { RunPlan.small with settings := { RunPlan.small.settings with junitPath := some "junit.xml" } }

theorem run_artifacts_tested :
    ∃ outcome, (run .small .none .tested (.start .tested () .blank)).1 = .ok (.finished outcome) ∧
      (∃ seeded : List EngineRun,
        outcome.finished.Lists ((List.range (seeded.length + 1)).map RunPlan.tested.round)) ∧
      RunLog.read RunPlan.tested.directory.runLog
          (run .small .none .tested (.start .tested () .blank)).2.disk =
        .ok (outcome.finished.records.map (·.round.id)) := by
  have hran : (Outcome.finished? (run .small .none .tested (.start .tested () .blank)).1).isSome ∧
      (run .small .none .tested (.start .tested () .blank)).2.events.filterMap
        RunEvent.failure? = [] ∧
      (run .small .none .tested (.start .tested () .blank)).2.disk.isFile
        RunPlan.tested.directory.runLog = true ∧
      ∀ file ∈ [RunPlan.tested.directory.runLog, RunPlan.tested.directory.report,
          RunPlan.tested.directory.summary],
        (run .small .none .tested (.start .tested () .blank)).2.disk.locate file ≠
          (run .small .none .tested (.start .tested () .blank)).2.disk.locate "junit.xml" := by
    decide +kernel
  obtain ⟨hfinished, written, hfile, hplaces⟩ := hran
  obtain ⟨outcome, h⟩ := Outcome.exists_of_finished? hfinished
  have apart : RunPlan.tested.JunitApart
      (run .small .none .tested (.start .tested () .blank)).2.disk := by
    intro path hpath file hmem
    obtain rfl : "junit.xml" = path := Option.some.inj hpath
    exact Disk.apart_of_locate_ne (hplaces file hmem)
  have spares : Engine.small.Spares RunPlan.tested.directory.runLog := fun _ _ _ _ h => h
  obtain ⟨baseline, seeded, -, lists, -, reads⟩ :=
    run_artifacts .small .none .tested () .blank h written
  exact ⟨outcome, h, ⟨seeded, lists⟩, (reads apart).2 spares hfile⟩

/-- The small plan, with one seeded round. -/
def RunPlan.short : RunPlan :=
  { RunPlan.small with settings := { RunPlan.small.settings with maxRounds := 1 } }

/-- An engine that moves the mark of the baseline from the front of the run log to its end. -/
def Engine.shifting : Engine Unit := fun selection _ disk =>
  let path := Path.join selection.round.runDirectory RunDirectory.runLogName
  let mark := ExecutionId.baselineMark.length
  (⟨[], none, [], [], []⟩, (),
    match disk.locate path with
    | .ok place => disk.alter place fun old => old.drop mark ++ old.take mark
    | .error _ => disk)

/-- The run log need not list the rounds if the engine works on it too, though it is a file and all
    artifacts were written: here it marks the seeded round as the baseline. -/
theorem run_log_shifted :
    ∃ outcome, (run .shifting .none .short (.start .short () .blank)).1 =
        .ok (.finished outcome) ∧
      (run .shifting .none .short (.start .short () .blank)).2.events.filterMap
        RunEvent.failure? = [] ∧
      (run .shifting .none .short (.start .short () .blank)).2.disk.isFile
        RunPlan.short.directory.runLog = true ∧
      RunLog.read RunPlan.short.directory.runLog
          (run .shifting .none .short (.start .short () .blank)).2.disk ≠
        .ok (outcome.finished.records.map (·.round.id)) := by
  have hran : (run .shifting .none .short (.start .short () .blank)).2.events.filterMap
        RunEvent.failure? = [] ∧
      (run .shifting .none .short (.start .short () .blank)).2.disk.isFile
        RunPlan.short.directory.runLog = true ∧
      (Outcome.finished? (run .shifting .none .short (.start .short () .blank)).1).map
          (fun outcome => outcome.finished.records.map (·.round.id.baseline)) =
        some [true, false] ∧
      (RunLog.read RunPlan.short.directory.runLog
          (run .shifting .none .short (.start .short () .blank)).2.disk).toOption.map
            (fun ids => ids.map (·.baseline)) = some [false, true] := by
    decide +kernel
  obtain ⟨written, hfile, hmarks, hread⟩ := hran
  obtain ⟨outcome, hfinished, hrounds⟩ := Option.map_eq_some_iff.mp hmarks
  refine ⟨outcome, Outcome.eq_of_finished? hfinished, written, hfile, fun hids => ?_⟩
  rw [hids] at hread
  have hmarked : outcome.finished.records.map (·.round.id.baseline) = [false, true] := by
    simpa [Except.toOption, Function.comp_def] using hread
  exact absurd (hrounds.symm.trans hmarked) (by decide)

end

end

end Flaky
