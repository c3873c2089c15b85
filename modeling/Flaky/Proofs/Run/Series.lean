-- SUMMARY: Finished runs as series: one tally that takes the reports of the turns in a row gives the records of the run, and subtracting the baseline once is enough.
import Flaky.Proofs.Run.Course
import Flaky.Proofs.Subtraction
import Flaky.Round.Series

/-!
# Runs as series

A series has rounds and reports, but neither an engine nor a disk. The records of a
finished run are those of the series of its turns, with the failures of the
baseline subtracted; subtracting them again moves nothing.
-/

namespace Flaky

/-! ## Records of a series -/

/-- What rounds show in a row, after the rounds before them. -/
def Round.showAll (past : List (List Report)) : List (Round × List Report) → List RoundRecord
  | [] => []
  | (round, reports) :: rest => round.shows past reports :: showAll (past ++ [reports]) rest

/-- The records of a series are what the reports show, round after round. -/
theorem Tally.Holds.series {tally : Tally} {past : List (List Report)}
    (h : tally.Holds past []) (hopen : tally.frozen = none) (rounds : List (Round × List Report)) :
    (tally.series rounds).1 = Round.showAll past rounds := by
  induction rounds generalizing tally past with
  | nil => rfl
  | cons first rest ih =>
    obtain ⟨round, reports⟩ := first
    have record := congrFun (h.gives_shows hopen round) reports
    have next := (h.addAll hopen reports).freeze.reset false
    exact congrArg₂ List.cons (congrArg Prod.fst record) (ih next rfl)

/-- A turn as a round of a series. -/
def EngineTurn.entry (turn : EngineTurn) : Round × List Report := (turn.round, turn.reports)

theorem RunPlan.showAll_seededTurns (plan : RunPlan) (baseline : List Report)
    (seeded : List (List Report)) (dids : List EngineRun) :
    Round.showAll (baseline :: seeded) ((plan.seededTurns seeded.length dids).map (·.entry)) =
      plan.records baseline seeded (dids.map (·.reports)) := by
  induction dids generalizing seeded with
  | nil => rfl
  | cons did rest ih =>
    have later := ih (seeded ++ [did.reports])
    rw [List.length_append, List.length_singleton] at later
    rw [RunPlan.seededTurns_cons, List.map_cons, List.map_cons, RunPlan.records_cons, ← later]
    rfl

/-! ## Subtracting again -/

namespace RoundRecord

theorem round_subtractBaseline (record : RoundRecord) (failures : OrderedSet TestId) :
    (record.subtractBaseline failures).1.round = record.round := by
  unfold subtractBaseline
  split <;> rfl

/-- What was subtracted has nothing left to move. -/
theorem subtractBaseline_again (record : RoundRecord) (failures : OrderedSet TestId) :
    (record.subtractBaseline failures).1.subtractBaseline failures =
      ((record.subtractBaseline failures).1, 0) := by
  cases hbaseline : record.round.isBaseline with
  | true => exact subtractBaseline_of_isBaseline ((round_subtractBaseline ..).symm ▸ hbaseline) _
  | false =>
    refine subtractBaseline_of_disjoint fun id hid => ?_
    rw [subtractBaseline, hbaseline, if_neg Bool.false_ne_true, OrderedSet.mem_diff] at hid
    exact hid.2

variable {records : List RoundRecord} {failures : OrderedSet TestId}

theorem subtractAll_again :
    subtractAll failures (subtractAll failures records).1 =
      ((subtractAll failures records).1, List.replicate records.length 0) := by
  simp only [subtractAll, List.unzip_eq_map, List.map_map, Function.comp_def,
    subtractBaseline_again, List.map_const']

/-- However often some failures are subtracted, only the first time moves any. -/
theorem subtractTimes_succ (times : Nat) :
    subtractTimes failures (times + 1) records =
      ((subtractAll failures records).1, (subtractAll failures records).2 ::
        List.replicate times (List.replicate records.length 0)) := by
  induction times generalizing records with
  | zero => rfl
  | succ times ih =>
    have later := @ih (subtractAll failures records).1
    rw [subtractAll_again] at later
    unfold subtractTimes
    simp only [later]
    simp [subtractAll, List.replicate_succ]

end RoundRecord

/-! ## Whole runs -/

/-- The records of a run that finishes are those of the series of its turns: that of the baseline as
    it is, and the others with the failures of the baseline subtracted, once or more often. -/
theorem run_series {σ : Type} (engine : Engine σ) (instrumentation : Instrumentation)
    (plan : RunPlan) (state : σ) (disk : Disk) {outcome : RunOutcome}
    (h : (run engine instrumentation plan (.start plan state disk)).1 = .ok (.finished outcome)) :
    ∃ records,
      ((Tally.start plan.settings.filter plan.settings.cap).series
        ((run engine instrumentation plan (.start plan state disk)).2.turns.map (·.entry))).1 =
          outcome.finished.baseline :: records ∧
      ∀ times, (RoundRecord.subtractTimes outcome.finished.baselineFailures (times + 1) records).1 =
        outcome.finished.rounds := by
  obtain ⟨acts, course, moved⟩ := run_course engine instrumentation plan state disk
  rw [h] at course
  obtain ⟨baseline, seeded, status, -, turns, rfl, -⟩ := course.ended
  refine ⟨plan.records baseline.reports [] (seeded.map (·.reports)), ?_, fun times => ?_⟩
  · rw [moved.turns_start, turns, Tally.Holds.start.series rfl, RunPlan.turns, List.map_cons,
      ← plan.showAll_seededTurns]
    rfl
  · rw [RoundRecord.subtractTimes_succ]
    simp only [RoundRecord.subtractAll, List.unzip_eq_map, List.map_map]
    rfl

end Flaky
