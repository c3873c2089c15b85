-- SUMMARY: What can go wrong in a run: the one deed that failed is what the run comes to, and a run that is not instrumented is told by its instrumentation alone.
import Flaky.Proofs.Run.EngineFailure
import Flaky.Proofs.Run.StopPolicy

/-!
# What can go wrong in a run

A run breaks off with the first directory that cannot be created and with the first
error of its engine, so its deeds hold at most one such mishap, and that is the error
that it comes to. The only other error is that of the instrumentation, which is called
once, in the directory of the run. A run without mishap comes to an outcome.
-/

namespace Flaky

/-! ## Mishaps -/

/-- The error that a deed is to a run, if nothing can follow it. -/
def Deed.mishap? : Deed → Option RunError
  | .createDirectory path (.error cause) => some (.directory path cause)
  | .execute turn => turn.did.failure.map (.engine turn.selection.round.id)
  | .createDirectory _ (.ok ()) | .tell _ | .instrument | .openLog _ | .log .. | .write .. => none

/-- The mishaps of a run that came to a result. -/
def mishapsOf : Except RunError Outcome → List RunError
  | .error (.directory path cause) => [.directory path cause]
  | .error (.engine id error) => [.engine id error]
  | .error (.instrumentation _) | .ok _ => []

section

variable {plan : RunPlan} {deeds : List Deed} {result : Except RunError Outcome}

/-- Rounds that finish have no mishap, and neither has what comes before them. -/
theorem RunPlan.rounds_mishap (opened : Except RunLogError Unit) (rounds : List FinishedRound) :
    (plan.openingDeeds opened ++ rounds.flatMap plan.roundDeeds).filterMap Deed.mishap? = [] := by
  rw [← filterMap_worksOf fun _ => rfl, worksOf_append, worksOf_openingDeeds, worksOf_rounds,
    List.filterMap_eq_nil_iff]
  intro deed hdeed
  rcases List.mem_append.mp hdeed with hopening | hround
  · simp only [List.mem_cons, List.not_mem_nil, or_false] at hopening
    rcases hopening with rfl | rfl | rfl <;> rfl
  · obtain ⟨finished, -, hdeed⟩ := List.mem_flatMap.mp hround
    have unfailing : (finished.turn plan).did.failure = none := finished.unfailing
    unfold FinishedRound.logDeed? at hdeed
    simp only [List.mem_append, List.mem_cons, List.not_mem_nil, or_false, Option.mem_toList,
      Option.map_eq_some_iff] at hdeed
    rcases hdeed with (rfl | rfl) | ⟨logged, -, rfl⟩
    · rfl
    · rw [Deed.mishap?, unfailing, Option.map_none]
    · rfl

theorem FinishedRun.closingDeeds_mishap (run : FinishedRun) (writings : List Writing) :
    (run.closingDeeds writings).filterMap Deed.mishap? = [] := by
  rw [← filterMap_worksOf fun _ => rfl, worksOf_closingDeeds, List.filterMap_eq_nil_iff]
  intro deed hdeed
  obtain ⟨writing, -, rfl⟩ := List.mem_map.mp hdeed
  rfl

theorem RunPlan.callDeeds_mishap (round : Round) (did : EngineRun) :
    (plan.callDeeds round did).filterMap Deed.mishap? =
      (did.failure.map (.engine round.id)).toList := by
  unfold RunPlan.callDeeds
  simp only [List.filterMap_cons, Deed.mishap?, List.filterMap_nil, RunPlan.turn]
  cases did.failure <;> rfl

theorem RunPlan.Broken.mishap {round : Round} {error : RunError}
    (h : plan.Broken round deeds error) :
    deeds.filterMap Deed.mishap? = mishapsOf (.error error) := by
  cases h with
  | unplaced => rfl
  | @failed did error failure =>
    rw [List.filterMap_cons_none rfl, callDeeds_mishap, failure]
    rfl

/-- The mishaps among the deeds of a run are what the run comes to. -/
theorem Diary.mishaps (h : Diary plan deeds result) :
    deeds.filterMap Deed.mishap? = mishapsOf result := by
  cases h with
  | @unperturbedFailed did error single failure =>
    rw [List.filterMap_cons_none rfl, RunPlan.callDeeds_mishap, failure]
    rfl
  | @unperturbed did result single unfailing =>
    rw [List.cons_append, List.filterMap_cons_none rfl, List.filterMap_append,
      RunPlan.callDeeds_mishap, unfailing]
    rfl
  | noDirectory many => rfl
  | uninstrumented many => rfl
  | @broken opened rounds deeds error many consecutive broken =>
    rw [List.cons_append, List.filterMap_cons_none rfl, ← List.append_assoc,
      List.filterMap_append, RunPlan.rounds_mishap, List.nil_append, broken.mishap]
  | @finished opened baseline rounds status run writings many consecutive hrun tasks =>
    rw [List.cons_append, List.filterMap_cons_none rfl, ← List.append_assoc,
      List.filterMap_append, RunPlan.rounds_mishap, List.nil_append,
      FinishedRun.closingDeeds_mishap]
    rfl

theorem mem_mishapsOf {error : RunError} (h : error ∈ mishapsOf result) :
    result = .error error := by
  rcases result with (_ | _ | _) | _ <;> simp_all [mishapsOf]

/-- A run comes to an error of its engine exactly if a call of the engine fails. -/
theorem Diary.engine_iff (h : Diary plan deeds result) :
    (∃ id error, result = .error (.engine id error)) ↔
      ∃ turn ∈ deeds.filterMap Deed.turn?, turn.did.failure ≠ none := by
  constructor
  · rintro ⟨id, error, rfl⟩
    have hmem : RunError.engine id error ∈ deeds.filterMap Deed.mishap? := by
      rw [h.mishaps]
      exact List.mem_singleton_self _
    obtain ⟨deed, hdeed, hmishap⟩ := List.mem_filterMap.mp hmem
    cases deed with
    | execute turn =>
      refine ⟨turn, List.mem_filterMap.mpr ⟨_, hdeed, rfl⟩, fun hnone => ?_⟩
      simp [Deed.mishap?, hnone] at hmishap
    | createDirectory path outcome => cases outcome <;> simp [Deed.mishap?] at hmishap
    | _ => simp [Deed.mishap?] at hmishap
  · rintro ⟨turn, hturn, hfailure⟩
    obtain ⟨deed, hdeed, hcall⟩ := List.mem_filterMap.mp hturn
    obtain ⟨error, herror⟩ := Option.ne_none_iff_exists'.mp hfailure
    have hmishap : deed.mishap? = some (.engine turn.selection.round.id error) := by
      cases deed <;> simp_all [Deed.turn?, Deed.mishap?]
    have hmem := List.mem_filterMap.mpr ⟨deed, hdeed, hmishap⟩
    rw [h.mishaps] at hmem
    exact ⟨_, _, mem_mishapsOf hmem⟩

/-- A run comes to the error of a directory exactly if a directory cannot be created. -/
theorem Diary.directory_iff (h : Diary plan deeds result) :
    (∃ path cause, result = .error (.directory path cause)) ↔
      ∃ path cause, Deed.createDirectory path (.error cause) ∈ deeds := by
  constructor
  · rintro ⟨path, cause, rfl⟩
    have hmem : RunError.directory path cause ∈ deeds.filterMap Deed.mishap? := by
      rw [h.mishaps]
      exact List.mem_singleton_self _
    obtain ⟨deed, hdeed, hmishap⟩ := List.mem_filterMap.mp hmem
    cases deed with
    | createDirectory path' outcome =>
      cases outcome with
      | error cause' => exact ⟨path', cause', hdeed⟩
      | ok done => simp [Deed.mishap?] at hmishap
    | _ => simp [Deed.mishap?] at hmishap
  · rintro ⟨path, cause, hdeed⟩
    have hmem := List.mem_filterMap.mpr ⟨_, hdeed, (rfl : Deed.mishap? _ = some _)⟩
    rw [h.mishaps] at hmem
    exact ⟨path, cause, mem_mishapsOf hmem⟩

/-- A run without mishap that is instrumented comes to an outcome. -/
theorem Diary.exists_outcome (h : Diary plan deeds result)
    (called : ¬ ∃ turn ∈ deeds.filterMap Deed.turn?, turn.did.failure ≠ none)
    (placed : ¬ ∃ path cause, Deed.createDirectory path (.error cause) ∈ deeds)
    (instrumented : ¬ ∃ error, result = .error (.instrumentation error)) :
    ∃ outcome, result = .ok outcome := by
  rw [← h.engine_iff] at called
  rw [← h.directory_iff] at placed
  cases result with
  | ok outcome => exact ⟨outcome, rfl⟩
  | error error =>
    cases error with
    | directory path cause => exact absurd ⟨path, cause, rfl⟩ placed
    | instrumentation error => exact absurd ⟨error, rfl⟩ instrumented
    | engine id error => exact absurd ⟨id, error, rfl⟩ called

/-- The outcome of a run tells whether the run could have a seeded round. -/
theorem Diary.unperturbed_iff {outcome : Outcome} (h : Diary plan deeds (.ok outcome)) :
    (∃ record, outcome = .unperturbed record) ↔ plan.settings.maxRounds = 0 := by
  cases h with
  | unperturbed single unfailing => exact ⟨fun _ => single, fun _ => ⟨_, rfl⟩⟩
  | finished many =>
    refine ⟨?_, fun single => absurd single many⟩
    rintro ⟨record, hrecord⟩
    cases hrecord

end

/-! ## Instrumentation -/

/-- The instrumentation of a run fails in the run's directory, or leaves no directory for the
artifact. -/
def RunPlan.Uninstrumented (plan : RunPlan) (instrumentation : Instrumentation) (disk : Disk) :
    Prop :=
  plan.settings.maxRounds ≠ 0 ∧
    ∃ placed, disk.createDirectories plan.directory.path = (.ok (), placed) ∧
      ((instrumentation plan.artifacts placed).failure ≠ none ∨
        (instrumentation plan.artifacts placed).disk.isDirectory plan.artifacts = false)

section

variable {σ : Type} {engine : Engine σ} {instrumentation : Instrumentation} {plan : RunPlan}
variable {s : Session σ} {error : InstrumentationError}

theorem prepare_error (h : (prepare plan instrumentation s).1 = .error (.instrumentation error)) :
    ∃ placed, s.disk.createDirectories plan.directory.path = (.ok (), placed) ∧
      ((instrumentation plan.artifacts placed).failure ≠ none ∨
        (instrumentation plan.artifacts placed).disk.isDirectory plan.artifacts = false) := by
  unfold prepare at h
  rcases hplace : s.disk.createDirectories plan.directory.path with ⟨cause | _, placed⟩
  case error => simp [hplace] at h
  case ok =>
    refine ⟨placed, rfl, ?_⟩
    by_contra hnot
    simp only [not_or, not_not, Bool.not_eq_false] at hnot
    have hdirectory : ({ s.act (.instrument plan.artifacts) with
        disk := (instrumentation plan.artifacts placed).disk }.note
          (instrumentation plan.artifacts placed).notes).disk.isDirectory plan.artifacts = true :=
      hnot.2
    simp [hplace, hnot.1, hdirectory] at h

/-- No error of the instrumentation comes from a round. -/
theorem RunPlan.Broken.ne_instrumentation {round : Round} {deeds : List Deed} :
    ¬ plan.Broken round deeds (.instrumentation error) := by
  intro h
  cases h

theorem runBaseline_error
    (h : (runBaseline engine instrumentation plan s).1 = .error (.instrumentation error)) :
    (prepare plan instrumentation s).1 = .error (.instrumentation error) := by
  unfold runBaseline at h
  split at h
  case h_1 failure s₁ hprepare =>
    obtain rfl := Except.error.inj h
    rw [hprepare]
  case h_2 s₁ hprepare =>
    have ran := runRound_did engine instrumentation plan plan.baseline
      ((openRunLog plan s₁).advance .baseline)
    split at h
    case h_1 failure s₂ hrun =>
      rw [hrun] at ran
      cases ran with
      | broken broken did =>
        obtain rfl := Except.error.inj h
        exact absurd broken RunPlan.Broken.ne_instrumentation
    case h_2 => cases h

theorem runPerturbed_error {left : Nat}
    (h : (runPerturbed engine instrumentation plan left s).1 = .error (.instrumentation error)) :
    (prepare plan instrumentation s).1 = .error (.instrumentation error) := by
  unfold runPerturbed at h
  split at h
  case h_1 failure s₁ hbaseline =>
    obtain rfl := Except.error.inj h
    exact runBaseline_error (congrArg Prod.fst hbaseline)
  case h_2 baseline s₁ hbaseline =>
    have seeded := roundsFrom_did engine instrumentation plan plan.settings.maxRounds left 0 s₁
    simp only [seededRounds] at h
    split at h
    case h_1 failure s₂ hrounds =>
      rw [hrounds] at seeded
      cases seeded with
      | broken consecutive broken did =>
        obtain rfl := Except.error.inj h
        exact absurd broken RunPlan.Broken.ne_instrumentation
    case h_2 => cases h

/-- A run comes to an error of its instrumentation exactly if it is not instrumented. -/
theorem run_instrumentation_iff (engine : Engine σ) (instrumentation : Instrumentation)
    (plan : RunPlan) (state : σ) (disk : Disk) :
    (∃ error, (run engine instrumentation plan (.start plan state disk)).1 =
      .error (.instrumentation error)) ↔ plan.Uninstrumented instrumentation disk := by
  constructor
  · rintro ⟨error, hrun⟩
    obtain ⟨deeds, diary, -⟩ := run_diary engine instrumentation plan state disk
    have many : plan.settings.maxRounds ≠ 0 := by
      rw [hrun] at diary
      cases diary <;> assumption
    obtain ⟨left, hleft⟩ := Nat.exists_eq_succ_of_ne_zero many
    rw [run_many engine instrumentation state disk hleft.symm] at hrun
    obtain ⟨placed, hplaced, hfailed⟩ := prepare_error (runPerturbed_error hrun)
    have hdisk : (plan.started state disk).disk = disk := rfl
    rw [hdisk] at hplaced
    exact ⟨many, placed, hplaced, hfailed⟩
  · rintro ⟨many, placed, hplaced, hfailed⟩
    exact run_uninstrumented engine instrumentation many state hplaced hfailed

end

end Flaky
