-- SUMMARY: The exit code of a program that runs tests, as a function of what happened in the run.
import Flaky.Proofs.CommandLine.Request
import Flaky.Proofs.Run.Mishaps
import Flaky.Proofs.Run.Verdict

/-!
# The exit code of a run

If its progress can be written, the program ends as its run did. Every way in which
a run can end has an exit code of its own, so the code tells whether the engine, the
instrumentation or a directory failed, and else what the reports of the engine make
of the run.
-/

namespace Flaky

/-! ## Writing to the console -/

theorem Stream.write_fault (stream : Stream) (text : String) :
    (stream.write text).2.fault = stream.fault := by
  unfold Stream.write
  split
  · rfl
  · split <;> rfl

theorem Stream.write_ok {stream : Stream} (h : stream.fault = none) (text : String) :
    (stream.write text).1 = .ok () := by
  unfold Stream.write
  split
  · rfl
  · rw [h]

namespace Console

variable {console : Console}

theorem log_fault (entry : LogEntry) : (console.log entry).errors.fault = console.errors.fault := by
  unfold log
  split
  · exact Stream.write_fault ..
  · rfl

theorem logAll_fault (entries : List LogEntry) :
    (console.logAll entries).errors.fault = console.errors.fault := by
  induction entries generalizing console with
  | nil => rfl
  | cons entry entries ih => exact ih.trans (log_fault entry)

theorem start_fault (output errors : Stream) (colored : Bool) (setting : Option String) :
    (Console.start output errors colored setting).errors.fault = errors.fault := by
  unfold Console.start
  split
  · rfl
  · split
    · rfl
    · exact log_fault _

theorem writeErrors_ok (h : console.errors.fault = none) (text : String) :
    (console.writeErrors text).1 = .ok () :=
  Stream.write_ok h text

end Console

namespace CommandLine

/-! ## From the run to the program -/

/-- What a run is to the program. -/
def judgement : Except RunError Outcome → Except Failure Unit
  | .error error => .error (.run error)
  | .ok (.unperturbed _) => .ok ()
  | .ok (.finished outcome) => verdict outcome

/-- The exit code of a program that came to a result. -/
def exitCodeOf : Except Failure Unit → ExitCode
  | .ok () => .ok
  | .error failure => failure.exitCode

theorem finish_exitCode (result : Except Failure Unit) (state : State) :
    (finish result state).exitCode = exitCodeOf result := by
  rcases result with failure | _ <;> rfl

theorem concludeRun_fst (result : Except RunError Outcome) (state : State) :
    (concludeRun result state).1 = judgement result := by
  rcases result with error | _ | outcome <;> rfl

variable {surroundings : Surroundings}

/-- A program whose progress can be written makes the run that it is asked for, and judges it. -/
theorem runTests_fst (request : RunRequest surroundings) {state : State}
    (hdisk : state.disk = surroundings.disk) (writable : state.console.errors.fault = none) :
    (runTests surroundings request.invocation.output request.options state).1 =
      judgement request.ran.1 := by
  unfold runTests
  simp only [request.rooted, hdisk, request.loaded, request.found]
  unfold runProfile
  simp only
  split
  case h_1 cause console hwrite =>
    have hok := congrArg Prod.fst hwrite
    rw [Console.writeErrors_ok] at hok
    · cases hok
    · rw [Console.logAll_fault, Console.logAll_fault, writable]
  case h_2 console hwrite =>
    rw [concludeRun_fst]
    rfl

/-- The program ends as its run did. -/
theorem execute_exitCode_eq (request : RunRequest surroundings)
    (writable : surroundings.errorsFault = none) :
    (execute surroundings).exitCode = exitCodeOf (judgement request.ran.1) := by
  unfold execute
  simp only [request.read]
  rw [finish_exitCode, carryOut, request.asked]
  exact congrArg exitCodeOf (runTests_fst request rfl
    ((Console.start_fault ..).trans writable))

/-! ## Exit codes -/

/-- Every exit code has a number of its own. -/
theorem number_eq_iff {code other : ExitCode} : code.number = other.number ↔ code = other := by
  constructor
  · cases code <;> cases other <;> decide
  · exact congrArg ExitCode.number

/-- A run that was aborted is told so whether or not it found flaky tests. -/
theorem verdict_exitCode (outcome : RunOutcome) : exitCodeOf (verdict outcome) =
    if outcome.finished.status.phase = .aborted then .nonRetriedTests
    else if outcome.hasFlakyTests then .flakyTests else .ok := by
  unfold verdict RunOutcome.undetermined?
  cases outcome.finished.status with
  | aborted reason => rfl
  | completed => cases outcome.hasFlakyTests <;> rfl

/-- No error shares its exit code with an outcome. -/
theorem outcome_exitCode {code : ExitCode}
    (hcode : code ∉ [ExitCode.ok, .flakyTests, .nonRetriedTests]) (outcome : Outcome) :
    exitCodeOf (judgement (.ok outcome)) ≠ code := by
  rintro rfl
  apply hcode
  rcases outcome with _ | outcome
  · exact List.mem_cons_self
  · rw [judgement, verdict_exitCode]
    split
    · decide
    · split <;> decide

section

variable {result : Except RunError Outcome}

theorem engineFailed_iff : exitCodeOf (judgement result) = .engineFailed ↔
    ∃ id error, result = .error (.engine id error) := by
  rcases result with (_ | _ | ⟨id, error⟩) | outcome
  case error.engine => exact ⟨fun _ => ⟨id, error, rfl⟩, fun _ => rfl⟩
  case ok => simpa using outcome_exitCode (by decide) outcome
  all_goals simp [judgement, exitCodeOf, Failure.exitCode, Failure.runExitCode]

theorem instrumentationFailed_iff : exitCodeOf (judgement result) = .instrumentationFailed ↔
    ∃ error, result = .error (.instrumentation error) := by
  rcases result with (_ | error | _) | outcome
  case error.instrumentation => exact ⟨fun _ => ⟨error, rfl⟩, fun _ => rfl⟩
  case ok => simpa using outcome_exitCode (by decide) outcome
  all_goals simp [judgement, exitCodeOf, Failure.exitCode, Failure.runExitCode]

theorem setupError_iff : exitCodeOf (judgement result) = .setupError ↔
    ∃ path cause, result = .error (.directory path cause) := by
  rcases result with (⟨path, cause⟩ | _ | _) | outcome
  case error.directory => exact ⟨fun _ => ⟨path, cause, rfl⟩, fun _ => rfl⟩
  case ok => simpa using outcome_exitCode (by decide) outcome
  all_goals simp [judgement, exitCodeOf, Failure.exitCode, Failure.runExitCode]

end

/-! ## What the exit code tells -/

/-- The exit code tells how the rounds of a run ended whose engine, instrumentation and directories
did not fail: whether they were aborted, and else whether a test is flaky. -/
structure Judges (plan : RunPlan) (last : Phase) (baseline : EngineRun) (seeded : List EngineRun)
    (code : UInt8) : Prop where
  stops : last = .aborted ↔
    (∃ report, plan.settings.Blocking (seeded.map (·.reports)) (seeded.length - 1) report) ∨
      plan.settings.simulateNonRetryable = true
  aborted : code = 106 ↔ last = .aborted
  flaky : code = 100 ↔ last ≠ .aborted ∧
    ∃ id, (∃ did ∈ seeded, ReportedFailed did.reports id) ∧ ¬ ReportedFailed baseline.reports id
  fine : code = 0 ↔ last ≠ .aborted ∧
    ¬ ∃ id, (∃ did ∈ seeded, ReportedFailed did.reports id) ∧ ¬ ReportedFailed baseline.reports id

/-- The status of rounds that stopped is that of an abort if a report ruled out a retry, or if the
settings say so. -/
theorem phase_aborted_iff {settings : RunSettings} {seeded : List (List Report)}
    {status : RunStatus} (h : settings.Stopped seeded status) :
    status.phase = .aborted ↔
      (∃ report, settings.Blocking seeded (seeded.length - 1) report) ∨
        settings.simulateNonRetryable = true := by
  have hphase : status.phase = .aborted ↔ status ≠ .completed := by
    cases status <;> simp [RunStatus.phase]
  rw [hphase, Ne, h.completed, not_and_or, not_not, Bool.not_eq_false]

theorem judges_of_ended {plan : RunPlan} {outcome : RunOutcome} {last : Phase}
    {baseline : EngineRun} {seeded : List EngineRun} {status : RunStatus}
    (hlast : last = outcome.finished.status.phase) (hne : seeded ≠ [])
    (houtcome : outcome = ⟨plan.directory, plan.finish (plan.baseline.shows [] baseline.reports)
      (plan.records baseline.reports [] (seeded.map (·.reports))) status⟩)
    (ends : plan.settings.Ends [] (seeded.map (·.reports)) (some status)) :
    Judges plan last baseline seeded (exitCodeOf (verdict outcome)).number := by
  have hflaky : outcome.hasFlakyTests = true ↔ ∃ id,
      (∃ did ∈ seeded, ReportedFailed did.reports id) ∧
        ¬ ReportedFailed baseline.reports id := by
    rw [RunOutcome.hasFlakyTests_iff, houtcome]
    simp [RunPlan.mem_finish_flaky]
  have hstatus : outcome.finished.status = status := by rw [houtcome]; rfl
  have stopped := ends.stopped (by simpa using hne)
  have code : ∀ other : ExitCode, (exitCodeOf (verdict outcome)).number = other.number ↔
      (if last = .aborted then ExitCode.nonRetriedTests
        else if outcome.hasFlakyTests then .flakyTests else .ok) = other := by
    intro other
    rw [number_eq_iff, verdict_exitCode, hlast]
  constructor
  case stops =>
    rw [hlast, hstatus, phase_aborted_iff stopped, List.length_map]
  case aborted =>
    refine (code .nonRetriedTests).trans ?_
    by_cases haborted : last = .aborted <;> cases outcome.hasFlakyTests <;> simp [haborted]
  case flaky =>
    refine (code .flakyTests).trans ?_
    rw [← hflaky]
    by_cases haborted : last = .aborted <;> cases outcome.hasFlakyTests <;> simp [haborted]
  case fine =>
    refine (code .ok).trans ?_
    rw [← hflaky]
    by_cases haborted : last = .aborted <;> cases outcome.hasFlakyTests <;> simp [haborted]

/-- A run that came to an outcome made no seeded round and succeeds, or is judged by what its engine
reported. -/
theorem run_judged (engine : Engine Unit) (instrumentation : Instrumentation) (plan : RunPlan)
    (disk : Disk) {outcome : Outcome}
    (hresult : (run engine instrumentation plan (.start plan () disk)).1 = .ok outcome) :
    let session := (run engine instrumentation plan (.start plan () disk)).2
    let code := (exitCodeOf (judgement (.ok outcome))).number
    (plan.settings.maxRounds = 0 → code = 0) ∧
      (plan.settings.maxRounds ≠ 0 → ∃ baseline seeded,
        session.turns = plan.turns baseline seeded ∧
          Judges plan session.phase baseline seeded code) := by
  intro session code
  obtain ⟨deeds, diary, -⟩ := run_diary engine instrumentation plan () disk
  obtain ⟨acts, course, moved⟩ := run_course engine instrumentation plan () disk
  have phased := run_phased engine instrumentation plan () disk
  have hphase : session.phase = outcome.phase := phased.last outcome hresult
  rw [hresult] at diary course
  cases outcome with
  | unperturbed record =>
    have single := diary.unperturbed_iff.mp ⟨record, rfl⟩
    exact ⟨fun _ => rfl, fun many => absurd single many⟩
  | finished outcome =>
    obtain ⟨baseline, seeded, status, hne, turns, houtcome, ends⟩ := course.ended
    refine ⟨fun single => ?_, fun _ => ⟨baseline, seeded, moved.turns_start.trans turns, ?_⟩⟩
    · obtain ⟨record, hrecord⟩ := diary.unperturbed_iff.mpr single
      cases hrecord
    · exact judges_of_ended hphase hne houtcome ends

/-- If the progress of a run can be written, the exit code tells whether the engine, the
instrumentation or a directory failed. Else it tells of a run with seeded rounds whether it was
aborted or found flaky tests, and of a run without them nothing. -/
theorem execute_exitCode (request : RunRequest surroundings)
    (writable : surroundings.errorsFault = none) :
    let plan := request.plan
    let session := request.ran.2
    let code := (execute surroundings).exitCode.number
    ∃ deeds, Diary plan deeds request.ran.1 ∧
      request.start.Did request.worker request.instrumentation plan deeds session ∧
      (code = 101 ↔ ∃ turn ∈ session.turns, turn.did.failure ≠ none) ∧
      (code = 102 ↔ plan.Uninstrumented request.instrumentation surroundings.disk) ∧
      (code = 96 ↔ ∃ path cause, Deed.createDirectory path (.error cause) ∈ deeds) ∧
      ((∀ turn ∈ session.turns, turn.did.failure = none) →
        ¬ plan.Uninstrumented request.instrumentation surroundings.disk →
        (∀ path cause, Deed.createDirectory path (.error cause) ∉ deeds) →
        (plan.settings.maxRounds = 0 → code = 0) ∧
        (plan.settings.maxRounds ≠ 0 → ∃ baseline seeded,
          session.turns = plan.turns baseline seeded ∧
            Judges plan session.phase baseline seeded code)) := by
  intro plan session code
  obtain ⟨deeds, diary, did⟩ :=
    run_diary request.worker request.instrumentation plan () surroundings.disk
  have hturns : session.turns = deeds.filterMap Deed.turn? := did.turns.trans (List.nil_append _)
  have hcode : code = (exitCodeOf (judgement request.ran.1)).number := by
    rw [← execute_exitCode_eq request writable]
  have hengine : code = 101 ↔ ∃ turn ∈ session.turns, turn.did.failure ≠ none := by
    rw [hturns, ← diary.engine_iff, hcode]
    exact number_eq_iff.trans engineFailed_iff
  have hinstrumentation : code = 102 ↔
      plan.Uninstrumented request.instrumentation surroundings.disk := by
    rw [← run_instrumentation_iff request.worker request.instrumentation plan (), hcode]
    exact number_eq_iff.trans instrumentationFailed_iff
  have hdirectory : code = 96 ↔ ∃ path cause, Deed.createDirectory path (.error cause) ∈ deeds := by
    rw [← diary.directory_iff, hcode]
    exact number_eq_iff.trans setupError_iff
  refine ⟨deeds, diary, did, hengine, hinstrumentation, hdirectory, ?_⟩
  intro called instrumented placed
  obtain ⟨outcome, hresult⟩ : ∃ outcome, request.ran.1 = .ok outcome := by
    refine diary.exists_outcome ?_ ?_ ?_
    · rw [← hturns]
      exact fun ⟨turn, hturn, hfailure⟩ => hfailure (called turn hturn)
    · exact fun ⟨path, cause, hdeed⟩ => placed path cause hdeed
    · rwa [run_instrumentation_iff]
  have judged := run_judged request.worker request.instrumentation plan surroundings.disk hresult
  rw [hcode, hresult]
  exact judged

/-! ## A test that fails under perturbation -/

/-- The program makes one seeded round with an engine whose only test passes in the baseline and
fails under perturbation, with a failure of some kind. -/
def Surroundings.failing (kind : FailureKind) : Surroundings :=
  { Surroundings.small ["--rounds", "1"] with
    spawn := fun launch disk =>
      let event := if launch.environment.contains ("FLAKEHUNT_PERTURB", "1")
        then "failed\",\"kind\":\"" ++ kind.name else "passed"
      let test := "\",\"class\":\"A\",\"method\":\"a\"\x7d\n"
      .ok ⟨Utf8.bytes ("\x7b\"event\":\"" ++ event ++ test ++ "\x7b\"event\":\"finished\"\x7d\n"),
        [], .code 0, disk⟩ }

/-- A run that finds a flaky test, and one that is aborted because the failure rules out a retry. -/
theorem execute_exitCode_failing :
    (∃ request : RunRequest (.failing .assertion), ∃ baseline seeded,
      (execute (.failing .assertion)).exitCode.number = 100 ∧
        request.ran.2.turns = request.plan.turns baseline seeded ∧
        Judges request.plan request.ran.2.phase baseline seeded 100) ∧
    ∃ request : RunRequest (.failing .infrastructureError), ∃ baseline seeded,
      (execute (.failing .infrastructureError)).exitCode.number = 106 ∧
        request.ran.2.turns = request.plan.turns baseline seeded ∧
        Judges request.plan request.ran.2.phase baseline seeded 106 := by
  have judged : ∀ (kind : FailureKind) (code : UInt8) (request : RunRequest (.failing kind)),
      request.plan.settings.maxRounds = 1 →
      (exitCodeOf (judgement request.ran.1)).number = code → code ∉ ([101, 102, 96] : List UInt8) →
      ∃ baseline seeded, (execute (.failing kind)).exitCode.number = code ∧
        request.ran.2.turns = request.plan.turns baseline seeded ∧
        Judges request.plan request.ran.2.phase baseline seeded code := by
    intro kind code request hrounds hjudged hcode
    obtain ⟨hengine, hinstrumentation, hdirectory⟩ : code ≠ 101 ∧ code ≠ 102 ∧ code ≠ 96 := by
      simpa using hcode
    have hexit : (execute (.failing kind)).exitCode.number = code := by
      rw [execute_exitCode_eq request rfl, hjudged]
    obtain ⟨deeds, -, -, engine, instrumentation, directory, judges⟩ := execute_exitCode request rfl
    rw [hexit] at engine instrumentation directory judges
    have called : ∀ turn ∈ request.ran.2.turns, turn.did.failure = none := by
      intro turn hturn
      by_contra hfailure
      exact hengine (engine.mpr ⟨turn, hturn, hfailure⟩)
    have instrumented : ¬ request.plan.Uninstrumented request.instrumentation _ :=
      fun h => hinstrumentation (instrumentation.mpr h)
    have placed : ∀ path cause, Deed.createDirectory path (.error cause) ∉ deeds :=
      fun path cause h => hdirectory (directory.mpr ⟨path, cause, h⟩)
    have many : request.plan.settings.maxRounds ≠ 0 := by simp [hrounds]
    obtain ⟨baseline, seeded, turns, told⟩ := (judges called instrumented placed).2 many
    exact ⟨baseline, seeded, hexit, turns, told⟩
  have hflaky : (RunRequest.find? (.failing .assertion)).map (fun request =>
      (request.plan.settings.maxRounds, (exitCodeOf (judgement request.ran.1)).number)) =
        some (1, 100) := by
    decide +kernel
  have haborted : (RunRequest.find? (.failing .infrastructureError)).map (fun request =>
      (request.plan.settings.maxRounds, (exitCodeOf (judgement request.ran.1)).number)) =
        some (1, 106) := by
    decide +kernel
  obtain ⟨request, -, hran⟩ := Option.map_eq_some_iff.mp hflaky
  obtain ⟨request', -, hran'⟩ := Option.map_eq_some_iff.mp haborted
  obtain ⟨hrounds, hcode⟩ := Prod.mk.inj hran
  obtain ⟨hrounds', hcode'⟩ := Prod.mk.inj hran'
  exact ⟨⟨request, judged _ _ request hrounds hcode (by decide)⟩,
    ⟨request', judged _ _ request' hrounds' hcode' (by decide)⟩⟩

end CommandLine

end Flaky
