-- SUMMARY: What the exit code for flaky tests tells: a run took place, and a test failed in a seeded round of it that the engine did not report failed in the baseline.
import Flaky.Proofs.CommandLine.ExitCode

/-!
# The exit code for flaky tests

Only a run that finished ends the program with the exit code for flaky tests. A test is
flaky if it failed in a seeded round and not in the baseline. That does not mean that it
passed there: an engine may skip the test in the baseline, or not know of it.
-/

namespace Flaky

/-! ## Not failing -/

/-- The reports say of a test, as far as they speak of it, that it was skipped. -/
def OnlySkipped (reports : List Report) (id : TestId) : Prop :=
  ∀ report ∈ reports, report.test.id = id → ∃ test, report = .skipped test

/-- A test that is not reported failed is reported passed, or is skipped as far as it is
reported. -/
theorem passed_or_skipped {reports : List Report} {id : TestId}
    (h : ¬ ReportedFailed reports id) : ReportedPassed reports id ∨ OnlySkipped reports id := by
  by_cases hpassed : ReportedPassed reports id
  · exact .inl hpassed
  · refine .inr fun report hreport hid => ?_
    cases report with
    | passed test => exact absurd ⟨test, hreport, hid⟩ hpassed
    | failed test kind message => exact absurd ⟨test, kind, message, hreport, hid⟩ h
    | skipped test => exact ⟨test, rfl⟩

namespace CommandLine

/-- The program can be started with one request only. -/
theorem RunRequest.unique {surroundings : Surroundings} (request other : RunRequest surroundings) :
    request = other := by
  obtain ⟨invocation, options, root, settings, profile, engine, read, asked, rooted, loaded,
    found⟩ := request
  obtain ⟨invocation', options', root', settings', profile', engine', read', asked', rooted',
    loaded', found'⟩ := other
  obtain rfl : invocation = invocation' := Except.ok.inj (read.symm.trans read')
  obtain rfl : options = options' := Request.run.inj (asked.symm.trans asked')
  obtain rfl : root = root' := Except.ok.inj (rooted.symm.trans rooted')
  obtain rfl : settings = settings' := Except.ok.inj (loaded.symm.trans loaded')
  obtain ⟨rfl, rfl⟩ : profile = profile' ∧ engine = engine' :=
    Prod.mk.inj (Except.ok.inj (found.symm.trans found'))
  rfl

/-! ## Where flaky tests are found -/

variable {surroundings : Surroundings} {output : OutputOptions} {options : RunOptions}
variable {state : State} {count : Nat}

theorem exitCodeOf_flaky {result : Except Failure Unit} (h : exitCodeOf result = .flakyTests) :
    ∃ count, result = .error (.flaky count) := by
  rcases result with failure | _
  · cases failure with
    | flaky count => exact ⟨count, rfl⟩
    | run error => cases error <;> cases h
    | _ => cases h
  · cases h

theorem print_ne_flaky (text : String) : (print text state).1 ≠ .error (.flaky count) := by
  intro h
  have hprint : (state.console.writeOutput text).1.mapError Failure.output =
      .error (.flaky count) := h
  cases hwrite : (state.console.writeOutput text).1 with
  | ok => rw [hwrite] at hprint; cases hprint
  | error cause => rw [hwrite] at hprint; cases hprint

theorem showRunLog_ne_flaky (directory : String) :
    (showRunLog directory state).1 ≠ .error (.flaky count) := by
  unfold showRunLog
  split
  · exact nofun
  · exact print_ne_flaky _

theorem findProfile_ne_flaky {settings : Settings} :
    findProfile settings options ≠ .error (.flaky count) := by
  unfold findProfile
  split
  · exact nofun
  · split <;> exact nofun

theorem workspaceRoot_ne_flaky : workspaceRoot surroundings options ≠ .error (.flaky count) := by
  unfold workspaceRoot
  split
  · exact nofun
  · cases surroundings.currentDirectory <;> exact nofun

/-- Flaky tests are found by a run that came to an outcome. -/
theorem judgement_flaky {result : Except RunError Outcome}
    (h : judgement result = .error (.flaky count)) : ∃ outcome, result = .ok outcome := by
  rcases result with error | outcome
  · cases h
  · exact ⟨outcome, rfl⟩

theorem runProfile_flaky {root : String} {profile : Profile} {engine : Command}
    (h : (runProfile surroundings output options root profile engine state).1 =
      .error (.flaky count)) :
    judgement (Flaky.run (Engine.ofCommand surroundings.spawn engine root)
      (instrumentationOf surroundings.spawn root profile) (planOf surroundings options profile)
      (Session.start (planOf surroundings options profile) () state.disk)).1 =
        .error (.flaky count) := by
  unfold runProfile at h
  simp only at h
  split at h
  case h_1 => cases h
  case h_2 => rwa [concludeRun_fst] at h

theorem runTests_flaky
    (h : (runTests surroundings output options state).1 = .error (.flaky count)) :
    ∃ root settings profile engine, workspaceRoot surroundings options = .ok root ∧
      (Settings.load state.disk root options.configFile).result = .ok settings ∧
      findProfile settings options = .ok (profile, engine) ∧
      judgement (Flaky.run (Engine.ofCommand surroundings.spawn engine root)
        (instrumentationOf surroundings.spawn root profile) (planOf surroundings options profile)
        (Session.start (planOf surroundings options profile) () state.disk)).1 =
          .error (.flaky count) := by
  unfold runTests at h
  split at h
  case h_1 failure hroot =>
    obtain rfl : failure = .flaky count := Except.error.inj h
    exact absurd hroot workspaceRoot_ne_flaky
  case h_2 root hroot =>
    simp only at h
    split at h
    case h_1 => cases h
    case h_2 settings hsettings =>
      split at h
      case h_1 failure hfound =>
        obtain rfl : failure = .flaky count := Except.error.inj h
        exact absurd hfound findProfile_ne_flaky
      case h_2 profile engine hfound =>
        have hrun := runProfile_flaky h
        exact ⟨root, settings, profile, engine, hroot, hsettings, hfound, hrun⟩

/-- A program that ends with the exit code for flaky tests has made a run and found them there. -/
theorem execute_flaky_request (h : (execute surroundings).exitCode = .flakyTests) :
    ∃ request : RunRequest surroundings, ∃ count,
      judgement request.ran.1 = .error (.flaky count) := by
  unfold execute at h
  split at h
  case h_1 reason hread => cases reason <;> cases h
  case h_2 invocation hread =>
    simp only [finish_exitCode] at h
    obtain ⟨count, hcount⟩ := exitCodeOf_flaky h
    unfold carryOut at hcount
    split at hcount
    case h_1 options hasked =>
      obtain ⟨root, settings, profile, engine, hroot, hsettings, hfound, hrun⟩ :=
        runTests_flaky hcount
      exact ⟨⟨invocation, options, root, settings, profile, engine, hread, hasked, hroot, hsettings,
        hfound⟩, count, hrun⟩
    case h_2 directory hasked => exact absurd hcount (showRunLog_ne_flaky directory)
    case h_3 index base hasked => exact absurd hcount (print_ne_flaky _)

/-- If the program ends with the exit code for flaky tests, whatever its engine reported or skipped,
some test is reported failed in a seeded round and not in the baseline: it is reported passed there,
or skipped as far as it is reported at all. -/
theorem execute_flaky (h : (execute surroundings).exitCode.number = 100) :
    ∃ request : RunRequest surroundings, ∃ baseline seeded,
      request.ran.2.turns = request.plan.turns baseline seeded ∧
      ∃ id, (∃ did ∈ seeded, ReportedFailed did.reports id) ∧
        ¬ ReportedFailed baseline.reports id ∧
        (ReportedPassed baseline.reports id ∨ OnlySkipped baseline.reports id) := by
  obtain ⟨request, count, hjudgement⟩ := execute_flaky_request (number_eq_iff.mp h)
  obtain ⟨outcome, hresult⟩ := judgement_flaky hjudgement
  obtain ⟨single, many⟩ := run_judged request.worker request.instrumentation request.plan
    surroundings.disk hresult
  have hcode : (exitCodeOf (judgement (.ok outcome))).number = 100 := by
    rw [← hresult, hjudgement]
    rfl
  rw [hcode] at single many
  obtain ⟨baseline, seeded, turns, judges⟩ :=
    many fun hsingle => absurd (single hsingle) (by decide)
  obtain ⟨-, id, hfailed, hfresh⟩ := judges.flaky.mp rfl
  exact ⟨request, baseline, seeded, turns, id, hfailed, hfresh, passed_or_skipped hfresh⟩

/-! ## A test that is skipped in the baseline -/

/-- The program makes one seeded round with an engine that skips its only test in the baseline and
fails it under perturbation. -/
def Surroundings.skipping : Surroundings :=
  { Surroundings.small ["--rounds", "1"] with
    spawn := fun launch disk =>
      let kind := if ("FLAKEHUNT_PERTURB", "1") ∈ launch.environment then "failed" else "skipped"
      let event := "\x7b\"event\":\"" ++ kind ++ "\",\"class\":\"A\",\"method\":\"a\"\x7d\n"
      .ok ⟨Utf8.bytes (event ++ "\x7b\"event\":\"finished\"\x7d\n"), [], .code 0, disk⟩ }

theorem exists_skipping : ∃ request : RunRequest .skipping,
    exitCodeOf (judgement request.ran.1) = .flakyTests ∧
      request.ran.2.turns.map (·.reports) =
        [[.skipped ⟨⟨"A", "a"⟩, []⟩], [.failed ⟨⟨"A", "a"⟩, []⟩ .assertion none]] := by
  have hfind : (RunRequest.find? .skipping).map (fun request =>
      (exitCodeOf (judgement request.ran.1), request.ran.2.turns.map (·.reports))) =
      some (.flakyTests,
        [[.skipped ⟨⟨"A", "a"⟩, []⟩], [.failed ⟨⟨"A", "a"⟩, []⟩ .assertion none]]) := by
    decide +kernel
  obtain ⟨request, -, hran⟩ := Option.map_eq_some_iff.mp hfind
  exact ⟨request, Prod.mk.inj hran⟩

theorem execute_skipping : (execute .skipping).exitCode.number = 100 := by
  obtain ⟨request, hcode, -⟩ := exists_skipping
  rw [execute_exitCode_eq request rfl, hcode]
  rfl

theorem execute_flaky_skipping : (execute .skipping).exitCode.number = 100 ∧
    ∃ request : RunRequest .skipping, ∃ baseline seeded,
      request.ran.2.turns = request.plan.turns baseline seeded ∧
      ∃ id, (∃ did ∈ seeded, ReportedFailed did.reports id) ∧
        ¬ ReportedFailed baseline.reports id ∧
        (ReportedPassed baseline.reports id ∨ OnlySkipped baseline.reports id) :=
  ⟨execute_skipping, execute_flaky execute_skipping⟩

/-- The exit code for flaky tests does not mean that a test passed in the baseline. -/
theorem not_execute_flaky_passed : ¬ ∀ surroundings,
    (execute surroundings).exitCode.number = 100 →
    ∃ request : RunRequest surroundings, ∃ baseline seeded,
      request.ran.2.turns = request.plan.turns baseline seeded ∧
      ∃ id, ReportedPassed baseline.reports id ∧
        ∃ did ∈ seeded, ReportedFailed did.reports id := by
  intro claimed
  obtain ⟨request, baseline, seeded, turns, id, ⟨test, hpassed, -⟩, -⟩ :=
    claimed .skipping execute_skipping
  obtain ⟨found, -, hreports⟩ := exists_skipping
  rw [found.unique request, turns, RunPlan.turns, List.map_cons] at hreports
  have hbaseline : baseline.reports = [.skipped ⟨⟨"A", "a"⟩, []⟩] := (List.cons.inj hreports).1
  rw [hbaseline, List.mem_singleton] at hpassed
  cases hpassed

end CommandLine

end Flaky
