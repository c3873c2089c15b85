-- SUMMARY: When the seeded rounds of a run stop, with which status, and which tests an early stop names.
import Flaky.Proofs.Run.Course
import Mathlib.Order.Bounds.Basic

/-!
# The stop policy

The seeded rounds stop after the first one with a report that rules out a retry,
after the first one at all if the settings say so, and at the latest when all
rounds that the run may have are over. The first of these that applies gives the
status.
-/

namespace Flaky

/-! ## Blocking reports -/

namespace RunSettings

variable {settings : RunSettings} {seeded : List (List Report)} {reports : List Report}

/-- A report of the seeded round at `i` rules out a retry of its test. What counts against the cap
    are the rounds up to this one in which the test failed. -/
def Blocking (settings : RunSettings) (seeded : List (List Report)) (i : Nat) (report : Report) :
    Prop :=
  ∃ reports, seeded[i]? = some reports ∧ report ∈ reports ∧
    report.Blocks settings.filter settings.cap (failureRounds (seeded.take (i + 1)) report.test.id)

/-- The first report on a test in the seeded round at `i` that rules out a retry gives a reason. -/
def FirstBlocking (settings : RunSettings) (seeded : List (List Report)) (i : Nat) (id : TestId)
    (reason : NoRetry) : Prop :=
  ∃ earlier report later, seeded[i]? = some (earlier ++ report :: later) ∧ report.test.id = id ∧
    report.blocking? settings.filter settings.cap (failureRounds (seeded.take (i + 1)) id) =
      some reason ∧
    ∀ other ∈ earlier, other.test.id = id →
      ¬ other.Blocks settings.filter settings.cap (failureRounds (seeded.take (i + 1)) id)

/-- The rounds are to stop once `k` seeded rounds are over. -/
def Over (settings : RunSettings) (seeded : List (List Report)) (k : Nat) : Prop :=
  (∃ report, settings.Blocking seeded (k - 1) report) ∨ settings.simulateNonRetryable = true ∨
    k = settings.maxRounds

end RunSettings

/-- Only a round in which a test failed can rule out its retry, so the round itself counts. -/
theorem firstReason?_upTo {filter : Filter} {cap : FailureCap} {seeded : List (List Report)}
    {reports : List Report} {id : TestId} :
    firstReason? filter cap (failureRounds seeded id + 1) reports id =
      firstReason? filter cap (failureRounds (seeded ++ [reports]) id) reports id := by
  by_cases hid : id ∈ failedTests reports
  · rw [failureRounds_concat, if_pos hid]
  · have never : ∀ failures, firstReason? filter cap failures reports id = none := by
      intro failures
      rw [← Option.not_isSome_iff_eq_none]
      exact fun h => hid (mem_failedTests_of_firstReason? h)
    rw [never, never]

theorem mem_ruledOut {filter : Filter} {cap : FailureCap} {seeded : List (List Report)}
    {reports : List Report} {id : TestId} {reason : NoRetry} :
    (id, reason) ∈ ruledOut filter cap seeded reports ↔
      firstReason? filter cap (failureRounds (seeded ++ [reports]) id) reports id = some reason := by
  simp only [ruledOut, List.mem_filterMap, Option.map_eq_some_iff, Prod.mk.injEq, firstReason?_upTo]
  constructor
  · rintro ⟨other, -, found, hfound, rfl, rfl⟩
    exact hfound
  · intro h
    have hfailed := mem_failedTests_of_firstReason? (Option.isSome_of_mem h)
    exact ⟨id, hfailed, reason, h, rfl, rfl⟩

/-- The tests that a round rules out are listed in order, each once. -/
theorem ruledOut_sorted {filter : Filter} {cap : FailureCap} {seeded : List (List Report)}
    {reports : List Report} :
    (ruledOut filter cap seeded reports).Pairwise fun a b => compare a.1 b.1 = .lt := by
  refine (failedTests reports).increasing.filterMap _ ?_
  intro a b hab x hx y hy
  simp only [Option.map_eq_some_iff] at hx hy
  obtain ⟨_, -, rfl⟩ := hx
  obtain ⟨_, -, rfl⟩ := hy
  exact hab

namespace RunSettings

section

variable {settings : RunSettings} {seeded : List (List Report)} {reports : List Report} {i : Nat}

theorem take_upTo (h : seeded[i]? = some reports) :
    seeded.take (i + 1) = seeded.take i ++ [reports] := by
  rw [List.take_add_one, h, Option.toList_some]

theorem firstBlocking_iff (h : seeded[i]? = some reports) {id : TestId} {reason : NoRetry} :
    settings.FirstBlocking seeded i id reason ↔
      (id, reason) ∈ ruledOut settings.filter settings.cap (seeded.take i) reports := by
  rw [mem_ruledOut, firstReason?, List.findSome?_eq_some_iff, FirstBlocking, take_upTo h, h]
  have silent : ∀ report : Report, (if report.test.id = id then
      report.blocking? settings.filter settings.cap
        (failureRounds (seeded.take i ++ [reports]) id) else none) = none ↔
      (report.test.id = id → ¬ report.Blocks settings.filter settings.cap
        (failureRounds (seeded.take i ++ [reports]) id)) := by
    intro report
    by_cases hid : report.test.id = id
    · simp [hid, ← Report.blocking?_isSome]
    · simp [hid]
  simp only [silent, Option.some.injEq]
  constructor
  · rintro ⟨earlier, report, later, rfl, rfl, hreason, hfirst⟩
    exact ⟨earlier, report, later, rfl, by rw [if_pos rfl, hreason], hfirst⟩
  · rintro ⟨earlier, report, later, rfl, hreason, hfirst⟩
    obtain ⟨hid, hreason⟩ := by simpa [ite_eq_iff] using hreason
    exact ⟨earlier, report, later, rfl, hid, hreason, hfirst⟩

theorem mem_ruledOut_iff_blocking (h : seeded[i]? = some reports) {id : TestId} :
    id ∈ (ruledOut settings.filter settings.cap (seeded.take i) reports).map (·.1) ↔
      ∃ report, settings.Blocking seeded i report ∧ report.test.id = id := by
  simp only [Blocking, h, Option.some.injEq, exists_eq_left', take_upTo h]
  simp only [List.mem_map, Prod.exists, mem_ruledOut, exists_and_right, exists_eq_right,
    ← Option.isSome_iff_exists, firstReason?_isSome]
  constructor
  · rintro ⟨report, hmem, rfl, hblocks⟩
    exact ⟨report, ⟨hmem, hblocks⟩, rfl⟩
  · rintro ⟨report, ⟨hmem, hblocks⟩, rfl⟩
    exact ⟨report, hmem, rfl, hblocks⟩

theorem exists_blocking_iff (h : seeded[i]? = some reports) :
    (∃ report, settings.Blocking seeded i report) ↔
      ruledOut settings.filter settings.cap (seeded.take i) reports ≠ [] := by
  constructor
  · rintro ⟨report, hblocking⟩ hnil
    have hlisted := (mem_ruledOut_iff_blocking h).mpr ⟨report, hblocking, rfl⟩
    simp [hnil] at hlisted
  · intro hne
    obtain ⟨entry, hentry⟩ := List.exists_mem_of_ne_nil _ hne
    obtain ⟨report, hblocking, -⟩ :=
      (mem_ruledOut_iff_blocking h).mp (List.mem_map_of_mem hentry)
    exact ⟨report, hblocking⟩

/-- The rounds are over after a round exactly if they stop after it. -/
theorem over_iff (h : seeded[i]? = some reports) :
    settings.Over seeded (i + 1) ↔ settings.stop? (seeded.take i) reports ≠ none := by
  have hlength : (seeded.take i).length = i :=
    List.length_take_of_le (List.getElem?_eq_some_iff.mp h).1.le
  rw [Over, Nat.add_sub_cancel, exists_blocking_iff h, stop?, hlength]
  split
  case isTrue hne => simp [hne]
  case isFalse hnil =>
    split
    case isTrue hsimulate => simp [hsimulate]
    case isFalse hsimulate => simp [hnil, hsimulate]

end

/-! ## The status -/

/-- The rounds stopped as soon as they were to, with the status that tells why. -/
structure Stopped (settings : RunSettings) (seeded : List (List Report)) (status : RunStatus) :
    Prop where
  least : IsLeast {k | 1 ≤ k ∧ settings.Over seeded k} seeded.length
  nonRetried : (∃ tests, status = .aborted (.nonRetried tests)) ↔
    ∃ report, settings.Blocking seeded (seeded.length - 1) report
  simulated : status = .aborted .simulated ↔
    (¬ ∃ report, settings.Blocking seeded (seeded.length - 1) report) ∧
      settings.simulateNonRetryable = true
  completed : status = .completed ↔
    (¬ ∃ report, settings.Blocking seeded (seeded.length - 1) report) ∧
      settings.simulateNonRetryable = false
  all : status = .completed → seeded.length = settings.maxRounds
  tests : ∀ tests, status = .aborted (.nonRetried tests) →
    tests ≠ [] ∧ (tests.Pairwise fun a b => compare a.1 b.1 = .lt) ∧
    (∀ id, id ∈ tests.map (·.1) ↔
      ∃ report, settings.Blocking seeded (seeded.length - 1) report ∧ report.test.id = id) ∧
    ∀ id reason, (id, reason) ∈ tests ↔
      settings.FirstBlocking seeded (seeded.length - 1) id reason

section

variable {settings : RunSettings} {seeded : List (List Report)} {reports : List Report}
variable {status : RunStatus}

/-- A round after which the rounds went on was not to be the last. -/
theorem Ends.not_over {last : Option RunStatus} (h : settings.Ends [] seeded last) {k : Nat}
    (hk : 1 ≤ k) (hle : k ≤ seeded.length) (hlast : k = seeded.length → last = none) :
    ¬ settings.Over seeded k := by
  obtain ⟨i, rfl⟩ : ∃ i, k = i + 1 := ⟨k - 1, by omega⟩
  have hi : seeded[i]? = some seeded[i] := List.getElem?_eq_getElem (by omega)
  have hnone : settings.stop? (seeded.take i) seeded[i] = none := by
    rw [← List.nil_append (seeded.take i), h i _ hi, ite_eq_right_iff]
    exact hlast
  rw [over_iff hi, hnone]
  exact fun hne => hne rfl

/-- The status of rounds that stop: a report that rules out a retry comes before the setting, and
    the setting before the last round. -/
theorem stop?_eq_some (h : settings.stop? seeded reports = some status) :
    (ruledOut settings.filter settings.cap seeded reports ≠ [] ∧
      status = .aborted (.nonRetried (ruledOut settings.filter settings.cap seeded reports))) ∨
    (ruledOut settings.filter settings.cap seeded reports = [] ∧
      settings.simulateNonRetryable = true ∧ status = .aborted .simulated) ∨
    (ruledOut settings.filter settings.cap seeded reports = [] ∧
      settings.simulateNonRetryable = false ∧ seeded.length + 1 = settings.maxRounds ∧
      status = .completed) := by
  simp only [stop?] at h
  split at h
  case isTrue hne => exact .inl ⟨hne, (Option.some.inj h).symm⟩
  case isFalse hnil =>
    rw [not_not] at hnil
    split at h
    case isTrue hsimulate => exact .inr (.inl ⟨hnil, hsimulate, (Option.some.inj h).symm⟩)
    case isFalse hsimulate =>
      split at h
      case isTrue hmax =>
        exact .inr (.inr ⟨hnil, by simpa using hsimulate, hmax, (Option.some.inj h).symm⟩)
      case isFalse => cases h

/-- Rounds that ended with a status stopped as they were to. -/
theorem Ends.stopped (hne : seeded ≠ []) (h : settings.Ends [] seeded (some status)) :
    settings.Stopped seeded status := by
  have hpos : 0 < seeded.length := List.length_pos_iff.mpr hne
  have hlast : seeded[seeded.length - 1]? = some (seeded.getLast hne) := by
    rw [List.getElem?_eq_getElem (by omega), List.getLast_eq_getElem]
  have hlength : (seeded.take (seeded.length - 1)).length + 1 = seeded.length := by
    rw [List.length_take]
    omega
  have hstop : settings.stop? (seeded.take (seeded.length - 1)) (seeded.getLast hne) =
      some status := by
    simpa [Nat.sub_add_cancel hpos] using h _ _ hlast
  have hover : settings.Over seeded seeded.length := by
    have := (over_iff hlast).mpr (by rw [hstop]; exact Option.some_ne_none _)
    rwa [Nat.sub_add_cancel hpos] at this
  have hleast : IsLeast {k | 1 ≤ k ∧ settings.Over seeded k} seeded.length := by
    refine ⟨⟨hpos, hover⟩, ?_⟩
    rintro k ⟨hk, hkover⟩
    by_contra hlt
    exact h.not_over hk (by omega) (fun heq => absurd heq (by omega)) hkover
  have hblocking : (∃ report, settings.Blocking seeded (seeded.length - 1) report) ↔ _ :=
    exists_blocking_iff hlast
  rcases stop?_eq_some hstop with
    ⟨htests, rfl⟩ | ⟨hnil, hsimulate, rfl⟩ | ⟨hnil, hsimulate, hmax, rfl⟩
  · refine ⟨hleast, ?_, ?_, ?_, ?_, ?_⟩
    · simp [hblocking, htests]
    · simp [hblocking, htests]
    · simp [hblocking, htests]
    · simp
    · intro tests heq
      obtain rfl : ruledOut .. = tests := by simpa using heq
      exact ⟨htests, ruledOut_sorted, fun id => mem_ruledOut_iff_blocking hlast,
        fun id reason => (firstBlocking_iff hlast).symm⟩
  · exact ⟨hleast, by simp [hblocking, hnil], by simp [hblocking, hnil, hsimulate],
      by simp [hsimulate], by simp, by simp⟩
  · exact ⟨hleast, by simp [hblocking, hnil], by simp [hsimulate],
      by simp [hblocking, hnil, hsimulate], fun _ => by omega, by simp⟩

end

end RunSettings

/-! ## Whole runs -/

section

variable {σ : Type}

/-- A run whose engine never fails comes to an outcome, and its seeded rounds stopped as soon as
    they were to, unless a directory or the instrumentation was missing; then no round before was to
    be the last. -/
theorem run_stop_policy (engine : Engine σ) (instrumentation : Instrumentation) (plan : RunPlan)
    (state : σ) (disk : Disk) (many : 1 ≤ plan.settings.maxRounds)
    (unfailing : ∀ turn ∈ (run engine instrumentation plan (.start plan state disk)).2.turns,
      turn.did.failure = none) :
    ∃ seeded : List EngineRun,
      (run engine instrumentation plan (.start plan state disk)).2.turns.tail =
        plan.seededTurns 0 seeded ∧
      (∀ outcome, (run engine instrumentation plan (.start plan state disk)).1 =
          .ok (.finished outcome) →
        outcome.finished.rounds.length = seeded.length ∧
        plan.settings.Stopped (seeded.map (·.reports)) outcome.finished.status) ∧
      (∀ record, (run engine instrumentation plan (.start plan state disk)).1 ≠
        .ok (.unperturbed record)) ∧
      (∀ error, (run engine instrumentation plan (.start plan state disk)).1 = .error error →
        ((∃ path cause, error = .directory path cause) ∨ ∃ e, error = .instrumentation e) ∧
        ∀ k, 1 ≤ k → k ≤ seeded.length →
          ¬ plan.settings.Over (seeded.map (·.reports)) k) := by
  obtain ⟨acts, course, moved⟩ := run_course engine instrumentation plan state disk
  rw [moved.turns_start] at unfailing ⊢
  cases hresult : (run engine instrumentation plan (.start plan state disk)).1 with
  | error error =>
    rw [hresult] at course
    obtain ⟨herror, seeded, turns, ends⟩ := course.cut unfailing
    refine ⟨seeded, turns, by simp, by simp, ?_⟩
    intro error' h
    obtain rfl := Except.error.inj h
    refine ⟨herror, fun k hk hle => ?_⟩
    exact ends.not_over hk (by simpa using hle) fun _ => rfl
  | ok outcome =>
    rw [hresult] at course
    cases outcome with
    | unperturbed record =>
      cases course with
      | unperturbed single failure => omega
    | finished outcome =>
      obtain ⟨baseline, seeded, status, hne, turns, rfl, ends⟩ := course.ended
      refine ⟨seeded, by rw [turns]; rfl, ?_, by simp, by simp⟩
      intro outcome' h
      obtain rfl := Outcome.finished.inj (Except.ok.inj h)
      refine ⟨?_, ends.stopped (by simpa using hne)⟩
      simp [RunPlan.finish, subtractAll, RunPlan.records]

theorem run_stop_policy_small :
    ∃ (outcome : RunOutcome) (seeded : List EngineRun),
      (run .small .none .small (.start .small () .blank)).1 = .ok (.finished outcome) ∧
      (run .small .none .small (.start .small () .blank)).2.turns.tail =
        RunPlan.small.seededTurns 0 seeded ∧
      outcome.finished.rounds.length = seeded.length ∧
      RunPlan.small.settings.Stopped (seeded.map (·.reports)) outcome.finished.status := by
  obtain ⟨outcome, h⟩ := small_finishes
  have unfailing := (run_calls Engine.small .none RunPlan.small () .blank).unfailing
    fun _ _ _ => rfl
  obtain ⟨seeded, turns, policy, -, -⟩ :=
    run_stop_policy Engine.small .none RunPlan.small () .blank (by decide) unfailing
  exact ⟨outcome, seeded, h, turns, policy outcome h⟩

end

end Flaky
