-- SUMMARY: The order of the reports in a round does not matter to the tally, but for the reason that a test is given.
import Flaky.Proofs.TallyHistory
import Mathlib.Data.List.Nodup

/-!
# The order of reports

What a tally makes of the reports of a round is told by the tests that they speak
of, whatever their order. Only the reason that is given to a test is that of its
first blocking report, and so it is the same in every order if no test is reported
failed twice.
-/

namespace Flaky

/-! ## Reports in another order -/

section

variable {reports reports' : List Report} {filter : Filter} {cap : FailureCap} {failures : Nat}
variable {id : TestId}

theorem failedTests_perm (h : reports.Perm reports') :
    failedTests reports = failedTests reports' := by
  apply OrderedSet.ext_mem
  intro id
  simp only [mem_failedTests, ReportedFailed, h.mem_iff]

theorem passedTests_perm (h : reports.Perm reports') :
    passedTests reports = passedTests reports' := by
  apply OrderedSet.ext_mem
  intro id
  simp only [mem_passedTests, ReportedPassed, h.mem_iff]

/-- Whether a test has a reason is a matter of its reports alone. -/
theorem firstReason?_isSome_perm (h : reports.Perm reports') :
    (firstReason? filter cap failures reports id).isSome =
      (firstReason? filter cap failures reports' id).isSome := by
  rw [Bool.eq_iff_iff, firstReason?_isSome, firstReason?_isSome]
  simp only [h.mem_iff]

theorem Report.failedId?_of_blocking? {report : Report} {reason : NoRetry}
    (h : report.blocking? filter cap failures = some reason) :
    report.failedId? = some report.test.id := by
  cases report with
  | failed test kind message => rfl
  | passed test => cases h
  | skipped test => cases h

/-- Where no test is reported failed twice, the first reason of a test is its only one. -/
theorem firstReason?_eq_some_iff (hnodup : (reports.filterMap Report.failedId?).Nodup)
    {reason : NoRetry} :
    firstReason? filter cap failures reports id = some reason ↔
      ∃ report ∈ reports, report.test.id = id ∧
        report.blocking? filter cap failures = some reason := by
  constructor
  · intro h
    obtain ⟨report, hmem, hreason⟩ := List.exists_of_findSome?_eq_some h
    obtain ⟨hid, hreason⟩ := by simpa [ite_eq_iff] using hreason
    exact ⟨report, hmem, hid, hreason⟩
  · rintro ⟨report, hmem, rfl, hreason⟩
    obtain ⟨earlier, later, rfl⟩ := List.append_of_mem hmem
    refine List.findSome?_eq_some_iff.mpr ⟨earlier, report, later, rfl, by simp [hreason], ?_⟩
    -- an earlier report with a reason would be a second failure of the test
    intro other hother
    by_contra hne
    obtain ⟨_, hother'⟩ := Option.ne_none_iff_exists'.mp hne
    obtain ⟨hid, hother'⟩ := by simpa [ite_eq_iff] using hother'
    have htwice : report.test.id ∈ earlier.filterMap Report.failedId? :=
      List.mem_filterMap.mpr ⟨other, hother, hid ▸ Report.failedId?_of_blocking? hother'⟩
    rw [List.filterMap_append, List.filterMap_cons_some (Report.failedId?_of_blocking? hreason),
      List.nodup_middle, List.nodup_cons] at hnodup
    exact hnodup.1 (List.mem_append_left _ htwice)

theorem firstReason?_perm (h : reports.Perm reports')
    (hnodup : (reports.filterMap Report.failedId?).Nodup) :
    firstReason? filter cap failures reports id = firstReason? filter cap failures reports' id := by
  have hnodup' : (reports'.filterMap Report.failedId?).Nodup :=
    (h.filterMap Report.failedId?).nodup_iff.mp hnodup
  apply Option.ext
  intro reason
  rw [firstReason?_eq_some_iff hnodup, firstReason?_eq_some_iff hnodup']
  simp only [h.mem_iff]

end

/-! ## Rounds in another order -/

namespace Tally

section

variable {reasons reasons' : List (TestId × NoRetry)}

theorem orderedReasons_congr (h : ∀ id, reasons.lookup id = reasons'.lookup id) :
    orderedReasons reasons = orderedReasons reasons' := by
  have hkeys : OrderedSet.ofList (reasons.map (·.1)) = .ofList (reasons'.map (·.1)) := by
    apply OrderedSet.ext_mem
    intro id
    rw [OrderedSet.mem_ofList, OrderedSet.mem_ofList, mem_keys_iff, mem_keys_iff, h]
  simp only [orderedReasons, hkeys, h]

theorem orderedReasons_keys_congr
    (h : ∀ id, (reasons.lookup id).isSome = (reasons'.lookup id).isSome) :
    (orderedReasons reasons).map (·.1) = (orderedReasons reasons').map (·.1) := by
  rw [orderedReasons_keys, orderedReasons_keys]
  congr 1
  apply OrderedSet.ext_mem
  intro id
  rw [OrderedSet.mem_ofList, OrderedSet.mem_ofList, mem_keys_iff, mem_keys_iff, h]

end

variable {tally after : Tally} {reports reports' : List Report}

/-- What is left of some reports once their round is over. -/
theorem Takes.freeze_reset (h : tally.Takes reports after) (lastRound : Bool) :
    after.freeze.reset lastRound = { tally.reset lastRound with
      failureCount := after.failureCount
      total := after.total
      everFailed := tally.everFailed.union after.current.failed } := by
  rw [freeze, reset, reset, h.frame]

/-- The reports of a round may come in any order: its result differs in the reasons at most, and
    once it is over the tally is the same. The reasons are the same too if no test is reported failed
    twice. -/
theorem addAll_perm (hopen : tally.frozen = none) (h : reports.Perm reports') :
    (tally.addAll reports).result.failed = (tally.addAll reports').result.failed ∧
      (tally.addAll reports).result.passed = (tally.addAll reports').result.passed ∧
      (tally.addAll reports).result.recovered = (tally.addAll reports').result.recovered ∧
      (tally.addAll reports).result.nonRetried = (tally.addAll reports').result.nonRetried ∧
      (tally.addAll reports).result.lastRound = (tally.addAll reports').result.lastRound ∧
      (tally.addAll reports).freeze.failureCount = (tally.addAll reports').freeze.failureCount ∧
      (tally.addAll reports).freeze.total = (tally.addAll reports').freeze.total ∧
      (∀ lastRound, (tally.addAll reports).freeze.reset lastRound =
        (tally.addAll reports').freeze.reset lastRound) ∧
      ((reports.filterMap Report.failedId?).Nodup →
        (tally.addAll reports).result.reasons = (tally.addAll reports').result.reasons) := by
  have takes := addAll_takes hopen reports
  have takes' := addAll_takes hopen reports'
  have hresult := result_of_open (takes.frozen.trans hopen)
  have hresult' := result_of_open (takes'.frozen.trans hopen)
  generalize tally.addAll reports = after at takes hresult ⊢
  generalize tally.addAll reports' = after' at takes' hresult' ⊢
  have hfailed : after.current.failed = after'.current.failed := by
    rw [takes.failed, takes'.failed, failedTests_perm h]
  have hpassed : after.current.passed = after'.current.passed := by
    rw [takes.passed, takes'.passed, passedTests_perm h]
  have hever : after.everFailed = after'.everFailed := takes.everFailed.trans takes'.everFailed.symm
  have hcount : after.failureCount = after'.failureCount := by
    funext id
    rw [takes.count, takes'.count, failedTests_perm h]
  have htotal : after.total = after'.total := by
    rw [takes.total, takes'.total, (h.filterMap Report.failedId?).length_eq]
  have hkeys : ∀ id, (after.current.reasons.lookup id).isSome =
      (after'.current.reasons.lookup id).isSome := by
    intro id
    rw [takes.reasons, takes'.reasons, Option.isSome_or, Option.isSome_or]
    cases tally.inBaseline with
    | true => rfl
    | false => exact congrArg (_ || ·) (firstReason?_isSome_perm h)
  rw [hresult, hresult']
  refine ⟨?_, ?_, ?_, ?_, ?_, hcount, htotal, ?_, ?_⟩
  · simp only [snapshot, hfailed]
  · simp only [snapshot, hfailed, hpassed]
  · simp only [snapshot, hfailed, hpassed, hever]
  · simp only [snapshot, orderedReasons_keys_congr hkeys]
  · exact takes.lastRound.trans takes'.lastRound.symm
  · intro lastRound
    rw [takes.freeze_reset, takes'.freeze_reset, hcount, htotal, hfailed]
  · intro hnodup
    refine orderedReasons_congr fun id => ?_
    rw [takes.reasons, takes'.reasons]
    simp only [firstReason?_perm h hnodup]

/-- A seeded round in which one test fails twice, and another passes and fails. -/
def mixed : List Report :=
  let repeated : Test := ⟨⟨"C", "a"⟩, []⟩
  let undecided : Test := ⟨⟨"C", "b"⟩, []⟩
  [.failed repeated .infrastructureError none, .passed undecided, .failed undecided .error none,
    .failed repeated .resourceExhausted none]

theorem addAll_perm_mixed :
    ((start .everything .unlimited).reset false).frozen = none ∧ mixed.Perm mixed.reverse ∧
      (((start .everything .unlimited).reset false).addAll mixed).result.nonRetried =
        (((start .everything .unlimited).reset false).addAll mixed.reverse).result.nonRetried := by
  obtain ⟨-, -, -, hnonRetried, -⟩ := @addAll_perm ((start .everything .unlimited).reset false)
    mixed mixed.reverse rfl mixed.reverse_perm.symm
  exact ⟨rfl, mixed.reverse_perm.symm, hnonRetried⟩

/-- The reason of a test that is reported failed twice does depend on the order. -/
theorem exists_perm_reasons_ne :
    ∃ (tally : Tally) (reports reports' : List Report), tally.frozen = none ∧
      reports.Perm reports' ∧
      (tally.addAll reports).result.reasons ≠ (tally.addAll reports').result.reasons :=
  ⟨(start .everything .unlimited).reset false, mixed, mixed.reverse, rfl,
    mixed.reverse_perm.symm, by decide⟩

end Tally

end Flaky
