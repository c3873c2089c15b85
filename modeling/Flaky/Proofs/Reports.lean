-- SUMMARY: What the reports of rounds say: the tests that failed and passed, the reports that rule out a retry, and the record that a round ought to have.
import Flaky.Round.Record

/-!
# What reports say

The meaning of a run's reports, told without a tally. A test fails in a round if
it is reported failed at least once there, and passes if it is reported passed
and never failed. A report of a failure in a seeded round rules out a retry of
its test if the test has now failed in more seeded rounds than the cap allows,
if the filter does not select the test as it is reported, or if the failure is
of a kind that says nothing about the test.
-/

namespace Flaky

/-! ## Failures and passes -/

namespace Report

def failedId? : Report → Option TestId
  | .failed test _ _ => some test.id
  | .passed _ | .skipped _ => none

def passedId? : Report → Option TestId
  | .passed test => some test.id
  | .failed _ _ _ | .skipped _ => none

end Report

/-- A test is reported failed at least once. -/
def ReportedFailed (reports : List Report) (id : TestId) : Prop :=
  ∃ test kind message, .failed test kind message ∈ reports ∧ test.id = id

/-- A test is reported passed at least once. -/
def ReportedPassed (reports : List Report) (id : TestId) : Prop :=
  ∃ test, .passed test ∈ reports ∧ test.id = id

/-- The tests that are reported failed at least once. -/
def failedTests (reports : List Report) : OrderedSet TestId :=
  .ofList (reports.filterMap Report.failedId?)

/-- The tests that are reported passed at least once. -/
def passedTests (reports : List Report) : OrderedSet TestId :=
  .ofList (reports.filterMap Report.passedId?)

theorem mem_failedTests {reports : List Report} {id : TestId} :
    id ∈ failedTests reports ↔ ReportedFailed reports id := by
  simp only [failedTests, OrderedSet.mem_ofList, List.mem_filterMap]
  constructor
  · rintro ⟨report, hmem, hid⟩
    cases report with
    | failed test kind message => exact ⟨test, kind, message, hmem, Option.some.inj hid⟩
    | passed test => simp [Report.failedId?] at hid
    | skipped test => simp [Report.failedId?] at hid
  · rintro ⟨test, kind, message, hmem, rfl⟩
    exact ⟨_, hmem, rfl⟩

theorem mem_passedTests {reports : List Report} {id : TestId} :
    id ∈ passedTests reports ↔ ReportedPassed reports id := by
  simp only [passedTests, OrderedSet.mem_ofList, List.mem_filterMap]
  constructor
  · rintro ⟨report, hmem, hid⟩
    cases report with
    | passed test => exact ⟨test, hmem, Option.some.inj hid⟩
    | failed test kind message => simp [Report.passedId?] at hid
    | skipped test => simp [Report.passedId?] at hid
  · rintro ⟨test, hmem, rfl⟩
    exact ⟨_, hmem, rfl⟩

@[simp] theorem failedTests_nil : failedTests [] = .empty := rfl

/-- One report more adds the test that it says has failed, and no other. -/
theorem failedTests_concat {reports : List Report} {report : Report} :
    failedTests (reports ++ [report]) =
      report.failedId?.elim (failedTests reports) (failedTests reports).insert := by
  cases h : report.failedId? <;> simp [failedTests, OrderedSet.ofList, h]

theorem passedTests_concat {reports : List Report} {report : Report} :
    passedTests (reports ++ [report]) =
      report.passedId?.elim (passedTests reports) (passedTests reports).insert := by
  cases h : report.passedId? <;> simp [passedTests, OrderedSet.ofList, h]

theorem failedTests_append {reports more : List Report} :
    failedTests (reports ++ more) = (failedTests reports).union (failedTests more) :=
  OrderedSet.ext_mem fun id => by simp [failedTests]

theorem passedTests_append {reports more : List Report} :
    passedTests (reports ++ more) = (passedTests reports).union (passedTests more) :=
  OrderedSet.ext_mem fun id => by simp [passedTests]

/-! ## Several rounds -/

/-- The tests that failed in some round. -/
def failedInSome (rounds : List (List Report)) : OrderedSet TestId :=
  .ofList (rounds.flatMap fun reports => (failedTests reports).toList)

@[simp] theorem mem_failedInSome {rounds : List (List Report)} {id : TestId} :
    id ∈ failedInSome rounds ↔ ∃ reports ∈ rounds, id ∈ failedTests reports := by
  simp [failedInSome, OrderedSet.mem_toList]

/-- The number of rounds in which a test failed. -/
def failureRounds (rounds : List (List Report)) (id : TestId) : Nat :=
  rounds.countP fun reports => id ∈ failedTests reports

theorem failureRounds_concat {rounds : List (List Report)} {reports : List Report} {id : TestId} :
    failureRounds (rounds ++ [reports]) id =
      failureRounds rounds id + if id ∈ failedTests reports then 1 else 0 := by
  by_cases h : id ∈ failedTests reports <;> simp [failureRounds, h]

/-- What a round shows, after the rounds before it, the baseline included. -/
def Round.shows (round : Round) (past : List (List Report)) (reports : List Report) : RoundRecord :=
  let passed := (passedTests reports).diff (failedTests reports)
  ⟨round, failedTests reports, passed, passed.inter (failedInSome past), .empty⟩

/-! ## Blocking reports -/

/-- Why a test that failed in a number of seeded rounds has failed too often, if so. -/
def FailureCap.reason? : FailureCap → (failures : Nat) → Option NoRetry
  | .count max, failures => if max < failures then some (.capExceeded failures max) else none
  | .unlimited, _ => none

/-- The kinds of failure that say nothing about the test. -/
def FailureKind.foreign : List FailureKind :=
  [.infrastructureError, .resourceExhausted, .selectionRefused]

namespace Report

/-- A report of a failure rules out a retry of its test, which has now failed in `failures` seeded
    rounds. -/
def Blocks (filter : Filter) (cap : FailureCap) (failures : Nat) : Report → Prop
  | .failed test kind _ =>
    (∃ max, cap = .count max ∧ max < failures) ∨ filter.selects test = false ∨
      kind ∈ FailureKind.foreign
  | .passed _ | .skipped _ => False

/-- The reason that a blocking report gives: the cap before the filter before the kind. -/
def blocking? (filter : Filter) (cap : FailureCap) (failures : Nat) : Report → Option NoRetry
  | .failed test kind _ =>
    ((cap.reason? failures).or (if filter.selects test then none else some .notSelected)).or
      (if kind ∈ FailureKind.foreign then some (.cause kind) else none)
  | .passed _ | .skipped _ => none

theorem blocking?_isSome {filter : Filter} {cap : FailureCap} {failures : Nat} {report : Report} :
    (report.blocking? filter cap failures).isSome = true ↔ report.Blocks filter cap failures := by
  cases report with
  | passed test => simp [blocking?, Blocks]
  | skipped test => simp [blocking?, Blocks]
  | failed test kind message =>
    cases cap with
    | unlimited =>
      by_cases hs : filter.selects test <;> simp [blocking?, Blocks, FailureCap.reason?, hs]
    | count max =>
      by_cases hm : max < failures <;> by_cases hs : filter.selects test <;>
        simp [blocking?, Blocks, FailureCap.reason?, hm, hs]

end Report

/-- The reason of the first report on a test that rules out a retry. -/
def firstReason? (filter : Filter) (cap : FailureCap) (failures : Nat) (reports : List Report)
    (id : TestId) : Option NoRetry :=
  reports.findSome? fun report =>
    if report.test.id = id then report.blocking? filter cap failures else none

theorem firstReason?_isSome {filter : Filter} {cap : FailureCap} {failures : Nat}
    {reports : List Report} {id : TestId} :
    (firstReason? filter cap failures reports id).isSome = true ↔
      ∃ report ∈ reports, report.test.id = id ∧ report.Blocks filter cap failures := by
  simp only [firstReason?, List.isSome_findSome?, List.any_eq_true]
  refine exists_congr fun report => and_congr_right fun _ => ?_
  by_cases hid : report.test.id = id
  · simp [hid, Report.blocking?_isSome]
  · simp [hid]

theorem mem_failedTests_of_firstReason? {filter : Filter} {cap : FailureCap} {failures : Nat}
    {reports : List Report} {id : TestId}
    (h : (firstReason? filter cap failures reports id).isSome = true) :
    id ∈ failedTests reports := by
  obtain ⟨report, hmem, hid, hblocks⟩ := firstReason?_isSome.mp h
  cases report with
  | failed test kind message => exact mem_failedTests.mpr ⟨test, kind, message, hmem, hid⟩
  | passed test => exact hblocks.elim
  | skipped test => exact hblocks.elim

/-- The tests that a seeded round rules out for a retry, after the seeded rounds before it, each
    with its first reason. -/
def ruledOut (filter : Filter) (cap : FailureCap) (seeded : List (List Report))
    (reports : List Report) : List (TestId × NoRetry) :=
  (failedTests reports).toList.filterMap fun id =>
    (firstReason? filter cap (failureRounds seeded id + 1) reports id).map fun reason => (id, reason)

end Flaky
