-- SUMMARY: What an open tally becomes by taking a list of reports, from whatever state it is in.
import Flaky.Proofs.GroupedTests
import Flaky.Proofs.Reports

/-!
# Tallies that take reports

`Tally.Takes` says what every part of a tally is after some reports, in terms of
what it was before them. It speaks of the reports as a whole and not of their
order, but for the first reason that a test is given. How often a test has failed
cannot change twice in one round, so all reports on a test are judged alike.
-/

namespace Flaky.Tally

/-! ## What reports make of a tally -/

/-- The tally `before` has taken some reports and become `after`. -/
structure Takes (before : Tally) (reports : List Report) (after : Tally) : Prop where
  failed : after.current.failed = before.current.failed.union (failedTests reports)
  passed : after.current.passed = before.current.passed.union (passedTests reports)
  count : ∀ id, after.failureCount id =
    if before.inBaseline = false ∧ id ∈ failedTests reports then before.countAfter id
    else before.failureCount id
  total : after.total = before.total + (reports.filterMap Report.failedId?).length
  reasons : ∀ id, after.current.reasons.lookup id =
    (before.current.reasons.lookup id).or
      (if before.inBaseline then none
      else firstReason? before.filter before.cap (before.countAfter id) reports id)
  /-- Nothing else changes. -/
  frame : after = { before with
    failureCount := after.failureCount, total := after.total, current := after.current }

theorem Takes.nil (tally : Tally) : tally.Takes [] tally where
  failed := OrderedSet.ext_mem fun id => by simp
  passed := OrderedSet.ext_mem fun id => by simp [passedTests]
  count id := by simp
  total := rfl
  reasons id := by simp [firstReason?]
  frame := rfl

/-! ## Single reports -/

section

variable {tally before after : Tally} {reports : List Report}

theorem lookup_addReason {id other : TestId} {reason : Option NoRetry}
    {reasons : List (TestId × NoRetry)} :
    (addReason id reason reasons).lookup other =
      (reasons.lookup other).or (if id = other then reason else none) := by
  cases reason with
  | none => simp [addReason]
  | some reason =>
    simp only [addReason]
    split
    case isTrue h =>
      by_cases hid : id = other
      · subst hid
        obtain ⟨first, hfirst⟩ := Option.isSome_iff_exists.mp h
        simp [hfirst]
      · simp [hid]
    case isFalse h =>
      by_cases hid : id = other
      · subst hid
        simp [List.lookup_append]
      · have hne : (other == id) = false := by simpa using Ne.symm hid
        simp [List.lookup_append, List.lookup_cons, hid, hne]

theorem firstReason?_append {filter : Filter} {cap : FailureCap} {failures : Nat}
    {more : List Report} {id : TestId} :
    firstReason? filter cap failures (reports ++ more) id =
      (firstReason? filter cap failures reports id).or
        (firstReason? filter cap failures more id) :=
  List.findSome?_append

/-- The reason that a tally gives to a failure is the one that the report has. -/
theorem reason?_eq_blocking? {test : Test} {kind : FailureKind} (message : Option String)
    {failures : Nat} :
    tally.reason? test kind failures =
      (Report.failed test kind message).blocking? tally.filter tally.cap failures := by
  have unfit : (if (!tally.filter.selects test) = true then some NoRetry.notSelected
      else if (!kind.retryable) = true then some (.cause kind) else none) =
      (if tally.filter.selects test = true then none else some NoRetry.notSelected).or
        (if kind ∈ FailureKind.foreign then some (.cause kind) else none) := by
    by_cases hs : tally.filter.selects test <;> cases kind <;>
      simp [hs, FailureKind.retryable, FailureKind.foreign]
  simp only [reason?, Report.blocking?, unfit]
  cases hcap : tally.cap with
  | unlimited => simp [FailureCap.reason?]
  | count max =>
    by_cases hm : max < failures <;> simp [FailureCap.reason?, FailureCap.isExceeded, hm]

namespace Takes

theorem filter (h : before.Takes reports after) : after.filter = before.filter := by
  rw [h.frame]

theorem cap (h : before.Takes reports after) : after.cap = before.cap := by
  rw [h.frame]

theorem everFailed (h : before.Takes reports after) : after.everFailed = before.everFailed := by
  rw [h.frame]

theorem inBaseline (h : before.Takes reports after) : after.inBaseline = before.inBaseline := by
  rw [h.frame]

theorem lastRound (h : before.Takes reports after) : after.lastRound = before.lastRound := by
  rw [h.frame]

theorem frozen (h : before.Takes reports after) : after.frozen = before.frozen := by
  rw [h.frame]

theorem mem_failed (h : before.Takes reports after) {id : TestId} :
    id ∈ after.current.failed ↔ id ∈ before.current.failed ∨ id ∈ failedTests reports := by
  rw [h.failed, OrderedSet.mem_union]

/-- Once more failing counts the same before the reports of a round and after them. -/
theorem countAfter (h : before.Takes reports after) (hseeded : before.inBaseline = false)
    (id : TestId) : after.countAfter id = before.countAfter id := by
  by_cases hid : id ∈ failedTests reports
  · simp [Tally.countAfter, h.mem_failed, h.count, hseeded, hid]
  · simp [Tally.countAfter, h.mem_failed, h.count, hid]

theorem reasonNow? (h : before.Takes reports after) {test : Test} {kind : FailureKind}
    (message : Option String) :
    after.reasonNow? test kind =
      if before.inBaseline then none
      else (Report.failed test kind message).blocking? before.filter before.cap
        (before.countAfter test.id) := by
  cases hb : before.inBaseline with
  | true => simp [Tally.reasonNow?, h.inBaseline, hb]
  | false =>
    simp [Tally.reasonNow?, h.inBaseline, hb, h.countAfter hb, reason?_eq_blocking? message,
      h.filter, h.cap]

theorem addFailure (h : before.Takes reports after) (test : Test) (kind : FailureKind)
    (message : Option String) :
    before.Takes (reports ++ [.failed test kind message]) (after.addFailure test kind) where
  failed := by
    apply OrderedSet.ext_mem
    intro id
    simp only [Tally.addFailure, OrderedSet.mem_insert, h.mem_failed, OrderedSet.mem_union,
      failedTests_concat, Report.failedId?, Option.elim_some]
    exact or_left_comm
  passed := by simp [Tally.addFailure, h.passed, passedTests_concat, Report.passedId?]
  count id := by
    cases hb : before.inBaseline with
    | true => simp [Tally.addFailure, h.inBaseline, hb, h.count]
    | false =>
      by_cases hid : id = test.id
      · subst hid
        simp [Tally.addFailure, h.inBaseline, hb, h.countAfter hb, failedTests_concat,
          Report.failedId?]
      · simp [Tally.addFailure, h.inBaseline, hb, hid, h.count, failedTests_concat,
          Report.failedId?]
  total := by simp [Tally.addFailure, h.total, Report.failedId?, Nat.add_assoc]
  reasons id := by
    have hlookup : (after.addFailure test kind).current.reasons.lookup id =
        (after.current.reasons.lookup id).or
          (if test.id = id then after.reasonNow? test kind else none) := lookup_addReason
    rw [hlookup, h.reasons, h.reasonNow? message, firstReason?_append, Option.or_assoc]
    congr 1
    cases before.inBaseline with
    | true => simp
    | false =>
      by_cases hid : test.id = id
      · subst hid
        simp [firstReason?, Report.test]
      · simp [firstReason?, Report.test, hid]
  frame := by
    rw [Tally.addFailure, h.frame]

theorem addPass (h : before.Takes reports after) (test : Test) :
    before.Takes (reports ++ [.passed test]) (after.addPass test) where
  failed := by simp [Tally.addPass, h.failed, failedTests_concat, Report.failedId?]
  passed := by
    apply OrderedSet.ext_mem
    intro id
    simp only [Tally.addPass, OrderedSet.mem_insert, h.passed, OrderedSet.mem_union,
      passedTests_concat, Report.passedId?, Option.elim_some]
    exact or_left_comm
  count id := by simp [Tally.addPass, h.count, failedTests_concat, Report.failedId?]
  total := by simp [Tally.addPass, h.total, Report.failedId?]
  reasons id := by
    simp [Tally.addPass, h.reasons, firstReason?, Report.blocking?]
  frame := by
    rw [Tally.addPass, h.frame]

theorem addSkip (h : before.Takes reports after) (test : Test) :
    before.Takes (reports ++ [.skipped test]) after where
  failed := by simp [h.failed, failedTests_concat, Report.failedId?]
  passed := by simp [h.passed, passedTests_concat, Report.passedId?]
  count id := by simp [h.count, failedTests_concat, Report.failedId?]
  total := by simp [h.total, Report.failedId?]
  reasons id := by simp [h.reasons, firstReason?, Report.blocking?]
  frame := h.frame

theorem add (h : before.Takes reports after) (hopen : before.frozen = none) (report : Report) :
    before.Takes (reports ++ [report]) (after.add report) := by
  simp only [Tally.add, h.frozen, hopen, Option.isSome_none, Bool.false_eq_true, if_false]
  cases report with
  | passed test => exact h.addPass test
  | failed test kind message => exact h.addFailure test kind message
  | skipped test => exact h.addSkip test

end Takes

end

/-! ## Lists of reports -/

/-- An open tally takes the reports that it is given. -/
theorem addAll_takes {tally : Tally} (hopen : tally.frozen = none) (reports : List Report) :
    tally.Takes reports (tally.addAll reports) := by
  have later : ∀ {after earlier}, tally.Takes earlier after →
      tally.Takes (earlier ++ reports) (after.addAll reports) := by
    induction reports with
    | nil => exact fun h => by simpa [addAll] using h
    | cons report rest ih => exact fun h => by simpa [addAll] using ih (h.add hopen report)
  exact later (.nil tally)

end Flaky.Tally
