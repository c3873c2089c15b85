-- SUMMARY: The tally of a run: test reports counted round by round, failures classified, and the frozen result of each round.
import Flaky.Engine.Event
import Flaky.FailureCap
import Flaky.Filter
import Flaky.GroupedTests
import Flaky.Log
import Flaky.OrderedSet

/-!
# Tallies

A tally takes the reports of a run, round by round. Reading a round's result
freezes it: later reports say nothing until the tally is reset for the next
round. The first round is the baseline; its failures are kept but never
classified. In a seeded round a failed test is not retried if it has failed in
more rounds than the cap allows, if the filter does not select it, or if its
failure is of a kind that is never retried, in this order; the first reason
given to a test in a round stands.
-/

namespace Flaky

/-! ## Results -/

/-- What a round showed. -/
structure RoundResult where
  failed : GroupedTests
  nonRetried : GroupedTests
  /-- Why each test is not retried, in the order of the tests. -/
  reasons : List (TestId × NoRetry)
  passed : OrderedSet TestId
  /-- The tests that passed after failing in an earlier round. -/
  recovered : OrderedSet TestId
  /-- This is the last round the run may have. -/
  lastRound : Bool
deriving DecidableEq

/-! ## The tally -/

/-- What the current round has shown so far. -/
structure RoundTally where
  failed : OrderedSet TestId
  /-- First reasons, in the order in which they were found. -/
  reasons : List (TestId × NoRetry)
  passed : OrderedSet TestId

def RoundTally.empty : RoundTally := ⟨.empty, [], .empty⟩

structure Tally where
  filter : Filter
  cap : FailureCap
  /-- The number of seeded rounds in which a test has failed. -/
  failureCount : TestId → Nat
  /-- The tests that failed in a round before the current one. -/
  everFailed : OrderedSet TestId
  /-- The number of failures reported. -/
  total : Nat
  inBaseline : Bool
  lastRound : Bool
  current : RoundTally
  frozen : Option RoundResult

namespace Tally

/-- The tally of a run that is about to start its baseline. -/
def start (filter : Filter) (cap : FailureCap) : Tally :=
  ⟨filter, cap, fun _ => 0, .empty, 0, true, false, .empty, none⟩

/-- Why a test that has failed in `failures` seeded rounds is not retried, if so. -/
def reason? (tally : Tally) (test : Test) (kind : FailureKind) (failures : Nat) : Option NoRetry :=
  let unfit : Option NoRetry :=
    if !tally.filter.selects test then some .notSelected
    else if !kind.retryable then some (.cause kind)
    else none
  match tally.cap with
  | .count max => if tally.cap.isExceeded failures then some (.capExceeded failures max) else unfit
  | .unlimited => unfit

/-- The number of seeded rounds in which a test has failed, once it fails in this one. -/
def countAfter (tally : Tally) (id : TestId) : Nat :=
  if tally.current.failed.contains id then tally.failureCount id else tally.failureCount id + 1

/-- Why a failure that is reported now keeps its test from being retried, if it does. -/
def reasonNow? (tally : Tally) (test : Test) (kind : FailureKind) : Option NoRetry :=
  if tally.inBaseline then none else tally.reason? test kind (tally.countAfter test.id)

/-- Keep a reason, unless its test has one. -/
def addReason (id : TestId) (reason : Option NoRetry) (reasons : List (TestId × NoRetry)) :
    List (TestId × NoRetry) :=
  match reason with
  | none => reasons
  | some r => if (reasons.lookup id).isSome then reasons else reasons ++ [(id, r)]

def addFailure (tally : Tally) (test : Test) (kind : FailureKind) : Tally :=
  let current := { tally.current with
    failed := tally.current.failed.insert test.id
    reasons := addReason test.id (tally.reasonNow? test kind) tally.current.reasons }
  let count := tally.countAfter test.id
  { tally with
    total := tally.total + 1
    current := current
    failureCount := if tally.inBaseline then tally.failureCount
      else fun id => if id = test.id then count else tally.failureCount id }

def addPass (tally : Tally) (test : Test) : Tally :=
  { tally with current := { tally.current with passed := tally.current.passed.insert test.id } }

/-- Take a report. A frozen round takes none. -/
def add (tally : Tally) (report : Report) : Tally :=
  if tally.frozen.isSome then tally
  else
    match report with
    | .passed test => tally.addPass test
    | .failed test kind _ => tally.addFailure test kind
    | .skipped _ => tally

def addAll (tally : Tally) (reports : List Report) : Tally := reports.foldl add tally

/-- What a report gives to log. -/
def notes (tally : Tally) (report : Report) : List LogEntry :=
  let note (message : String) (fields : List (String × String)) : LogEntry :=
    ⟨.tally, .debug, message, fields⟩
  if tally.frozen.isSome then
    match report with
    | .passed test =>
      [note "ignoring pass reported after round result was read" [("test", test.id.text)]]
    | .failed test _ _ =>
      [note "ignoring failure reported after round result was read" [("test", test.id.text)]]
    | .skipped _ => []
  else
    match report with
    | .failed test kind _ =>
      match tally.reasonNow? test kind with
      | none => []
      | some reason =>
        [note "test will not be retried" [("test", test.id.text), ("reason", reason.text)]]
    | _ => []

/-- What a list of reports gives to log, each after the same entries. -/
def allNotes (each : List LogEntry) (tally : Tally) : List Report → List LogEntry
  | [] => []
  | report :: rest => each ++ tally.notes report ++ (tally.add report).allNotes each rest

/-! ## Results and rounds -/

/-- Reasons in the order of their tests. -/
def orderedReasons (reasons : List (TestId × NoRetry)) : List (TestId × NoRetry) :=
  (OrderedSet.ofList (reasons.map (·.1))).toList.filterMap fun id =>
    (reasons.lookup id).map fun reason => (id, reason)

/-- What the current round has shown. A test that failed has not passed. -/
def snapshot (tally : Tally) : RoundResult :=
  let passed := tally.current.passed.diff tally.current.failed
  let reasons := orderedReasons tally.current.reasons
  { failed := .ofList tally.current.failed.toList
    nonRetried := .ofList (reasons.map (·.1))
    reasons := reasons
    passed := passed
    recovered := passed.inter tally.everFailed
    lastRound := tally.lastRound }

/-- The result of the current round: the frozen one, or else what the round has shown. -/
def result (tally : Tally) : RoundResult := tally.frozen.getD tally.snapshot

/-- Freeze the current round. -/
def freeze (tally : Tally) : Tally := { tally with frozen := some tally.result }

/-- Start the next round. -/
def reset (tally : Tally) (lastRound : Bool) : Tally :=
  { tally with
    everFailed := tally.everFailed.union tally.current.failed
    inBaseline := false
    lastRound := lastRound
    current := .empty
    frozen := none }

end Tally

end Flaky
