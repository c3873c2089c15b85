-- SUMMARY: What a tally holds after any rounds: its counters, its sets and its result, told by the reports alone.
import Flaky.Proofs.TallyReports

/-!
# Tallies and the rounds behind them

`Tally.Holds` says what every part of a tally is, given the reports of the rounds
that are over, the baseline first, and of the round that goes on. Taking reports
and starting the next round keep it, so the result of a round is what its
reports show.
-/

namespace Flaky.Tally

/-! ## The invariant -/

/-- The tally has taken the rounds `past`, the baseline first, and `now` in the current one. -/
structure Holds (tally : Tally) (past : List (List Report)) (now : List Report) : Prop where
  failed : tally.current.failed = failedTests now
  passed : tally.current.passed = passedTests now
  ever : tally.everFailed = failedInSome past
  baseline : tally.inBaseline = past.isEmpty
  count : ∀ id, tally.failureCount id =
    failureRounds past.tail id + if past ≠ [] ∧ id ∈ failedTests now then 1 else 0
  total : tally.total = ((past ++ [now]).flatten.filterMap Report.failedId?).length
  reasons : ∀ id, tally.current.reasons.lookup id =
    if past = [] then none
    else firstReason? tally.filter tally.cap (failureRounds past.tail id + 1) now id

theorem Holds.start {filter : Filter} {cap : FailureCap} : (start filter cap).Holds [] [] where
  failed := rfl
  passed := rfl
  ever := rfl
  baseline := rfl
  count _ := rfl
  total := rfl
  reasons _ := rfl

/-! ## Reports and rounds -/

section

variable {tally : Tally} {past : List (List Report)} {now : List Report}

theorem Holds.countAfter (h : tally.Holds past now) (hpast : past ≠ []) (id : TestId) :
    tally.countAfter id = failureRounds past.tail id + 1 := by
  by_cases hid : id ∈ failedTests now <;> simp [Tally.countAfter, h.failed, h.count, hpast, hid]

/-- Taking reports keeps the invariant. -/
theorem Holds.takes {after : Tally} {reports : List Report} (h : tally.Holds past now)
    (ht : tally.Takes reports after) : after.Holds past (now ++ reports) where
  failed := by rw [ht.failed, h.failed, failedTests_append]
  passed := by rw [ht.passed, h.passed, passedTests_append]
  ever := ht.everFailed.trans h.ever
  baseline := ht.inBaseline.trans h.baseline
  count id := by
    by_cases hpast : past = []
    · simp [ht.count, h.count, h.baseline, hpast]
    · by_cases hid : id ∈ failedTests reports
      · simp [ht.count, h.baseline, hpast, hid, h.countAfter hpast, failedTests_append]
      · simp [ht.count, h.count, hid, failedTests_append]
  total := by simp [ht.total, h.total, Nat.add_assoc]
  reasons id := by
    by_cases hpast : past = []
    · simp [ht.reasons, h.reasons, h.baseline, hpast]
    · have hb : past.isEmpty = false := by simpa using hpast
      simp [ht.reasons, h.reasons, h.baseline, hpast, hb, h.countAfter hpast, ht.filter, ht.cap,
        firstReason?_append]

theorem Holds.addAll (h : tally.Holds past now) (hopen : tally.frozen = none)
    (reports : List Report) : (tally.addAll reports).Holds past (now ++ reports) :=
  h.takes (addAll_takes hopen reports)

/-- Freezing a round changes nothing that the invariant speaks of. -/
theorem Holds.freeze (h : tally.Holds past now) : tally.freeze.Holds past now where
  failed := h.failed
  passed := h.passed
  ever := h.ever
  baseline := h.baseline
  count := h.count
  total := h.total
  reasons := h.reasons

theorem Holds.reset (h : tally.Holds past now) (lastRound : Bool) :
    (tally.reset lastRound).Holds (past ++ [now]) [] where
  failed := rfl
  passed := rfl
  ever := by
    apply OrderedSet.ext_mem
    intro id
    simp [Tally.reset, h.ever, h.failed, or_and_right, exists_or]
  baseline := by simp [Tally.reset]
  count id := by
    cases past with
    | nil => simp [Tally.reset, h.count]
    | cons first rest => simp [Tally.reset, h.count, failureRounds_concat]
  total := by simp [Tally.reset, h.total]
  reasons id := by simp [Tally.reset, RoundTally.empty, firstReason?]

end

/-! ## Results -/

section

variable {tally : Tally} {past : List (List Report)} {now : List Report}

theorem mem_keys_iff {reasons : List (TestId × NoRetry)} {id : TestId} :
    id ∈ reasons.map (·.1) ↔ (reasons.lookup id).isSome = true := by
  rw [List.lookup_isSome_iff, List.mem_map]
  exact exists_congr fun entry => and_congr_right fun _ => eq_comm.trans beq_iff_eq.symm

/-- Ordering reasons keeps their tests. -/
theorem orderedReasons_keys (reasons : List (TestId × NoRetry)) :
    (orderedReasons reasons).map (·.1) = (OrderedSet.ofList (reasons.map (·.1))).toList := by
  rw [orderedReasons, List.map_filterMap]
  refine (List.filterMap_congr fun id hid => ?_).trans List.filterMap_some
  rw [OrderedSet.mem_toList, OrderedSet.mem_ofList, mem_keys_iff] at hid
  obtain ⟨reason, hreason⟩ := Option.isSome_iff_exists.mp hid
  rw [hreason]
  rfl

theorem mem_orderedReasons_keys {reasons : List (TestId × NoRetry)} {id : TestId} :
    id ∈ (orderedReasons reasons).map (·.1) ↔ (reasons.lookup id).isSome = true := by
  rw [orderedReasons_keys, OrderedSet.mem_toList, OrderedSet.mem_ofList, mem_keys_iff]

theorem result_of_open (h : tally.frozen = none) : tally.result = tally.snapshot := by
  simp [result, h]

/-- The reasons of a seeded round are those of the tests that it rules out, in order. -/
theorem Holds.snapshot_reasons (h : tally.Holds past now) (hpast : past ≠ []) :
    tally.snapshot.reasons = ruledOut tally.filter tally.cap past.tail now := by
  have hreasons : ∀ id, tally.current.reasons.lookup id =
      firstReason? tally.filter tally.cap (failureRounds past.tail id + 1) now id := by
    intro id
    rw [h.reasons, if_neg hpast]
  simp only [snapshot, orderedReasons, ruledOut, hreasons]
  apply OrderedSet.filterMap_toList_congr
  intro id hid
  rw [Option.isSome_map] at hid
  have hkey : id ∈ tally.current.reasons.map (·.1) := by rw [mem_keys_iff, hreasons, hid]
  simp [hkey, mem_failedTests_of_firstReason? hid]

theorem snapshot_nonRetried_isEmpty :
    tally.snapshot.nonRetried.isEmpty = tally.snapshot.reasons.isEmpty := by
  simp [snapshot]

/-- The record of a round is what its reports show. -/
theorem Holds.complete_snapshot (h : tally.Holds past now) (round : Round) :
    round.complete tally.snapshot = round.shows past now := by
  simp [Round.complete, Round.shows, snapshot, h.failed, h.passed, h.ever]

end

end Flaky.Tally
