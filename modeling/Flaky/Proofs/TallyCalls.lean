-- SUMMARY: What a tally holds after any calls, in whatever order: reports, results taken and resets.
import Flaky.Proofs.TallyHistory
import Mathlib.Algebra.Group.Nat.Defs
import Mathlib.Data.List.Induction
import Mathlib.Data.List.TakeWhile

/-!
# Calls of a tally

A tally may be given reports, asked for its result and reset in any order. The
rounds of some calls are the stretches between the resets, and in each round only
the reports before its first result count. What the tally holds and every result
that it gives are told by the counted reports alone.
-/

namespace Flaky

/-! ## Calls -/

inductive TallyCall
  | report (said : Report)
  /-- The result of the round is taken. -/
  | result
  | reset (lastRound : Bool)

namespace TallyCall

def isResult : TallyCall → Bool
  | .result => true
  | .report _ | .reset _ => false

def isReset : TallyCall → Bool
  | .reset _ => true
  | .report _ | .result => false

def report? : TallyCall → Option Report
  | .report said => some said
  | .result | .reset _ => none

def lastRound? : TallyCall → Option Bool
  | .reset lastRound => some lastRound
  | .report _ | .result => none

/-- The stretches of calls between resets. -/
def rounds (calls : List TallyCall) : List (List TallyCall) := calls.splitOnP isReset

/-- The reports of a round that count. -/
def counted (round : List TallyCall) : List Report :=
  (round.takeWhile fun call => !call.isResult).filterMap report?

/-- What the last reset says of the round that it starts. -/
def inLastRound (calls : List TallyCall) : Bool :=
  ((calls.filterMap lastRound?).getLast?).getD false

end TallyCall

namespace Tally

def call (tally : Tally) : TallyCall → Tally
  | .report said => tally.add said
  | .result => tally.freeze
  | .reset lastRound => tally.reset lastRound

def callAll (tally : Tally) (calls : List TallyCall) : Tally := calls.foldl call tally

/-- The tally after some calls, from its start on. -/
def after (filter : Filter) (cap : FailureCap) (calls : List TallyCall) : Tally :=
  (start filter cap).callAll calls

end Tally

/-! ## Rounds of calls -/

namespace TallyCall

variable {calls now : List TallyCall} {past : List (List TallyCall)} {call : TallyCall}

theorem rounds_cons : rounds (call :: calls) =
    if call.isReset then [] :: rounds calls else (rounds calls).modifyHead (call :: ·) :=
  List.splitOnP_cons_eq_if_modifyHead ..

theorem rounds_concat_reset {lastRound : Bool} :
    rounds (calls ++ [.reset lastRound]) = rounds calls ++ [[]] :=
  List.splitOnP_append_cons calls [] rfl

theorem rounds_eq_concat (calls : List TallyCall) : ∃ past now, rounds calls = past ++ [now] :=
  ⟨_, _, (List.dropLast_append_getLast (List.splitOnP_ne_nil _ calls)).symm⟩

/-- A call that is no reset belongs to the last round. -/
theorem rounds_concat (h : call.isReset = false) (hrounds : rounds calls = past ++ [now]) :
    rounds (calls ++ [call]) = past ++ [now ++ [call]] := by
  induction calls generalizing past now with
  | nil =>
    obtain ⟨rfl, rfl⟩ := List.append_singleton_inj.mp (show [] ++ [[]] = past ++ [now] from hrounds)
    simp [rounds, List.splitOnP_cons_eq_if_modifyHead, h]
  | cons first rest ih =>
    obtain ⟨earlier, last, hrest⟩ := rounds_eq_concat rest
    rw [rounds_cons, hrest] at hrounds
    rw [List.cons_append, rounds_cons, ih hrest]
    by_cases hfirst : first.isReset
    · rw [if_pos hfirst, ← List.cons_append, List.append_singleton_inj] at hrounds
      obtain ⟨rfl, rfl⟩ := hrounds
      rw [if_pos hfirst, List.cons_append]
    · rw [if_neg hfirst] at hrounds ⊢
      cases earlier with
      | nil =>
        rw [List.nil_append, List.modifyHead_cons, ← List.nil_append [_],
          List.append_singleton_inj] at hrounds
        obtain ⟨rfl, rfl⟩ := hrounds
        rfl
      | cons head earlier =>
        rw [List.cons_append, List.modifyHead_cons, ← List.cons_append,
          List.append_singleton_inj] at hrounds
        obtain ⟨rfl, rfl⟩ := hrounds
        rfl

theorem length_rounds : (rounds calls).length = calls.countP isReset + 1 := by
  induction calls with
  | nil => rfl
  | cons call calls ih =>
    rw [rounds_cons]
    by_cases h : call.isReset <;> simp [h, ih]

theorem counted_concat (hopen : now.any isResult = false) :
    counted (now ++ [call]) = counted now ++ call.report?.toList := by
  have hall : ∀ c ∈ now, (!c.isResult) = true := by simpa using hopen
  rw [counted, counted, List.takeWhile_append_of_pos hall, List.takeWhile_eq_self_iff.mpr hall,
    List.filterMap_append]
  cases call <;> rfl

/-- Once a result has been taken, no report counts. -/
theorem counted_concat_frozen (hfrozen : now.any isResult = true) :
    counted (now ++ [call]) = counted now := by
  induction now with
  | nil => simp at hfrozen
  | cons first rest ih =>
    by_cases hfirst : first.isResult
    · simp [counted, hfirst]
    · have hrest := ih (by simpa [hfirst] using hfrozen)
      simp only [counted] at hrest
      simp [counted, hfirst, List.filterMap_cons, hrest]

theorem counted_concat_result : counted (now ++ [.result]) = counted now := by
  cases hnow : now.any isResult with
  | true => exact counted_concat_frozen hnow
  | false => rw [counted_concat hnow, report?, Option.toList_none, List.append_nil]

end TallyCall

/-! ## The invariant -/

namespace Tally

/-- The tally has been called so in the rounds that are over, and `now` in the current one. It is
    frozen once a result of the round has been taken, with what the round shows. -/
structure Called (tally : Tally) (past : List (List TallyCall)) (now : List TallyCall) : Prop where
  holds : tally.Holds (past.map TallyCall.counted) (TallyCall.counted now)
  frozen : tally.frozen = if now.any TallyCall.isResult then some tally.snapshot else none

section

variable {tally : Tally} {past : List (List TallyCall)} {now : List TallyCall}

theorem Called.start (filter : Filter) (cap : FailureCap) :
    (start filter cap).Called [] [] :=
  ⟨.start, rfl⟩

/-- What a tally gives as its result is what the round shows. -/
theorem Called.result (h : tally.Called past now) : tally.result = tally.snapshot := by
  rw [Tally.result, h.frozen]
  split <;> rfl

theorem Called.report (h : tally.Called past now) (said : Report) :
    (tally.add said).Called past (now ++ [.report said]) := by
  cases hnow : now.any TallyCall.isResult with
  | true =>
    have hfrozen : tally.frozen = some tally.snapshot := by rw [h.frozen, hnow, if_pos rfl]
    have hadd : tally.add said = tally := by simp [add, hfrozen]
    refine ⟨?_, ?_⟩
    · rw [hadd, TallyCall.counted_concat_frozen hnow]
      exact h.holds
    · rw [hadd, hfrozen, List.any_append, hnow, Bool.true_or, if_pos rfl]
  | false =>
    have hopen : tally.frozen = none := by rw [h.frozen, hnow, if_neg Bool.false_ne_true]
    refine ⟨?_, ?_⟩
    · rw [TallyCall.counted_concat hnow]
      exact h.holds.addAll hopen [said]
    · have hstays : (tally.add said).frozen = none :=
        (addAll_takes hopen [said]).frozen.trans hopen
      simp [hstays, hnow, TallyCall.isResult]

theorem Called.take (h : tally.Called past now) : tally.freeze.Called past (now ++ [.result]) where
  holds := by
    rw [TallyCall.counted_concat_result]
    exact h.holds.freeze
  frozen := by
    rw [freeze, h.result]
    simp [TallyCall.isResult, snapshot]

theorem Called.reset (h : tally.Called past now) (lastRound : Bool) :
    (tally.reset lastRound).Called (past ++ [now]) [] where
  holds := by
    rw [List.map_append, List.map_singleton]
    exact h.holds.reset lastRound
  frozen := rfl

/-- After any calls a tally has been called as their rounds say. -/
theorem after_called (filter : Filter) (cap : FailureCap) (calls : List TallyCall) :
    ∃ past now, TallyCall.rounds calls = past ++ [now] ∧
      (after filter cap calls).Called past now := by
  induction calls using List.reverseRecOn with
  | nil => exact ⟨[], [], rfl, .start filter cap⟩
  | append_singleton calls call ih =>
    obtain ⟨past, now, hrounds, h⟩ := ih
    rw [after, callAll, List.foldl_append]
    cases call with
    | report said => exact ⟨past, _, TallyCall.rounds_concat rfl hrounds, h.report said⟩
    | result => exact ⟨past, _, TallyCall.rounds_concat rfl hrounds, h.take⟩
    | reset lastRound =>
      refine ⟨past ++ [now], [], ?_, h.reset lastRound⟩
      rw [TallyCall.rounds_concat_reset, hrounds]

theorem add_lastRound {said : Report} : (tally.add said).lastRound = tally.lastRound := by
  unfold add
  split
  case isTrue => rfl
  case isFalse => cases said <;> rfl

/-- A frozen tally stays as it is until it is reset. -/
theorem callAll_of_frozen {calls : List TallyCall} (hfrozen : tally.frozen = some tally.result)
    (hresets : ∀ call ∈ calls, call.isReset = false) : tally.callAll calls = tally := by
  induction calls with
  | nil => rfl
  | cons call calls ih =>
    obtain ⟨hcall, hlater⟩ := List.forall_mem_cons.mp hresets
    have hstays : tally.call call = tally := by
      cases call with
      | report said => simp [Tally.call, add, hfrozen]
      | result => rw [Tally.call, freeze, ← hfrozen]
      | reset lastRound => cases hcall
    rw [callAll, List.foldl_cons, hstays]
    exact ih hlater

theorem callAll_lastRound (calls : List TallyCall) :
    (tally.callAll calls).lastRound =
      ((calls.filterMap TallyCall.lastRound?).getLast?).getD tally.lastRound := by
  induction calls generalizing tally with
  | nil => rfl
  | cons call calls ih =>
    rw [callAll, List.foldl_cons]
    refine ih.trans ?_
    cases call with
    | report said => rw [call, add_lastRound]; rfl
    | result => rfl
    | reset lastRound =>
      simp [TallyCall.lastRound?, Tally.call, Tally.reset, List.getLast?_cons]

end

end Tally

/-! ## Results -/

/-- A result says what the reports of its round and of the rounds before it come to. -/
structure RoundResult.Tells (result : RoundResult) (past : List (List Report))
    (now : List Report) : Prop where
  failed : ∀ id, id ∈ result.failed.testIds ↔ ReportedFailed now id
  passed : ∀ id, id ∈ result.passed ↔ ReportedPassed now id ∧ ¬ ReportedFailed now id
  disjoint : ∀ id ∈ result.passed, id ∉ result.failed.testIds
  recovered : ∀ id, id ∈ result.recovered ↔
    id ∈ result.passed ∧ ∃ reports ∈ past, ReportedFailed reports id
  keys : ∀ id, id ∈ result.nonRetried.testIds ↔ id ∈ result.reasons.map (·.1)
  nonRetried : ∀ id ∈ result.nonRetried.testIds, id ∈ result.failed.testIds
  baseline : past = [] → result.nonRetried.isEmpty = true

namespace Tally

variable {tally : Tally} {past : List (List Report)} {now : List Report}

/-- Only tests that failed have a reason, and in the baseline none has one. -/
theorem Holds.of_mem_reasons (h : tally.Holds past now) {id : TestId}
    (hid : id ∈ tally.snapshot.reasons.map (·.1)) : past ≠ [] ∧ id ∈ failedTests now := by
  have hreason : (tally.current.reasons.lookup id).isSome = true := mem_orderedReasons_keys.mp hid
  rw [h.reasons] at hreason
  split at hreason
  case isTrue hpast => cases hreason
  case isFalse hpast => exact ⟨hpast, mem_failedTests_of_firstReason? hreason⟩

theorem Holds.snapshot_tells (h : tally.Holds past now) : tally.snapshot.Tells past now := by
  have hfailed : ∀ id, id ∈ tally.snapshot.failed.testIds ↔ id ∈ failedTests now := by
    intro id
    rw [snapshot, GroupedTests.mem_testIds_ofList, OrderedSet.mem_toList, h.failed]
  have hpassed : ∀ id, id ∈ tally.snapshot.passed ↔
      id ∈ passedTests now ∧ id ∉ failedTests now := by
    intro id
    simp [snapshot, h.failed, h.passed]
  have hkeys : ∀ id, id ∈ tally.snapshot.nonRetried.testIds ↔
      id ∈ tally.snapshot.reasons.map (·.1) := fun id => GroupedTests.mem_testIds_ofList
  refine ⟨?_, ?_, ?_, ?_, hkeys, ?_, ?_⟩
  · intro id
    rw [hfailed, mem_failedTests]
  · intro id
    rw [hpassed, mem_passedTests, mem_failedTests]
  · intro id hid
    rw [hfailed]
    exact ((hpassed id).mp hid).2
  · intro id
    rw [hpassed]
    simp [snapshot, h.failed, h.passed, h.ever, mem_failedTests]
  · intro id hid
    rw [hfailed]
    exact (h.of_mem_reasons ((hkeys id).mp hid)).2
  · rintro rfl
    rw [snapshot_nonRetried_isEmpty, List.isEmpty_iff, ← List.map_eq_nil_iff]
    exact List.eq_nil_iff_forall_not_mem.mpr fun id hid => (h.of_mem_reasons hid).1 rfl

/-- The counts of a tally after any calls, and the result that it gives, are told by the reports
    that count in their rounds. A count is at most the number of resets, so it fits into 32 bits if
    that does. All results taken in one round are equal. -/
theorem after_tells (filter : Filter) (cap : FailureCap) (calls : List TallyCall) :
    ∃ past now, (TallyCall.rounds calls).map TallyCall.counted = past ++ [now] ∧
      (∀ id, (after filter cap calls).failureCount id = failureRounds (past ++ [now]).tail id) ∧
      (∀ id, (after filter cap calls).failureCount id ≤ calls.countP TallyCall.isReset) ∧
      (calls.countP TallyCall.isReset < 2 ^ 32 →
        ∀ id, (after filter cap calls).failureCount id < 2 ^ 32) ∧
      (after filter cap calls).total =
        (past ++ [now]).flatten.countP (fun report => report.failedId?.isSome) ∧
      (∀ id, id ∈ (after filter cap calls).everFailed ↔
        ∃ reports ∈ past, ReportedFailed reports id) ∧
      (after filter cap calls).result.Tells past now ∧
      (after filter cap calls).result.lastRound = TallyCall.inLastRound calls ∧
      ∀ later, (∀ call ∈ later, call.isReset = false) →
        (after filter cap (calls ++ .result :: later)).result =
          (after filter cap calls).result := by
  obtain ⟨past, now, hrounds, called⟩ := after_called filter cap calls
  have hresets : past.length = calls.countP TallyCall.isReset := by
    simpa [hrounds] using @TallyCall.length_rounds calls
  have hcount : ∀ id, (after filter cap calls).failureCount id =
      failureRounds (past.map TallyCall.counted ++ [TallyCall.counted now]).tail id := by
    intro id
    rw [called.holds.count]
    cases past with
    | nil => simp [failureRounds]
    | cons first rest => simp [failureRounds_concat]
  have hle : ∀ id, (after filter cap calls).failureCount id ≤ calls.countP TallyCall.isReset := by
    intro id
    calc (after filter cap calls).failureCount id
        ≤ (past.map TallyCall.counted ++ [TallyCall.counted now]).tail.length := by
          rw [hcount]
          exact List.countP_le_length
      _ = calls.countP TallyCall.isReset := by simp [hresets]
  refine ⟨past.map TallyCall.counted, TallyCall.counted now, ?_, hcount, hle,
    fun hfits id => (hle id).trans_lt hfits, ?_, ?_, ?_, ?_, ?_⟩
  · rw [hrounds, List.map_append, List.map_singleton]
  · rw [called.holds.total, List.length_filterMap_eq_countP]
  · intro id
    rw [called.holds.ever, mem_failedInSome]
    simp only [mem_failedTests]
  · rw [called.result]
    exact called.holds.snapshot_tells
  · rw [called.result]
    exact callAll_lastRound calls
  · intro later hresets
    have hfrozen : (after filter cap calls).freeze.frozen =
        some (after filter cap calls).freeze.result := rfl
    have hlater : after filter cap (calls ++ .result :: later) =
        (after filter cap calls).freeze.callAll later := by
      rw [after, callAll, List.foldl_append]
      rfl
    rw [hlater, callAll_of_frozen hfrozen hresets]
    rfl

end Tally

end Flaky
