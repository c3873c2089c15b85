-- SUMMARY: What an engine is asked to execute and what the tally takes as selected agree: only a failure of a test outside the selection is classified as not selected, and it ends the run.
import Flaky.Proofs.Run.Calls
import Flaky.Proofs.Run.StopPolicy

/-!
# Selections and classification

The selection that an engine is shown and the tally each hold the filter. The
engine is to execute every test in the baseline and the selected ones in seeded
rounds; the tally classifies no failure of the baseline, and a later one by the
test as it is reported. So an engine that keeps to its selections never has a test
classified as not selected. If it reports the failure of another test in a seeded
round and does not fail itself, the run is over with that round.
-/

namespace Flaky

/-- Every report of a turn is on a test that its selection includes. -/
def EngineTurn.Faithful (turn : EngineTurn) : Prop :=
  ∀ report ∈ turn.reports, turn.selection.includes report.test = true

/-! ## Classification -/

/-- Of some calls of a tally one is the report of a failure for which the tally has a reason not to
    retry the test. -/
def Tally.Classifies (filter : Filter) (cap : FailureCap) (calls : List TallyCall) (test : Test)
    (reason : NoRetry) : Prop :=
  ∃ earlier kind message later, calls = earlier ++ .report (.failed test kind message) :: later ∧
    (Tally.after filter cap earlier).reasonNow? test kind = some reason

theorem Report.selects_of_blocking? {filter : Filter} {cap : FailureCap} {failures : Nat}
    {report : Report} (h : report.blocking? filter cap failures = some .notSelected) :
    filter.selects report.test = false := by
  cases report with
  | passed test => cases h
  | skipped test => cases h
  | failed test kind message =>
    by_contra hselected
    have hselects : filter.selects test = true := Bool.not_eq_false _ ▸ hselected
    have hcause : ∀ {p : Prop} [Decidable p],
        (if p then some (NoRetry.cause kind) else none) ≠ some .notSelected := by
      intro p _
      split <;> simp
    have hcap : cap.reason? failures ≠ some .notSelected := by
      cases cap with
      | unlimited => exact nofun
      | count max =>
        rw [FailureCap.reason?]
        split <;> simp
    rw [blocking?, hselects, if_pos rfl, Option.or_none, Option.or_eq_some_iff] at h
    rcases h with h | ⟨-, h⟩
    · exact hcap h
    · exact hcause h

namespace Tally

variable {tally : Tally} {test : Test} {kind : FailureKind}

theorem of_reasonNow?_notSelected (h : tally.reasonNow? test kind = some .notSelected) :
    tally.inBaseline = false ∧ tally.filter.selects test = false := by
  rw [reasonNow?] at h
  split at h
  case isTrue => cases h
  case isFalse hseeded =>
    rw [reason?_eq_blocking? none] at h
    exact ⟨Bool.not_eq_true _ ▸ hseeded,
      @Report.selects_of_blocking? _ _ _ (.failed test kind none) h⟩

theorem add_filter (said : Report) : (tally.add said).filter = tally.filter := by
  unfold add
  split
  case isTrue => rfl
  case isFalse => cases said <;> rfl

theorem call_filter (call : TallyCall) : (tally.call call).filter = tally.filter := by
  cases call with
  | report said => exact add_filter said
  | result => rfl
  | reset lastRound => rfl

theorem after_filter (filter : Filter) (cap : FailureCap) (calls : List TallyCall) :
    (after filter cap calls).filter = filter := by
  induction calls using List.reverseRecOn with
  | nil => rfl
  | append_singleton calls call ih =>
    rw [after, callAll, List.foldl_append]
    exact (call_filter call).trans ih

end Tally

/-! ## Reports and turns -/

section

variable {calls earlier later : List TallyCall} {past : List (List TallyCall)}
variable {now : List TallyCall} {turns : List EngineTurn} {report : Report}

/-- Later calls add to the round that goes on, and further rounds. -/
theorem TallyCall.rounds_append (hrounds : rounds calls = past ++ [now]) (more : List TallyCall) :
    ∃ head tail, rounds (calls ++ more) = past ++ (now ++ head) :: tail := by
  induction more generalizing calls past now with
  | nil => exact ⟨[], [], by rw [List.append_nil, List.append_nil, hrounds]⟩
  | cons call more ih =>
    rw [List.append_cons calls call more]
    cases hreset : call.isReset with
    | true =>
      have hnext : rounds (calls ++ [call]) = (past ++ [now]) ++ [[]] := by
        rw [← hrounds]
        exact List.splitOnP_append_cons calls [] hreset
      obtain ⟨head, tail, h⟩ := ih hnext
      exact ⟨[], head :: tail, by simpa using h⟩
    | false =>
      obtain ⟨head, tail, h⟩ := ih (rounds_concat hreset hrounds)
      exact ⟨call :: head, tail, by simpa using h⟩

/-- A report that the tally is given belongs to the turn of its round. -/
theorem TallyCall.ByTurns.exists_turn
    (h : ByTurns (earlier ++ .report report :: later) turns)
    (hrounds : rounds earlier = past ++ [now]) :
    ∃ turn, turns[past.length]? = some turn ∧ report ∈ turn.reports := by
  have hreported : rounds (earlier ++ [.report report]) = past ++ [now ++ [.report report]] :=
    rounds_concat rfl hrounds
  obtain ⟨head, tail, hall⟩ := rounds_append hreported later
  rw [← List.append_cons] at hall
  have hround : (rounds (earlier ++ .report report :: later))[past.length]? =
      some (now ++ [.report report] ++ head) := by simp [hall]
  have hturn : (turns.map (·.calls))[past.length]? = some (now ++ [.report report] ++ head) := by
    rcases h with h | h
    · rwa [h] at hround
    · rw [h, List.getElem?_append] at hround
      split at hround
      · exact hround
      · -- the round without a turn has no report
        rw [List.getElem?_singleton] at hround
        split at hround <;> simp at hround
  rw [List.getElem?_map, Option.map_eq_some_iff] at hturn
  obtain ⟨turn, hturn, hcalls⟩ := hturn
  refine ⟨turn, hturn, turn.mem_reports ?_⟩
  rw [hcalls]
  simp

end

/-! ## Faithful turns -/

section

variable {plan : RunPlan} {turns : List EngineTurn} {turn : EngineTurn}

theorem RunPlan.seeded_isBaseline (index : Nat) : (plan.seeded index).isBaseline = false := rfl

theorem RunPlan.getElem?_turns_succ {did : EngineRun} {dids : List EngineRun} {i : Nat} :
    (plan.turns did dids)[i + 1]? = dids[i]?.map (plan.turn (plan.seeded i)) := by
  rw [RunPlan.turns, List.getElem?_cons_succ, RunPlan.seededTurns, List.getElem?_mapIdx,
    Nat.zero_add]

/-- The turns after the first are those of seeded rounds. -/
theorem RunPlan.TurnsOf.seeded (h : plan.TurnsOf turns) {i : Nat}
    (hturn : turns[i + 1]? = some turn) : ∃ did, turn = plan.turn (plan.seeded i) did := by
  rcases h with rfl | ⟨did, dids, rfl⟩
  · cases hturn
  · rw [RunPlan.getElem?_turns_succ, Option.map_eq_some_iff] at hturn
    obtain ⟨did, -, rfl⟩ := hturn
    exact ⟨did, rfl⟩

theorem RunPlan.TurnsOf.filter (h : plan.TurnsOf turns) (hturn : turn ∈ turns) :
    turn.selection.filter = plan.settings.filter := by
  rcases h with rfl | ⟨did, dids, rfl⟩
  · cases hturn
  · rcases List.mem_cons.mp hturn with rfl | hturn
    · rfl
    · obtain ⟨i, _, rfl⟩ := List.mem_mapIdx.mp hturn
      rfl

/-- A faithful turn of a seeded round is on selected tests only. -/
theorem EngineTurn.Faithful.selects {index : Nat} {did : EngineRun}
    (h : (plan.turn (plan.seeded index) did).Faithful) {report : Report}
    (hreport : report ∈ did.reports) : plan.settings.filter.selects report.test = true := by
  have hincludes := h report hreport
  rwa [Selection.includes, RunPlan.turn, RunPlan.seeded_isBaseline, Bool.false_or] at hincludes

/-- Where every turn is faithful no test is classified as not selected. -/
theorem TallyCall.ByTurns.not_classifies {calls : List TallyCall} (byTurns : ByTurns calls turns)
    (turnsOf : plan.TurnsOf turns) (faithful : ∀ turn ∈ turns, turn.Faithful) (test : Test) :
    ¬ Tally.Classifies plan.settings.filter plan.settings.cap calls test .notSelected := by
  rintro ⟨earlier, kind, message, later, rfl, hreason⟩
  obtain ⟨hseeded, hselects⟩ := Tally.of_reasonNow?_notSelected hreason
  rw [Tally.after_filter] at hselects
  obtain ⟨past, now, hrounds, called⟩ :=
    Tally.after_called plan.settings.filter plan.settings.cap earlier
  obtain ⟨turn, hturn, hreport⟩ := byTurns.exists_turn hrounds
  rw [called.holds.baseline] at hseeded
  cases past with
  | nil => cases hseeded
  | cons first rest =>
    obtain ⟨did, rfl⟩ := turnsOf.seeded hturn
    have hselected := (faithful _ (List.mem_of_getElem? hturn)).selects hreport
    exact absurd (hselects.symm.trans hselected) Bool.false_ne_true

/-- If seeded rounds with faithful turns rule out tests, none of them is not selected. -/
theorem RunSettings.Stopped.selected {did : EngineRun} {dids : List EngineRun}
    {status : RunStatus} (h : plan.settings.Stopped (dids.map (·.reports)) status)
    (faithful : ∀ turn ∈ plan.turns did dids, turn.Faithful) {tests : List (TestId × NoRetry)}
    (hstatus : status = .aborted (.nonRetried tests)) (id : TestId) :
    (id, NoRetry.notSelected) ∉ tests := by
  intro hmem
  obtain ⟨-, -, -, first⟩ := h.tests tests hstatus
  obtain ⟨earlier, report, later, hround, -, hreason, -⟩ := (first id .notSelected).mp hmem
  rw [List.getElem?_map, Option.map_eq_some_iff] at hround
  obtain ⟨last, hlast, hreports⟩ := hround
  have hturn := @RunPlan.getElem?_turns_succ plan did dids ((dids.map (·.reports)).length - 1)
  rw [hlast, Option.map_some] at hturn
  have hreport : report ∈ last.reports := by simp [hreports]
  have hselected := (faithful _ (List.mem_of_getElem? hturn)).selects hreport
  exact absurd ((Report.selects_of_blocking? hreason).symm.trans hselected) Bool.false_ne_true

end

/-! ## Reports outside the selection -/

section

variable {plan : RunPlan} {turn : EngineTurn} {report : Report} {acts : List Act}

/-- A report that rules out a retry, however often the test has failed, ends the rounds. -/
theorem RunSettings.stop?_of_blocks {settings : RunSettings} {seeded : List (List Report)}
    {reports : List Report} (hreport : report ∈ reports)
    (blocks : ∀ failures, report.Blocks settings.filter settings.cap failures) :
    ∃ tests, settings.stop? seeded reports = some (.aborted (.nonRetried tests)) ∧
      report.test.id ∈ tests.map (·.1) := by
  have hreason : (firstReason? settings.filter settings.cap
      (failureRounds (seeded ++ [reports]) report.test.id) reports report.test.id).isSome = true :=
    firstReason?_isSome.mpr ⟨report, hreport, rfl, blocks _⟩
  obtain ⟨reason, hreason⟩ := Option.isSome_iff_exists.mp hreason
  have hlisted := mem_ruledOut.mpr hreason
  refine ⟨_, ?_, List.mem_map_of_mem hlisted⟩
  rw [stop?]
  exact if_pos (List.ne_nil_of_mem hlisted)

/-- A turn is the last of some, and rounds ended with a status that lists a test as not retried. -/
structure EndedBy (turns : List EngineTurn) (turn : EngineTurn) (status : RunStatus)
    (id : TestId) : Prop where
  last : turns.getLast? = some turn
  aborted : ∃ tests, status = .aborted (.nonRetried tests) ∧ id ∈ tests.map (·.1)

theorem EndedBy.cons {turns : List EngineTurn} {status : RunStatus} {id : TestId}
    (h : EndedBy turns turn status id) (first : EngineTurn) :
    EndedBy (first :: turns) turn status id :=
  ⟨by rw [List.getLast?_cons, h.last, Option.getD_some], h.aborted⟩

theorem SeededRun.endedBy {baseline : List Report} {before : Phase} {seeded : List (List Report)}
    {result : Except RunError (List RoundRecord × RunStatus)}
    (h : SeededRun plan baseline before seeded acts result) (hturn : turn ∈ turnsOf acts)
    (failure : turn.did.failure = none) (hreport : report ∈ turn.reports)
    (blocks : ∀ failures, report.Blocks plan.settings.filter plan.settings.cap failures) :
    ∃ records status, result = .ok (records, status) ∧
      EndedBy (turnsOf acts) turn status report.test.id := by
  induction h with
  | unplaced => simp at hturn
  | failed failed =>
    obtain rfl := List.mem_singleton.mp hturn
    exact absurd (failed.symm.trans failure) (Option.some_ne_none _)
  | @stopped _ seeded did status _ stop =>
    obtain rfl := List.mem_singleton.mp hturn
    obtain ⟨tests, hstop, hlisted⟩ :=
      @RunSettings.stop?_of_blocks _ plan.settings seeded did.reports hreport blocks
    obtain rfl := Option.some.inj (stop.symm.trans hstop)
    exact ⟨_, _, rfl, rfl, tests, rfl, hlisted⟩
  | @later _ seeded did acts _ _ stop rest ih =>
    rcases List.mem_cons.mp hturn with rfl | hturn
    · obtain ⟨tests, hstop, -⟩ :=
        @RunSettings.stop?_of_blocks _ plan.settings seeded did.reports hreport blocks
      exact absurd (hstop.symm.trans stop) (Option.some_ne_none _)
    · obtain ⟨records, status, rfl, ended⟩ := ih hturn
      exact ⟨_, status, rfl, ended.cons _⟩

theorem Course.endedBy {result : Except RunError Outcome} (h : Course plan acts result)
    (hturn : turn ∈ turnsOf acts) (seeded : turn.round.isBaseline = false)
    (failure : turn.did.failure = none) (hreport : report ∈ turn.reports)
    (blocks : ∀ failures, report.Blocks plan.settings.filter plan.settings.cap failures) :
    ∃ outcome, result = .ok (.finished outcome) ∧
      EndedBy (turnsOf acts) turn outcome.finished.status report.test.id := by
  have notBaseline : ∀ did, turn ≠ plan.turn plan.baseline did := by
    rintro did rfl
    cases seeded
  have later : ∀ {did acts}, turn ∈ turnsOf (plan.opening did ++ acts) → turn ∈ turnsOf acts := by
    intro did acts h
    rw [turnsOf_append] at h
    rcases List.mem_cons.mp h with h | h
    · exact absurd h (notBaseline did)
    · exact h
  cases h with
  | unperturbedFailed single failed =>
    exact absurd (List.mem_singleton.mp hturn) (notBaseline _)
  | unperturbed single unfailing =>
    exact absurd (List.mem_singleton.mp hturn) (notBaseline _)
  | noDirectory many => cases hturn
  | uninstrumented many => cases hturn
  | baselineUnplaced many => cases hturn
  | baselineFailed many failed => exact absurd (List.mem_singleton.mp hturn) (notBaseline _)
  | broken many unfailing rounds =>
    obtain ⟨_, _, herror, -⟩ := rounds.endedBy (later hturn) failure hreport blocks
    cases herror
  | @finished did acts records status many unfailing rounds =>
    have hturns : turnsOf (plan.opening did ++ acts ++
        [.enter (phaseAfter .baseline acts) status.phase]) =
        plan.turn plan.baseline did :: turnsOf acts := by simp [RunPlan.opening]
    rw [hturns] at hturn ⊢
    obtain ⟨_, _, hok, ended⟩ := rounds.endedBy
      ((List.mem_cons.mp hturn).resolve_left (notBaseline did)) failure hreport blocks
    obtain ⟨rfl, rfl⟩ := Prod.mk.inj (Except.ok.inj hok)
    exact ⟨_, rfl, ended.cons _⟩

end

/-! ## Whole runs -/

section

variable {σ : Type}

/-- If every turn of a run is faithful, no test is classified as not selected, and no run is aborted
    for that. If the engine reports the failure of a test that its selection does not include, and
    does not fail in that turn, the run is aborted after the turn with the test among those that
    are not retried. -/
theorem run_selection_agrees (engine : Engine σ) (instrumentation : Instrumentation)
    (plan : RunPlan) (state : σ) (disk : Disk) :
    ((∀ turn ∈ (run engine instrumentation plan (.start plan state disk)).2.turns,
        turn.Faithful) →
      (∃ calls, TallyCall.ByTurns calls
          (run engine instrumentation plan (.start plan state disk)).2.turns ∧
        (run engine instrumentation plan (.start plan state disk)).2.tally =
          Tally.after plan.settings.filter plan.settings.cap calls ∧
        ∀ test, ¬ Tally.Classifies plan.settings.filter plan.settings.cap calls test
          .notSelected) ∧
      ∀ outcome tests, (run engine instrumentation plan (.start plan state disk)).1 =
          .ok (.finished outcome) →
        outcome.finished.status = .aborted (.nonRetried tests) →
        ∀ id, (id, NoRetry.notSelected) ∉ tests) ∧
    ∀ turn ∈ (run engine instrumentation plan (.start plan state disk)).2.turns,
      turn.did.failure = none → ∀ test kind message,
      .failed test kind message ∈ turn.reports → turn.selection.includes test = false →
      ∃ outcome, (run engine instrumentation plan (.start plan state disk)).1 =
          .ok (.finished outcome) ∧
        EndedBy (run engine instrumentation plan (.start plan state disk)).2.turns turn
          outcome.finished.status test.id := by
  obtain ⟨turnsOf, calls, byTurns, htally⟩ :=
    run_calls_tally engine plan instrumentation state disk
  obtain ⟨acts, course, moved⟩ := run_course engine instrumentation plan state disk
  refine ⟨fun faithful => ⟨⟨calls, byTurns, htally, ?_⟩, ?_⟩, ?_⟩
  · exact byTurns.not_classifies turnsOf faithful
  · intro outcome tests hrun hstatus
    rw [hrun] at course
    obtain ⟨baseline, seeded, status, hne, turns, rfl, ends⟩ := course.ended
    rw [moved.turns_start, turns] at faithful
    exact (ends.stopped (by simpa using hne)).selected faithful hstatus
  · intro turn hturn failure test kind message hreport hincludes
    rw [Selection.includes, Bool.or_eq_false_iff] at hincludes
    obtain ⟨hseeded, hselects⟩ := hincludes
    have hfilter : turn.selection.filter = plan.settings.filter := turnsOf.filter hturn
    rw [hfilter] at hselects
    rw [moved.turns_start] at hturn ⊢
    exact course.endedBy hturn hseeded failure hreport fun _ => .inr (.inl hselects)

end

/-! ## A filter that selects everything, and one that selects nothing -/

theorem Filter.selects_everything (test : Test) : Filter.everything.selects test = true := by
  simp [Filter.selects, Filter.excludes, Filter.includes, Filter.everything, Filter.matchesAny]

/-- A small plan whose filter selects only tests of another class. -/
def RunPlan.picky : RunPlan :=
  { RunPlan.small with
    settings := { RunPlan.small.settings with
      filter := (Filter.compile ⟨["D"], [], [], []⟩).toOption.getD .everything } }

/-- The small engine is faithful where every test is selected. Where its test is not, it executes it
    all the same, and its first seeded round is its last. -/
theorem run_selection_agrees_small :
    (∃ calls, TallyCall.ByTurns calls (run .small .none .small (.start .small () .blank)).2.turns ∧
      ∀ test, ¬ Tally.Classifies .everything .unlimited calls test .notSelected) ∧
    ∃ turn outcome, (run .small .none .picky (.start .picky () .blank)).1 =
        .ok (.finished outcome) ∧
      EndedBy (run .small .none .picky (.start .picky () .blank)).2.turns turn
        outcome.finished.status ⟨"C", "a"⟩ := by
  have faithful : ∀ turn ∈ (run .small .none .small (.start .small () .blank)).2.turns,
      turn.Faithful := by
    intro turn hturn report _
    have hfilter : turn.selection.filter = .everything :=
      (run_calls_tally Engine.small RunPlan.small .none () .blank).1.filter hturn
    rw [Selection.includes, hfilter, Filter.selects_everything, Bool.or_true]
  have refused : ((run .small .none .picky (.start .picky () .blank)).2.turns[1]?.map fun turn =>
      (turn.did.failure, turn.reports, turn.selection.includes ⟨⟨"C", "a"⟩, []⟩)) =
      some (none, [.failed ⟨⟨"C", "a"⟩, []⟩ .assertion none], false) := by
    decide +kernel
  have agrees := run_selection_agrees Engine.small .none RunPlan.small () .blank
  have refuses := run_selection_agrees Engine.small .none RunPlan.picky () .blank
  obtain ⟨calls, byTurns, -, never⟩ := (agrees.1 faithful).1
  obtain ⟨turn, hturn, hshown⟩ := Option.map_eq_some_iff.mp refused
  obtain ⟨failure, hshown⟩ := Prod.mk.inj hshown
  obtain ⟨hreports, hincludes⟩ := Prod.mk.inj hshown
  obtain ⟨outcome, hrun, ended⟩ := refuses.2 turn (List.mem_of_getElem? hturn) failure _ _ _
    (by rw [hreports]; exact List.mem_singleton_self _) hincludes
  exact ⟨⟨calls, byTurns, never⟩, turn, outcome, hrun, ended⟩

end Flaky
