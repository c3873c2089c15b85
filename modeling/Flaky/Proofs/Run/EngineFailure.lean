-- SUMMARY: A run whose engine fails: it breaks off at once, and the run log tells of the rounds that finished. A run that is not instrumented does not begin.
import Flaky.Proofs.Run.LogFile

/-!
# Runs that their engine breaks off

A run ends with the first error of its engine. The rounds before it stay in the run
log, if the log could be written and the engine left it alone; no artifact is
written that tells of a whole run.
-/

namespace Flaky

/-! ## Breaking off -/

/-- A run breaks off with its call number `j` of the engine, with the error of that call; the calls
    before it did not fail, and there are none after it. -/
structure RunPlan.BreaksOff (plan : RunPlan) (j : Nat) (error : EngineError)
    (result : Except RunError Outcome) (turns : List EngineTurn) : Prop where
  result : result = .error (.engine (plan.round j).id error)
  rounds : turns.map EngineTurn.round = (List.range (j + 1)).map plan.round
  unfailing : ∀ turn ∈ turns.take j, turn.did.failure = none

section

variable {plan : RunPlan} {deeds : List Deed} {result : Except RunError Outcome}

/-- Up to the last round the engine is called once for each round. -/
theorem RunPlan.rounds_turn (opened : Except RunLogError Unit) (rounds : List FinishedRound) :
    (plan.openingDeeds opened ++ rounds.flatMap plan.roundDeeds).filterMap Deed.turn? =
      rounds.map (·.turn plan) := by
  rw [← filterMap_worksOf fun _ => rfl, worksOf_append, worksOf_openingDeeds, worksOf_rounds,
    List.filterMap_append, List.filterMap_flatMap, ← List.flatMap_pure_eq_map]
  refine List.flatMap_congr fun finished _ => ?_
  unfold FinishedRound.logDeed?
  cases finished.logged <;> rfl

theorem FinishedRun.closingDeeds_turn (run : FinishedRun) (writings : List Writing) :
    (run.closingDeeds writings).filterMap Deed.turn? = [] := by
  rw [← filterMap_worksOf fun _ => rfl, worksOf_closingDeeds, List.filterMap_eq_nil_iff]
  intro deed hdeed
  obtain ⟨writing, -, rfl⟩ := List.mem_map.mp hdeed
  rfl

/-- No call of a round that finished failed. -/
theorem FinishedRound.turn_unfailing {rounds : List FinishedRound} {turn : EngineTurn}
    (h : turn ∈ rounds.map (·.turn plan)) : turn.did.failure = none := by
  obtain ⟨finished, -, rfl⟩ := List.mem_map.mp h
  exact finished.unfailing

/-- What a run did that broke off because its engine failed. -/
inductive Diary.BrokenOff (plan : RunPlan) (error : EngineError) (j : Nat) :
    List Deed → Except RunError Outcome → Prop
  | intro {opened : Except RunLogError Unit} {rounds : List FinishedRound} {did : EngineRun}
    (hlength : rounds.length = j) (consecutive : plan.Consecutive 0 opened.isOk rounds)
    (failure : did.failure = some error) :
    BrokenOff plan error j
      (.tell plan.hello :: plan.openingDeeds opened ++ (rounds.flatMap plan.roundDeeds ++
        .createDirectory (plan.round j).outputDirectory (.ok ()) ::
          plan.callDeeds (plan.round j) did))
      (.error (.engine (plan.round j).id error))

/-- A run in which a call of the engine failed broke off with that call. -/
theorem Diary.brokenOff (h : Diary plan deeds result) (many : plan.settings.maxRounds ≠ 0) {j : Nat}
    {turn : EngineTurn} {error : EngineError}
    (hturn : (deeds.filterMap Deed.turn?)[j]? = some turn)
    (failure : turn.did.failure = some error) :
    Diary.BrokenOff plan error j deeds result := by
  have greeted : ∀ deeds, (.tell plan.hello :: deeds).filterMap Deed.turn? =
      deeds.filterMap Deed.turn? := fun _ => rfl
  have clash : ∀ rounds : List FinishedRound, turn ∉ rounds.map (·.turn plan) := by
    intro rounds hmem
    rw [FinishedRound.turn_unfailing hmem] at failure
    cases failure
  cases h with
  | unperturbedFailed single | unperturbed single => exact absurd single many
  | noDirectory | uninstrumented => cases hturn
  | @broken opened rounds deeds error' _ consecutive broken =>
    rw [List.cons_append, greeted, ← List.append_assoc, List.filterMap_append,
      RunPlan.rounds_turn] at hturn
    cases broken with
    | @unplaced cause =>
      have huncalled : ([.createDirectory (plan.round rounds.length).outputDirectory
          (.error cause)] : List Deed).filterMap Deed.turn? = [] := rfl
      rw [huncalled, List.append_nil] at hturn
      exact absurd (List.mem_of_getElem? hturn) (clash rounds)
    | @failed did error' hfailed =>
      have hcall : (.createDirectory (plan.round rounds.length).outputDirectory (.ok ()) ::
          plan.callDeeds (plan.round rounds.length) did).filterMap Deed.turn? =
          [plan.turn (plan.round rounds.length) did] := rfl
      rw [hcall, List.getElem?_append, List.length_map] at hturn
      split at hturn
      case isTrue => exact absurd (List.mem_of_getElem? hturn) (clash rounds)
      case isFalse hle =>
        obtain ⟨hlast, rfl⟩ : j - rounds.length = 0 ∧ _ = turn := by
          simpa [List.getElem?_singleton, ite_eq_iff] using hturn
        obtain rfl : rounds.length = j := by omega
        obtain rfl : error' = error := Option.some.inj (hfailed.symm.trans failure)
        exact .intro rfl consecutive hfailed
  | @finished opened baseline rounds status run writings _ consecutive hrun tasks =>
    rw [List.cons_append, greeted, ← List.append_assoc, List.filterMap_append,
      RunPlan.rounds_turn, FinishedRun.closingDeeds_turn, List.append_nil] at hturn
    exact absurd (List.mem_of_getElem? hturn) (clash (baseline :: rounds))

theorem Diary.BrokenOff.breaksOff {error : EngineError} {j : Nat}
    (h : Diary.BrokenOff plan error j deeds result) :
    plan.BreaksOff j error result (deeds.filterMap Deed.turn?) := by
  cases h with
  | @intro opened rounds did hlength consecutive failure =>
    have hturns : (.tell plan.hello :: plan.openingDeeds opened ++
        (rounds.flatMap plan.roundDeeds ++
        .createDirectory (plan.round j).outputDirectory (.ok ()) ::
          plan.callDeeds (plan.round j) did)).filterMap Deed.turn? =
        rounds.map (·.turn plan) ++ [plan.turn (plan.round j) did] := by
      rw [List.cons_append, List.filterMap_cons_none rfl, ← List.append_assoc,
        List.filterMap_append, RunPlan.rounds_turn]
      rfl
    have hrounds : (rounds.map (·.turn plan)).map EngineTurn.round =
        (List.range j).map plan.round := by
      rw [List.map_map, List.range_eq_range', ← hlength, ← consecutive.order]
      rfl
    rw [hturns]
    refine ⟨rfl, ?_, fun turn hmem => ?_⟩
    · rw [List.map_append, hrounds, List.range_succ, List.map_append]
      rfl
    · rw [List.take_left' (by rw [List.length_map, hlength])] at hmem
      exact FinishedRound.turn_unfailing hmem

/-- The run log of a run that broke off tells of the rounds that finished. -/
theorem Diary.BrokenOff.read {σ : Type} {engine : Engine σ} {instrumentation : Instrumentation}
    {world last : World σ} {error : EngineError} {j : Nat}
    (h : Diary.BrokenOff plan error j deeds result)
    (works : Deed.DoAll engine instrumentation plan deeds world last)
    (spares : engine.Spares plan.directory.runLog) (fine : plan.LogFine (eventsOf deeds))
    (hfile : last.disk.isFile plan.directory.runLog = true) :
    RunLog.read plan.directory.runLog last.disk =
      .ok ((List.range j).map fun i => (plan.round i).id) := by
  cases h with
  | @intro opened rounds did hlength consecutive failure =>
    obtain ⟨middle, entry, after, hempty, grown⟩ := works.rounds_grow spares consecutive fine
    obtain ⟨calm, unlogged⟩ := (@RunPlan.Broken.failed plan (plan.round j) did error failure).calm
    have hlast := (after.grows spares calm grown).find
    rw [unlogged, Entry.grown_grown] at hlast
    have hids : (rounds.map fun f => f.round.id) =
        (List.range j).map fun i => (plan.round i).id := by
      rw [List.range_eq_range', ← hlength, consecutive.ids]
    rw [← hids]
    exact RunLog.read_grown hempty (by simpa [RunLog.bytesOf, Utf8.encode] using hlast) hfile

end

/-! ## Without instrumentation -/

section

variable {σ : Type}

/-- A run whose instrumentation fails or is missing afterwards ends before its first round. -/
theorem prepare_uninstrumented (plan : RunPlan) (instrumentation : Instrumentation) {s : Session σ}
    {placed : Disk} (hplaced : s.disk.createDirectories plan.directory.path = (.ok (), placed))
    (h : (instrumentation plan.artifacts placed).failure ≠ none ∨
      (instrumentation plan.artifacts placed).disk.isDirectory plan.artifacts = false) :
    ∃ error, (prepare plan instrumentation s).1 = .error (.instrumentation error) := by
  unfold prepare
  rw [hplaced]
  simp only
  split
  case h_1 error hfailure => exact ⟨error, rfl⟩
  case h_2 hfailure =>
    split
    case isTrue hdirectory =>
      rcases h with h | h
      · exact absurd hfailure h
      · rw [← Bool.not_eq_true] at h
        exact absurd hdirectory h
    case isFalse => exact ⟨_, rfl⟩

/-- A run that may have a seeded round begins with its directory and its instrumentation. -/
theorem run_many (engine : Engine σ) (instrumentation : Instrumentation) {plan : RunPlan}
    (state : σ) (disk : Disk) {left : Nat} (hleft : left + 1 = plan.settings.maxRounds) :
    run engine instrumentation plan (.start plan state disk) =
      runPerturbed engine instrumentation plan left (plan.started state disk) := by
  unfold run
  split
  case h_1 single => exact absurd (hleft.trans single) (Nat.succ_ne_zero left)
  case h_2 left' many =>
    obtain rfl : left = left' := Nat.succ.inj (hleft.trans many)
    rfl

theorem run_uninstrumented (engine : Engine σ) (instrumentation : Instrumentation) {plan : RunPlan}
    (many : plan.settings.maxRounds ≠ 0) (state : σ) {disk placed : Disk}
    (hplaced : disk.createDirectories plan.directory.path = (.ok (), placed))
    (h : (instrumentation plan.artifacts placed).failure ≠ none ∨
      (instrumentation plan.artifacts placed).disk.isDirectory plan.artifacts = false) :
    ∃ error, (run engine instrumentation plan (.start plan state disk)).1 =
      .error (.instrumentation error) := by
  obtain ⟨left, hleft⟩ := Nat.exists_eq_succ_of_ne_zero many
  obtain ⟨error, hprepare⟩ :=
    prepare_uninstrumented (s := plan.started state disk) plan instrumentation hplaced h
  rw [run_many engine instrumentation state disk hleft.symm]
  unfold runPerturbed runBaseline
  generalize prepare plan instrumentation (plan.started state disk) = ended at hprepare ⊢
  obtain ⟨result, s⟩ := ended
  obtain rfl : result = _ := hprepare
  exact ⟨error, rfl⟩

/-- What a run did that was not instrumented. -/
theorem Diary.uninstrumented_deeds {plan : RunPlan} {deeds : List Deed}
    {error : InstrumentationError}
    (h : Diary plan deeds (.error (.instrumentation error))) :
    deeds = .tell plan.hello :: plan.instrumentDeeds := by
  cases h with
  | uninstrumented many => rfl
  | broken many consecutive broken => cases broken

section

variable {engine : Engine σ} {instrumentation : Instrumentation} {plan : RunPlan}
variable {world world' last : World σ}

theorem Deed.Does.told {event : RunEvent}
    (h : (Deed.tell event).Does engine instrumentation plan world world') : world' = world := by
  cases h
  rfl

theorem Deed.Does.created {path : String} {outcome : Except IoError Unit}
    (h : (Deed.createDirectory path outcome).Does engine instrumentation plan world world') :
    world.disk.createDirectories path = (outcome, world'.disk) := by
  cases h with
  | createDirectory created => exact created

theorem Deed.Does.instrumented
    (h : Deed.instrument.Does engine instrumentation plan world world') :
    world'.disk = (instrumentation plan.artifacts world.disk).disk := by
  cases h
  rfl

/-- Nobody but the instrumentation has worked on the disk by then, in the directory of the run. -/
theorem Deed.DoAll.instrumented {placed : Disk}
    (h : Deed.DoAll engine instrumentation plan (.tell plan.hello :: plan.instrumentDeeds)
      world last)
    (hplaced : world.disk.createDirectories plan.directory.path = (.ok (), placed)) :
    last.disk = (instrumentation plan.artifacts placed).disk := by
  obtain ⟨_, greets, h⟩ := h.uncons
  obtain ⟨_, places, h⟩ := h.uncons
  obtain ⟨_, instruments, nothing⟩ := h.uncons
  obtain rfl := greets.told
  obtain rfl := (Prod.mk.inj (hplaced.symm.trans places.created)).2
  cases nothing with
  | nil => exact instruments.instrumented

end

/-- A run with an engine that fails breaks off with the first call that fails, and with its error;
    it writes no report, and the run log reads back as the rounds that finished, as long as it is a
    file that could be written and that the engine leaves alone. A run whose instrumentation fails
    or is missing afterwards calls no engine and creates no run log. -/
theorem run_engine_failure (engine : Engine σ) (instrumentation : Instrumentation) {plan : RunPlan}
    (many : 1 ≤ plan.settings.maxRounds) (state : σ) (disk : Disk) :
    (∀ (j : Nat) turn error,
      (run engine instrumentation plan (.start plan state disk)).2.turns[j]? = some turn →
      turn.did.failure = some error →
      plan.BreaksOff j error (run engine instrumentation plan (.start plan state disk)).1
        (run engine instrumentation plan (.start plan state disk)).2.turns ∧
      Engine.Calls engine (run engine instrumentation plan (.start plan state disk)).2.turns state
        (run engine instrumentation plan (.start plan state disk)).2.engine ∧
      (∃ deeds, (Session.start plan state disk).Did engine instrumentation plan deeds
        (run engine instrumentation plan (.start plan state disk)).2 ∧
        deeds.filterMap Deed.task? = []) ∧
      (engine.Spares plan.directory.runLog →
        plan.LogFine (run engine instrumentation plan (.start plan state disk)).2.events →
        (run engine instrumentation plan (.start plan state disk)).2.disk.isFile
          plan.directory.runLog = true →
        RunLog.read plan.directory.runLog
            (run engine instrumentation plan (.start plan state disk)).2.disk =
          .ok ((List.range j).map fun i => (plan.round i).id))) ∧
    (∀ placed, disk.createDirectories plan.directory.path = (.ok (), placed) →
      ((instrumentation plan.artifacts placed).failure ≠ none ∨
        (instrumentation plan.artifacts placed).disk.isDirectory plan.artifacts = false) →
      (∃ error, (run engine instrumentation plan (.start plan state disk)).1 =
        .error (.instrumentation error)) ∧
      (run engine instrumentation plan (.start plan state disk)).2.turns = [] ∧
      (run engine instrumentation plan (.start plan state disk)).2.disk =
        (instrumentation plan.artifacts placed).disk ∧
      ∃ deeds, (Session.start plan state disk).Did engine instrumentation plan deeds
          (run engine instrumentation plan (.start plan state disk)).2 ∧
        ∀ opened, .openLog opened ∉ deeds) := by
  have many : plan.settings.maxRounds ≠ 0 := Nat.one_le_iff_ne_zero.mp many
  have calls := run_calls engine instrumentation plan state disk
  have uninstrumented := @run_uninstrumented _ engine instrumentation plan many state disk
  obtain ⟨deeds, diary, did⟩ := run_diary engine instrumentation plan state disk
  generalize run engine instrumentation plan (.start plan state disk) = ended
    at calls uninstrumented diary did ⊢
  obtain ⟨result, s⟩ := ended
  have hturns : s.turns = deeds.filterMap Deed.turn? := did.turns
  have hevents : s.events = eventsOf deeds := did.events
  refine ⟨fun j turn error hturn failure => ?_, fun placed hplaced h => ?_⟩
  · rw [hturns] at hturn
    have broken := diary.brokenOff many hturn failure
    refine ⟨hturns ▸ broken.breaksOff, calls, ⟨deeds, did, ?_⟩, fun spares fine hfile => ?_⟩
    · rw [diary.tasks, broken.breaksOff.result]
      rfl
    · have fine : plan.LogFine (eventsOf deeds) := hevents ▸ fine
      have hread := broken.read did.works spares fine hfile
      exact hread
  · obtain ⟨error, herror⟩ := uninstrumented hplaced h
    obtain rfl : result = _ := herror
    obtain rfl := diary.uninstrumented_deeds
    refine ⟨⟨error, rfl⟩, hturns, ?_, _, did, fun opened => by simp [RunPlan.instrumentDeeds]⟩
    exact did.works.instrumented hplaced

/-! ## Small runs -/

/-- An engine that executes the baseline and then fails. -/
def Engine.breaking : Engine Unit := fun selection _ disk =>
  let failure := if selection.round.isBaseline then none else some (.aborted "worn out")
  (⟨[], failure, [], [], []⟩, (), disk)

/-- An instrumentation that fails. -/
def Instrumentation.failing : Instrumentation := fun directory disk =>
  ⟨some (.missing directory), [], disk⟩

/-- The call of the engine at an index failed with an error. -/
theorem exists_failed_turn {turns : List EngineTurn} {j : Nat} {error : EngineError}
    (h : (turns[j]?.bind fun turn => turn.did.failure) = some error) :
    ∃ turn, turns[j]? = some turn ∧ turn.did.failure = some error :=
  Option.bind_eq_some_iff.mp h

theorem run_engine_failure_small :
    RunPlan.small.BreaksOff 1 (.aborted "worn out")
        (run .breaking .none .small (.start .small () .blank)).1
        (run .breaking .none .small (.start .small () .blank)).2.turns ∧
      RunLog.read RunPlan.small.directory.runLog
          (run .breaking .none .small (.start .small () .blank)).2.disk =
        .ok [(RunPlan.small.round 0).id] ∧
      (run .breaking .failing .small (.start .small () .blank)).2.turns = [] := by
  have hran : ((run .breaking .none .small (.start .small () .blank)).2.turns[1]?.bind
        fun turn => turn.did.failure) = some (.aborted "worn out") ∧
      (run .breaking .none .small (.start .small () .blank)).2.events.filterMap
        RunEvent.failure? = [] ∧
      (run .breaking .none .small (.start .small () .blank)).2.disk.isFile
        RunPlan.small.directory.runLog = true := by
    decide +kernel
  obtain ⟨turn, hturn, failure⟩ := exists_failed_turn hran.1
  have fine : RunPlan.small.LogFine _ := RunPlan.logFine_of_unfailing hran.2.1
  have spares : Engine.breaking.Spares RunPlan.small.directory.runLog := fun _ _ _ _ h => h
  have many : 1 ≤ RunPlan.small.settings.maxRounds := by decide
  obtain ⟨breaks, -, -, reads⟩ :=
    (run_engine_failure .breaking .none many () .blank).1 1 turn _ hturn failure
  have hplaced : ∃ placed, Disk.blank.createDirectories RunPlan.small.directory.path =
      (.ok (), placed) := ⟨(Disk.blank.createDirectories RunPlan.small.directory.path).2,
    Prod.ext (by decide +kernel) rfl⟩
  obtain ⟨placed, hplaced⟩ := hplaced
  obtain ⟨-, uncalled, -, -⟩ :=
    (run_engine_failure .breaking .failing many () .blank).2 placed hplaced (.inl (by simp
      [Instrumentation.failing]))
  exact ⟨breaks, reads spares fine hran.2.2, uncalled⟩

/-- An engine that puts its round into the run log itself, and fails. -/
def Engine.meddling : Engine Unit := fun selection _ disk =>
  let path := Path.join selection.round.runDirectory RunDirectory.runLogName
  (⟨[], some (.aborted "worn out"), [], [], []⟩, (),
    (disk.append path (Utf8.encode (RunLog.line selection.round.id))).2)

/-- The run log need not tell of the rounds that finished if the engine works on it too: here no
    round did. -/
theorem run_log_meddled :
    (∃ turn, (run .meddling .none .small (.start .small () .blank)).2.turns[0]? = some turn ∧
      turn.did.failure = some (.aborted "worn out")) ∧
    RunPlan.small.LogFine (run .meddling .none .small (.start .small () .blank)).2.events ∧
    RunLog.read RunPlan.small.directory.runLog
      (run .meddling .none .small (.start .small () .blank)).2.disk ≠ .ok [] := by
  have hran : ((run .meddling .none .small (.start .small () .blank)).2.turns[0]?.bind
        fun turn => turn.did.failure) = some (.aborted "worn out") ∧
      (run .meddling .none .small (.start .small () .blank)).2.events.filterMap
        RunEvent.failure? = [] ∧
      RunLog.read RunPlan.small.directory.runLog
        (run .meddling .none .small (.start .small () .blank)).2.disk ≠ .ok [] := by
    decide +kernel
  exact ⟨exists_failed_turn hran.1, RunPlan.logFine_of_unfailing hran.2.1, hran.2.2⟩

end

end Flaky
