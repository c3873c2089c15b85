-- SUMMARY: The courses that a run can take from its start to its end, and that every run takes one of them.
import Flaky.Proofs.Run.Rounds

/-!
# Courses of runs

`Course` lists every way in which a run can go, with the moves that it makes and
what it comes to. `run_course` says that every run takes one of these courses,
whatever the engine and the instrumentation do.
-/

namespace Flaky

/-- The phase in which rounds end that ended so. -/
def RunStatus.phase : RunStatus → Phase
  | .completed => .done
  | .aborted _ => .aborted

/-! ## Before and after the rounds -/

section

variable {σ : Type}

/-- What preparing a run can come to. -/
inductive PrepareRun (engine : Engine σ) (plan : RunPlan) (s : Session σ) :
    Except RunError Unit → Session σ → Prop
  | noDirectory {cause : IoError} {s' : Session σ} (moved : s.Moved engine [] s') :
    PrepareRun engine plan s (.error (.directory plan.directory.path cause)) s'
  | uninstrumented {error : InstrumentationError} {s' : Session σ}
    (moved : s.Moved engine [.instrument plan.artifacts] s') :
    PrepareRun engine plan s (.error (.instrumentation error)) s'
  | ready {s' : Session σ} (moved : s.Moved engine [.instrument plan.artifacts] s')
    (tally : s'.tally = s.tally) : PrepareRun engine plan s (.ok ()) s'

theorem prepare_run (engine : Engine σ) (instrumentation : Instrumentation) (plan : RunPlan)
    (s : Session σ) :
    PrepareRun engine plan s (prepare plan instrumentation s).1
      (prepare plan instrumentation s).2 := by
  unfold prepare
  split
  case h_1 cause disk _ => exact .noDirectory ((Session.Quiet.disk s disk).moved engine)
  case h_2 disk _ =>
    have called : s.Moved engine [.instrument plan.artifacts]
        { s.act (.instrument plan.artifacts) with
          disk := (instrumentation plan.artifacts disk).disk } :=
      ⟨by simp [Session.moves, Session.act, Act.isMove], rfl, .nil⟩
    have noted := called.quiet (.refl s)
      (.note _ (instrumentation plan.artifacts disk).notes)
    simp only
    split
    case h_1 error _ => exact .uninstrumented noted
    case h_2 _ =>
      split
      · exact .ready (noted.quiet (.refl s) (.emit _ _)) rfl
      · exact .uninstrumented noted

theorem conclude_moved (engine : Engine σ) (status : RunStatus) (s : Session σ) :
    s.Moved engine [.enter s.phase status.phase] (conclude status s) := by
  cases status with
  | completed => exact .advance engine s .done
  | aborted reason => exact (Session.Moved.advance engine s .aborted).quiet (.refl s) (.emit _ _)

theorem finishRun_moved (engine : Engine σ) (plan : RunPlan) (baseline : RoundRecord)
    (records : List RoundRecord) (status : RunStatus) (s : Session σ) :
    s.Moved engine [.enter s.phase status.phase]
      (finishRun plan baseline records status s).2 := by
  unfold finishRun
  exact (conclude_moved engine status s).quiet (.refl s)
    (((Session.Quiet.note _ _).trans (writeReports_quiet ..)).trans (.emit _ _))

end

/-! ## Whole runs -/

/-- The moves of a run up to the end of its baseline. -/
def RunPlan.opening (plan : RunPlan) (did : EngineRun) : List Act :=
  [.instrument plan.artifacts, .enter .init .baseline, .execute (plan.turn plan.baseline did)]

/-- What a run can come to, with the moves that it makes. -/
inductive Course (plan : RunPlan) : List Act → Except RunError Outcome → Prop
  | unperturbedFailed {did : EngineRun} {error : EngineError} (single : plan.settings.maxRounds = 0)
    (failure : did.failure = some error) :
    Course plan [.enter .init .baseline, .execute (plan.turn plan.baseline did)]
      (.error (.engine plan.baseline.id error))
  | unperturbed {did : EngineRun} (single : plan.settings.maxRounds = 0)
    (failure : did.failure = none) :
    Course plan
      [.enter .init .baseline, .execute (plan.turn plan.baseline did), .enter .baseline .done]
      (.ok (.unperturbed (plan.baseline.shows [] did.reports)))
  | noDirectory {cause : IoError} (many : plan.settings.maxRounds ≠ 0) :
    Course plan [] (.error (.directory plan.directory.path cause))
  | uninstrumented {error : InstrumentationError} (many : plan.settings.maxRounds ≠ 0) :
    Course plan [.instrument plan.artifacts] (.error (.instrumentation error))
  | baselineUnplaced {cause : IoError} (many : plan.settings.maxRounds ≠ 0) :
    Course plan [.instrument plan.artifacts, .enter .init .baseline]
      (.error (.directory plan.baseline.outputDirectory cause))
  | baselineFailed {did : EngineRun} {error : EngineError} (many : plan.settings.maxRounds ≠ 0)
    (failure : did.failure = some error) :
    Course plan (plan.opening did) (.error (.engine plan.baseline.id error))
  | broken {did : EngineRun} {acts : List Act} {error : RunError}
    (many : plan.settings.maxRounds ≠ 0) (failure : did.failure = none)
    (rounds : SeededRun plan did.reports .baseline [] acts (.error error)) :
    Course plan (plan.opening did ++ acts) (.error error)
  | finished {did : EngineRun} {acts : List Act} {records : List RoundRecord} {status : RunStatus}
    (many : plan.settings.maxRounds ≠ 0) (failure : did.failure = none)
    (rounds : SeededRun plan did.reports .baseline [] acts (.ok (records, status))) :
    Course plan (plan.opening did ++ acts ++ [.enter (phaseAfter .baseline acts) status.phase])
      (.ok (.finished ⟨plan.directory,
        plan.finish (plan.baseline.shows [] did.reports) records status⟩))

section

variable {σ : Type} {plan : RunPlan} {state : σ} {disk : Disk} {s : Session σ}

theorem runUnperturbed_course (engine : Engine σ) (single : plan.settings.maxRounds = 0)
    (h : (Session.start plan state disk).Quiet s) :
    ∃ acts, Course plan acts (runUnperturbed engine plan s).1 ∧
      s.Moved engine acts (runUnperturbed engine plan s).2 := by
  have hround := (executeRound_run engine plan plan.baseline (s.advance .baseline)).enter
  have hplaced := @executeRound_placed _ engine plan plan.baseline (s.advance .baseline)
  have hphase : s.phase = .init := h.phase
  have holds : (s.advance .baseline).tally.Holds [] [] := h.tally ▸ .start
  have hopen : (s.advance .baseline).tally.frozen = none := h.tally ▸ rfl
  rw [hphase, holds.gives_shows hopen] at hround
  unfold runUnperturbed
  split
  case h_1 error s₁ hrun =>
    rw [hrun] at hround hplaced
    cases hround with
    | unplaced moved => exact absurd rfl (hplaced _ _)
    | failed moved failure => exact ⟨_, .unperturbedFailed single failure, moved⟩
  case h_2 record result s₁ hrun =>
    rw [hrun] at hround
    cases hround with
    | finished moved failure tally =>
      have ended := moved.trans (.advance engine s₁ .done)
      rw [moved.phase] at ended
      exact ⟨_, .unperturbed single failure, ended⟩

/-- What the rounds start from, once the baseline is over. -/
inductive BaselineRun (engine : Engine σ) (plan : RunPlan) (s : Session σ) :
    Except RunError RoundRecord → Session σ → Prop
  | broken {acts : List Act} {error : RunError} {s' : Session σ} (moved : s.Moved engine acts s')
    (course : Course plan acts (.error error)) : BaselineRun engine plan s (.error error) s'
  | finished {did : EngineRun} {s' : Session σ} (moved : s.Moved engine (plan.opening did) s')
    (failure : did.failure = none) (ready : s'.Ready plan [did.reports]) :
    BaselineRun engine plan s (.ok (plan.baseline.shows [] did.reports)) s'

theorem runBaseline_run (engine : Engine σ) (instrumentation : Instrumentation)
    (many : plan.settings.maxRounds ≠ 0) (h : (Session.start plan state disk).Quiet s) :
    BaselineRun engine plan s (runBaseline engine instrumentation plan s).1
      (runBaseline engine instrumentation plan s).2 := by
  have hphase : s.phase = .init := h.phase
  have hready : s.Ready plan [] := (Session.Ready.start many).tally h.tally
  have hprepare := prepare_run engine instrumentation plan s
  unfold runBaseline
  split
  case h_1 error s₁ hrun =>
    rw [hrun] at hprepare
    cases hprepare with
    | noDirectory moved => exact .broken moved (.noDirectory many)
    | uninstrumented moved => exact .broken moved (.uninstrumented many)
  case h_2 s₁ hrun =>
    rw [hrun] at hprepare
    cases hprepare with
    | ready moved tally =>
      -- only that opening the log is quiet matters
      have quiet := openRunLog_quiet plan s₁
      generalize openRunLog plan s₁ = s₂ at quiet ⊢
      have opened := moved.quiet (.refl s) quiet
      have hround := (runRound_run engine plan plan.baseline (s₂.advance .baseline)).enter
      have hbefore : s₂.phase = .init := opened.phase.trans hphase
      have hlater : (s₂.advance .baseline).Ready plan [] := hready.tally (quiet.tally.trans tally)
      rw [hbefore, hlater.holds.gives_shows hlater.opened] at hround
      split
      case h_1 error s₃ hrun =>
        rw [hrun] at hround
        cases hround with
        | unplaced moved => exact .broken (opened.trans moved) (.baselineUnplaced many)
        | failed moved failure =>
          exact .broken (opened.trans moved) (.baselineFailed many failure)
      case h_2 record result s₃ hrun =>
        rw [hrun] at hround
        cases hround with
        | finished moved failure counted =>
          exact .finished ((opened.trans moved).reset _) failure (hlater.next counted BEq.comm)

theorem runPerturbed_course (engine : Engine σ) (instrumentation : Instrumentation) {left : Nat}
    (hleft : left + 1 = plan.settings.maxRounds) (h : (Session.start plan state disk).Quiet s) :
    ∃ acts, Course plan acts (runPerturbed engine instrumentation plan left s).1 ∧
      s.Moved engine acts (runPerturbed engine instrumentation plan left s).2 := by
  have many : plan.settings.maxRounds ≠ 0 := by omega
  have hbaseline := runBaseline_run engine instrumentation many h
  unfold runPerturbed
  split
  case h_1 error s₁ hrun =>
    rw [hrun] at hbaseline
    cases hbaseline with
    | broken moved course => exact ⟨_, course, moved⟩
  case h_2 baseline s₁ hrun =>
    rw [hrun] at hbaseline
    cases hbaseline with
    | @finished did _ moved failure ready =>
      obtain ⟨acts, rounds, later, -⟩ := seededRounds_run engine ready hleft
      have hphase : s₁.phase = .baseline := moved.phase
      rw [hphase] at rounds
      split
      case h_1 error s₂ hrun =>
        rw [hrun] at rounds later
        exact ⟨_, .broken many failure rounds, moved.trans later⟩
      case h_2 records status s₂ hrun =>
        rw [hrun] at rounds later
        have ended := (moved.trans later).trans (finishRun_moved engine plan
          (plan.baseline.shows [] did.reports) records status s₂)
        have hlast : s₂.phase = phaseAfter .baseline acts := by rw [later.phase, hphase]
        rw [hlast] at ended
        exact ⟨_, .finished many failure rounds, ended⟩

/-- Every run takes one of the courses of a run. -/
theorem run_course (engine : Engine σ) (instrumentation : Instrumentation) (plan : RunPlan)
    (state : σ) (disk : Disk) :
    ∃ acts, Course plan acts (run engine instrumentation plan (.start plan state disk)).1 ∧
      (Session.start plan state disk).Moved engine acts
        (run engine instrumentation plan (.start plan state disk)).2 := by
  have started := Session.Quiet.emit (Session.start plan state disk)
    (.runStarted plan.circumstances.runId plan.settings.maxRounds plan.settings.baseSeed)
  unfold run
  split
  case h_1 single =>
    obtain ⟨acts, course, moved⟩ := runUnperturbed_course engine single started
    exact ⟨acts, course, moved.quiet started (.refl _)⟩
  case h_2 left many =>
    obtain ⟨acts, course, moved⟩ :=
      runPerturbed_course engine instrumentation many.symm started
    exact ⟨acts, course, moved.quiet started (.refl _)⟩

end

/-! ## What the rounds were -/

/-- The turns of the engine at the baseline and at seeded rounds. -/
def RunPlan.turns (plan : RunPlan) (baseline : EngineRun) (seeded : List EngineRun) :
    List EngineTurn :=
  plan.turn plan.baseline baseline :: plan.seededTurns 0 seeded

section

variable {σ : Type} {plan : RunPlan} {engine : Engine σ} {state : σ} {disk : Disk} {s : Session σ}
variable {acts : List Act}

theorem Session.Moved.turns_start (h : (Session.start plan state disk).Moved engine acts s) :
    s.turns = turnsOf acts :=
  h.turns.trans (List.nil_append _)

/-- The turns in the history of a run are the calls of its engine, all of them. -/
theorem run_calls (engine : Engine σ) (instrumentation : Instrumentation) (plan : RunPlan)
    (state : σ) (disk : Disk) :
    Engine.Calls engine (run engine instrumentation plan (.start plan state disk)).2.turns state
      (run engine instrumentation plan (.start plan state disk)).2.engine := by
  obtain ⟨acts, -, moved⟩ := run_course engine instrumentation plan state disk
  rw [moved.turns_start]
  exact moved.calls

/-- The turns of a run that finished, and what its outcome was made from. -/
theorem Course.ended {outcome : RunOutcome} (h : Course plan acts (.ok (.finished outcome))) :
    ∃ (baseline : EngineRun) (seeded : List EngineRun) (status : RunStatus),
      seeded ≠ [] ∧ turnsOf acts = plan.turns baseline seeded ∧
      outcome = ⟨plan.directory, plan.finish (plan.baseline.shows [] baseline.reports)
        (plan.records baseline.reports [] (seeded.map (·.reports))) status⟩ ∧
      plan.settings.Ends [] (seeded.map (·.reports)) (some status) := by
  cases h with
  | @finished did acts records status many failure rounds =>
    obtain ⟨dids, hdids, turns, rfl, ends⟩ := rounds.ended
    refine ⟨did, dids, status, hdids, ?_, rfl, ends⟩
    simp [RunPlan.opening, RunPlan.turns, turns]

/-- The turns of a run that was cut short, but not by its engine. -/
theorem Course.cut {error : RunError} (h : Course plan acts (.error error))
    (unfailing : ∀ turn ∈ turnsOf acts, turn.did.failure = none) :
    ((∃ path cause, error = .directory path cause) ∨ ∃ e, error = .instrumentation e) ∧
      ∃ seeded : List EngineRun, (turnsOf acts).tail = plan.seededTurns 0 seeded ∧
        plan.settings.Ends [] (seeded.map (·.reports)) none := by
  have nowhere : plan.settings.Ends [] (([] : List EngineRun).map (·.reports)) none := by
    intro i reports hreports
    simp at hreports
  cases h with
  | @unperturbedFailed did error single failure => simp [RunPlan.turn, failure] at unfailing
  | noDirectory many => exact ⟨.inl ⟨_, _, rfl⟩, [], rfl, nowhere⟩
  | uninstrumented many => exact ⟨.inr ⟨_, rfl⟩, [], rfl, nowhere⟩
  | baselineUnplaced many => exact ⟨.inl ⟨_, _, rfl⟩, [], rfl, nowhere⟩
  | @baselineFailed did error many failure =>
    simp [RunPlan.opening, RunPlan.turn, failure] at unfailing
  | @broken did acts error many failure rounds =>
    have later : ∀ turn ∈ turnsOf acts, turn.did.failure = none := fun turn hturn =>
      unfailing turn (by simp [hturn])
    obtain ⟨herror, dids, turns, ends⟩ := rounds.cut later
    exact ⟨.inl herror, dids, by simpa [RunPlan.opening] using turns, ends⟩

/-- A run whose engine fails in every turn ends with an error. Its only turn is its baseline. -/
theorem Course.failing {result : Except RunError Outcome} (h : Course plan acts result)
    (fails : ∀ turn ∈ turnsOf acts, turn.did.failure ≠ none) :
    (∃ error, result = .error error ∧ turnsOf acts = []) ∨
      ∃ did failure, turnsOf acts = [plan.turn plan.baseline did] ∧ did.failure = some failure ∧
        result = .error (.engine plan.baseline.id failure) := by
  have baseline : ∀ did : EngineRun, did.failure = none →
      plan.turn plan.baseline did ∉ turnsOf acts := fun _ unfailing hmem => fails _ hmem unfailing
  cases h with
  | @unperturbedFailed did error single failure => exact .inr ⟨did, error, rfl, failure, rfl⟩
  | noDirectory many => exact .inl ⟨_, rfl, rfl⟩
  | uninstrumented many => exact .inl ⟨_, rfl, rfl⟩
  | baselineUnplaced many => exact .inl ⟨_, rfl, rfl⟩
  | @baselineFailed did error many failure => exact .inr ⟨did, error, rfl, failure, rfl⟩
  | unperturbed single unfailing => exact absurd (by simp) (baseline _ unfailing)
  | broken many unfailing rounds =>
    exact absurd (by simp [RunPlan.opening]) (baseline _ unfailing)
  | finished many unfailing rounds =>
    exact absurd (by simp [RunPlan.opening]) (baseline _ unfailing)

end

/-! ## A small run -/

/-- A plan of two seeded rounds in an empty store. -/
def RunPlan.small : RunPlan :=
  { settings := ⟨2, .standard, .unlimited, false, .standard, .everything, none⟩
    store := "s"
    circumstances := ⟨⟨0⟩, fun _ => ⟨1⟩, ⟨2024, 1, 1, 0, 0, 0, 0, 0⟩, 0⟩ }

/-- An engine for one test, which fails in seeded rounds only. -/
def Engine.small : Engine Unit := fun selection _ disk =>
  let test : Test := ⟨⟨"C", "a"⟩, []⟩
  let report : Report :=
    if selection.round.isBaseline then .passed test else .failed test .assertion none
  (⟨[report], none, [], [], []⟩, (), disk)

/-- The outcome of a run with seeded rounds that comes to one. -/
def Outcome.finished? : Except RunError Outcome → Option RunOutcome
  | .ok (.finished outcome) => some outcome
  | .ok (.unperturbed _) | .error _ => none

theorem Outcome.eq_of_finished? {result : Except RunError Outcome} {outcome : RunOutcome}
    (h : finished? result = some outcome) : result = .ok (.finished outcome) := by
  unfold finished? at h
  split at h
  · rw [Option.some.inj h]
  · cases h
  · cases h

theorem Outcome.exists_of_finished? {result : Except RunError Outcome}
    (h : (finished? result).isSome = true) : ∃ outcome, result = .ok (.finished outcome) := by
  obtain ⟨outcome, houtcome⟩ := Option.isSome_iff_exists.mp h
  exact ⟨outcome, eq_of_finished? houtcome⟩

/-- The small run comes to an outcome. -/
theorem small_finishes :
    ∃ outcome, (run .small .none .small (.start .small () .blank)).1 =
      .ok (.finished outcome) :=
  Outcome.exists_of_finished? (by decide +kernel)

end Flaky
