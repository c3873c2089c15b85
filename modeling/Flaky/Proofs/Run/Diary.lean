-- SUMMARY: What the deeds of a whole run can be, from its start to its outcome or to the error that ends it.
import Flaky.Proofs.Run.Deeds

/-!
# The diary of a run

`Diary` lists what the deeds of a run can be, with what the run comes to, and
`run_diary` says that every run has such deeds. The rounds are in order, and every
one of them is logged if the run log could be created, and none if it could not.
The deeds fall into `Block`s, each with all that is made known of one deed, so that
what is told can be compared with what is done block by block.
-/

namespace Flaky

/-! ## Deeds around the rounds -/

namespace RunPlan

/-- A run says that it starts. -/
def hello (plan : RunPlan) : RunEvent :=
  .runStarted plan.circumstances.runId plan.settings.maxRounds plan.settings.baseSeed

/-- The deeds up to the call of the instrumentation. -/
def instrumentDeeds (plan : RunPlan) : List Deed :=
  [.createDirectory plan.directory.path (.ok ()), .instrument]

/-- The deeds before the first round, with how the run log was created. -/
def openingDeeds (plan : RunPlan) (opened : Except RunLogError Unit) : List Deed :=
  plan.instrumentDeeds ++ .tell (.instrumentationReady plan.artifacts) :: .openLog opened ::
    plan.logNews opened

end RunPlan

/-- What is made known of how the rounds ended. -/
def RunStatus.word : RunStatus → List RunEvent
  | .completed => []
  | .aborted reason => [.runAborted reason]

/-- A run says that it is over. -/
def FinishedRun.farewell (run : FinishedRun) : RunEvent :=
  .runFinished run.runId run.status run.rounds.length run.baselineFailures run.flaky

/-- The deeds after the last round, with how the artifacts were written. -/
def FinishedRun.closingDeeds (run : FinishedRun) (writings : List Writing) : List Deed :=
  run.status.word.map .tell ++ writings.flatMap (·.deeds) ++ [.tell run.farewell]

/-- What the deeds of a run can be, and what it comes to. -/
inductive Diary (plan : RunPlan) : List Deed → Except RunError Outcome → Prop
  | unperturbedFailed {did : EngineRun} {error : EngineError}
    (single : plan.settings.maxRounds = 0) (failure : did.failure = some error) :
    Diary plan (.tell plan.hello :: plan.callDeeds plan.baseline did)
      (.error (.engine plan.baseline.id error))
  | unperturbed {did : EngineRun} {result : RoundResult}
    (single : plan.settings.maxRounds = 0) (unfailing : did.failure = none) :
    Diary plan (.tell plan.hello :: plan.callDeeds plan.baseline did ++
        [.tell (.roundFinished (plan.baseline.complete result) result)])
      (.ok (.unperturbed (plan.baseline.complete result)))
  | noDirectory {cause : IoError} (many : plan.settings.maxRounds ≠ 0) :
    Diary plan [.tell plan.hello, .createDirectory plan.directory.path (.error cause)]
      (.error (.directory plan.directory.path cause))
  | uninstrumented {error : InstrumentationError} (many : plan.settings.maxRounds ≠ 0) :
    Diary plan (.tell plan.hello :: plan.instrumentDeeds) (.error (.instrumentation error))
  | broken {opened : Except RunLogError Unit} {rounds : List FinishedRound} {deeds : List Deed}
    {error : RunError} (many : plan.settings.maxRounds ≠ 0)
    (consecutive : plan.Consecutive 0 opened.isOk rounds)
    (broken : plan.Broken (plan.round rounds.length) deeds error) :
    Diary plan (.tell plan.hello :: plan.openingDeeds opened ++
        (rounds.flatMap plan.roundDeeds ++ deeds))
      (.error error)
  | finished {opened : Except RunLogError Unit} {baseline : FinishedRound}
    {rounds : List FinishedRound} {status : RunStatus} {run : FinishedRun}
    {writings : List Writing} (many : plan.settings.maxRounds ≠ 0)
    (consecutive : plan.Consecutive 0 opened.isOk (baseline :: rounds))
    (hrun : run = plan.finish baseline.record (rounds.map (·.record)) status)
    (tasks : writings.map (·.task) = run.tasks plan.directory plan.settings.junitPath) :
    Diary plan (.tell plan.hello :: plan.openingDeeds opened ++
        ((baseline :: rounds).flatMap plan.roundDeeds ++ run.closingDeeds writings))
      (.ok (.finished ⟨plan.directory, run⟩))

/-! ## Works -/

/-- The deeds that are more than making something known. -/
def worksOf (deeds : List Deed) : List Deed := deeds.filter fun deed => deed.event?.isNone

/-- The call of the engine in a round that finished. -/
def FinishedRound.turn (plan : RunPlan) (finished : FinishedRound) : EngineTurn :=
  plan.turn finished.round finished.did

/-- The deed by which a finished round is put into the run log. -/
def FinishedRound.logDeed? (finished : FinishedRound) : Option Deed :=
  finished.logged.map (.log finished.round.id)

def Writing.deed (writing : Writing) : Deed :=
  .write writing.artifact writing.path writing.text writing.outcome

section

variable {plan : RunPlan} {deeds more : List Deed}

theorem worksOf_append : worksOf (deeds ++ more) = worksOf deeds ++ worksOf more :=
  List.filter_append ..

/-- What is found among the deeds and is not made known is found among the works. -/
theorem filterMap_worksOf {α : Type} {look : Deed → Option α}
    (silent : ∀ event, look (.tell event) = none) :
    (worksOf deeds).filterMap look = deeds.filterMap look := by
  rw [worksOf, List.filterMap_filter]
  congr 1
  funext deed
  cases deed with
  | tell event => simp [Deed.event?, silent]
  | _ => rfl

theorem filter_worksOf {look : Deed → Bool} (silent : ∀ event, look (.tell event) = false) :
    (worksOf deeds).filter look = deeds.filter look := by
  rw [worksOf, List.filter_filter]
  congr 1
  funext deed
  cases deed with
  | tell event => simp [silent]
  | _ => simp [Deed.event?]

theorem worksOf_openingDeeds (opened : Except RunLogError Unit) :
    worksOf (plan.openingDeeds opened) =
      [.createDirectory plan.directory.path (.ok ()), .instrument, .openLog opened] := by
  cases opened <;> rfl

theorem worksOf_rounds (rounds : List FinishedRound) :
    worksOf (rounds.flatMap plan.roundDeeds) = rounds.flatMap fun finished =>
      [.createDirectory finished.round.outputDirectory (.ok ()), .execute (finished.turn plan)] ++
        finished.logDeed?.toList := by
  rw [worksOf, List.filter_flatMap]
  congr 1
  funext finished
  rcases hlogged : finished.logged with _ | _ | _ <;>
    simp only [RunPlan.roundDeeds, RunPlan.callDeeds, RunPlan.logDeeds, RunPlan.logNews,
      FinishedRound.logDeed?, hlogged] <;> rfl

theorem RunPlan.Broken.worksOf {round : Round} {error : RunError}
    (h : plan.Broken round deeds error) :
    (∃ outcome, worksOf deeds = [.createDirectory round.outputDirectory outcome]) ∨
      ∃ did, worksOf deeds =
        [.createDirectory round.outputDirectory (.ok ()), .execute (plan.turn round did)] := by
  cases h with
  | unplaced => exact .inl ⟨_, rfl⟩
  | failed failure => exact .inr ⟨_, rfl⟩

theorem worksOf_closingDeeds (run : FinishedRun) (writings : List Writing) :
    worksOf (run.closingDeeds writings) = writings.map (·.deed) := by
  have written : worksOf (writings.flatMap (·.deeds)) = writings.map (·.deed) := by
    rw [worksOf, List.filter_flatMap, ← List.flatMap_pure_eq_map]
    rfl
  have ended : worksOf (run.status.word.map .tell) = [] := by
    cases run.status <;> rfl
  rw [FinishedRun.closingDeeds, worksOf_append, worksOf_append, written, ended]
  exact List.append_nil _

end

/-! ## Blocks -/

/-- Deeds that belong together: one deed with what is made known of it, or something that is made
    known by itself. -/
inductive Block (plan : RunPlan) : List Deed → Prop
  | hello : Block plan [.tell plan.hello]
  | createDirectory (path : String) (outcome : Except IoError Unit) :
    Block plan [.createDirectory path outcome]
  | instrument : Block plan [.instrument]
  | ready : Block plan [.tell (.instrumentationReady plan.artifacts)]
  | openLog (opened : Except RunLogError Unit) : Block plan (.openLog opened :: plan.logNews opened)
  | call (round : Round) (did : EngineRun) : Block plan (plan.callDeeds round did)
  | finished (record : RoundRecord) (result : RoundResult) :
    Block plan [.tell (.roundFinished record result)]
  | log (id : ExecutionId) (outcome : Except RunLogError Unit) :
    Block plan (.log id outcome :: plan.logNews outcome)
  | aborted (reason : AbortReason) : Block plan [.tell (.runAborted reason)]
  | write (writing : Writing) : Block plan writing.deeds
  | farewell (run : FinishedRun) : Block plan [.tell run.farewell]

/-- The deeds fall into blocks. -/
inductive Blocks (plan : RunPlan) : List Deed → Prop
  | nil : Blocks plan []
  | cons {block deeds : List Deed} (first : Block plan block) (rest : Blocks plan deeds) :
    Blocks plan (block ++ deeds)

section

variable {plan : RunPlan} {deeds more : List Deed}

theorem Block.blocks (h : Block plan deeds) : Blocks plan deeds := by
  simpa using Blocks.cons h .nil

theorem Blocks.append (h : Blocks plan deeds) (h' : Blocks plan more) :
    Blocks plan (deeds ++ more) := by
  induction h with
  | nil => exact h'
  | cons first _ ih =>
    rw [List.append_assoc]
    exact .cons first ih

theorem Blocks.flatMap {α : Type} {deedsOf : α → List Deed}
    (h : ∀ item, Blocks plan (deedsOf item)) (items : List α) :
    Blocks plan (items.flatMap deedsOf) := by
  induction items with
  | nil => exact .nil
  | cons item items ih => exact (h item).append ih

theorem RunPlan.instrumentDeeds_blocks : Blocks plan plan.instrumentDeeds := by
  have created : Blocks plan [.createDirectory plan.directory.path (.ok ())] :=
    (Block.createDirectory _ _).blocks
  exact created.append Block.instrument.blocks

theorem RunPlan.openingDeeds_blocks (opened : Except RunLogError Unit) :
    Blocks plan (plan.openingDeeds opened) :=
  plan.instrumentDeeds_blocks.append (Block.ready.blocks.append (Block.openLog opened).blocks)

/-- The deeds of a round that has its directory, up to the call of the engine. -/
theorem RunPlan.callDeeds_blocks (round : Round) (did : EngineRun) :
    Blocks plan (.createDirectory round.outputDirectory (.ok ()) :: plan.callDeeds round did) := by
  have created : Blocks plan [.createDirectory round.outputDirectory (.ok ())] :=
    (Block.createDirectory _ _).blocks
  exact created.append (Block.call round did).blocks

theorem RunPlan.roundDeeds_blocks (finished : FinishedRound) :
    Blocks plan (plan.roundDeeds finished) := by
  have logs : Blocks plan (plan.logDeeds finished.round.id finished.logged) := by
    cases finished.logged with
    | none => exact .nil
    | some outcome => exact (Block.log _ outcome).blocks
  have ends : Blocks plan [.tell (.roundFinished finished.record finished.result)] :=
    (Block.finished _ _).blocks
  exact (plan.callDeeds_blocks finished.round finished.did).append (ends.append logs)

theorem RunPlan.Broken.blocks {round : Round} {error : RunError}
    (h : plan.Broken round deeds error) : Blocks plan deeds := by
  cases h with
  | unplaced => exact (Block.createDirectory _ _).blocks
  | @failed did error failure => exact plan.callDeeds_blocks round did

theorem FinishedRun.closingDeeds_blocks (run : FinishedRun) (writings : List Writing) :
    Blocks plan (run.closingDeeds writings) := by
  have ended : Blocks plan (run.status.word.map .tell) := by
    cases run.status with
    | completed => exact .nil
    | aborted reason => exact (Block.aborted reason).blocks
  exact (ended.append (.flatMap (fun writing => (Block.write writing).blocks) writings)).append
    (Block.farewell run).blocks

/-- What a run does falls into blocks. -/
theorem Diary.blocks {result : Except RunError Outcome} (h : Diary plan deeds result) :
    Blocks plan deeds := by
  have greet : Blocks plan [.tell plan.hello] := Block.hello.blocks
  cases h with
  | @unperturbedFailed did error single failure =>
    exact greet.append (Block.call plan.baseline did).blocks
  | @unperturbed did result single unfailing =>
    exact (greet.append (Block.call plan.baseline did).blocks).append (Block.finished _ _).blocks
  | noDirectory many => exact greet.append (Block.createDirectory _ _).blocks
  | uninstrumented many => exact greet.append plan.instrumentDeeds_blocks
  | @broken opened rounds deeds error many consecutive broken =>
    have begun := greet.append (plan.openingDeeds_blocks opened)
    exact begun.append ((Blocks.flatMap plan.roundDeeds_blocks rounds).append broken.blocks)
  | @finished opened baseline rounds status run writings many consecutive hrun tasks =>
    have begun := greet.append (plan.openingDeeds_blocks opened)
    have done := (Blocks.flatMap plan.roundDeeds_blocks (baseline :: rounds)).append
      (run.closingDeeds_blocks writings)
    exact begun.append done

/-- What is told among the events agrees with what is done if it does so in every block. -/
theorem Blocks.filterMap_eventsOf {α : Type} {told : RunEvent → Option α} {done : Deed → Option α}
    (agree : ∀ block, Block plan block → (eventsOf block).filterMap told = block.filterMap done)
    (h : Blocks plan deeds) : (eventsOf deeds).filterMap told = deeds.filterMap done := by
  induction h with
  | nil => rfl
  | cons first _ ih =>
    rw [eventsOf_append, List.filterMap_append, List.filterMap_append, agree _ first, ih]

end

section

variable {σ : Type} {engine : Engine σ} {instrumentation : Instrumentation} {plan : RunPlan}

/-! ## Before the rounds -/

/-- What the preparation of a run came to, with its deeds. -/
inductive PrepareDid (engine : Engine σ) (instrumentation : Instrumentation) (plan : RunPlan)
    (s : Session σ) : Except RunError Unit → Session σ → Prop
  | noDirectory {cause : IoError} {s' : Session σ}
    (did : s.Did engine instrumentation plan
      [.createDirectory plan.directory.path (.error cause)] s') :
    PrepareDid engine instrumentation plan s (.error (.directory plan.directory.path cause)) s'
  | uninstrumented {error : InstrumentationError} {s' : Session σ}
    (did : s.Did engine instrumentation plan plan.instrumentDeeds s') :
    PrepareDid engine instrumentation plan s (.error (.instrumentation error)) s'
  | prepared {s' : Session σ}
    (did : s.Did engine instrumentation plan
      (plan.instrumentDeeds ++ [.tell (.instrumentationReady plan.artifacts)]) s') :
    PrepareDid engine instrumentation plan s (.ok ()) s'

theorem prepare_did (engine : Engine σ) (instrumentation : Instrumentation) (plan : RunPlan)
    (s : Session σ) :
    PrepareDid engine instrumentation plan s (prepare plan instrumentation s).1
      (prepare plan instrumentation s).2 := by
  unfold prepare
  rcases hplace : s.disk.createDirectories plan.directory.path with ⟨cause | _, disk⟩
  case error => exact .noDirectory (.work (.createDirectory hplace) rfl rfl)
  case ok =>
    have placed : s.Did engine instrumentation plan
        [.createDirectory plan.directory.path (.ok ())] { s with disk := disk } :=
      .work (.createDirectory hplace) rfl rfl
    have called : Session.Did engine instrumentation plan [.instrument] { s with disk := disk }
        { s.act (.instrument plan.artifacts) with
          disk := (instrumentation plan.artifacts disk).disk } :=
      ⟨.cons .instrument .nil, Session.events_act, Session.turns_act⟩
    have instrumented := (placed.trans called).after
      (.note _ (instrumentation plan.artifacts disk).notes)
    simp only
    split
    case h_1 error hfailure => exact .uninstrumented instrumented
    case h_2 hfailure =>
      split
      case isTrue hdirectory => exact .prepared (instrumented.trans (.emit _ _))
      case isFalse hdirectory => exact .uninstrumented instrumented

theorem openRunLog_did (engine : Engine σ) (instrumentation : Instrumentation) (plan : RunPlan)
    (s : Session σ) :
    ∃ opened, s.Did engine instrumentation plan (.openLog opened :: plan.logNews opened)
      (openRunLog plan s) := by
  unfold openRunLog
  split
  case h_1 log disk hcreate => exact ⟨.ok (), .work (.openLog hcreate) rfl rfl⟩
  case h_2 error disk hcreate =>
    exact ⟨.error error, (Session.Did.work (.missLog hcreate) rfl rfl).trans (.emit _ _)⟩

/-- What the baseline came to, with its deeds and those before it. -/
inductive BaselineDid (engine : Engine σ) (instrumentation : Instrumentation) (plan : RunPlan)
    (s : Session σ) : Except RunError RoundRecord → Session σ → Prop
  | unprepared {error : RunError} {s' : Session σ}
    (prepared : PrepareDid engine instrumentation plan s (.error error) s') :
    BaselineDid engine instrumentation plan s (.error error) s'
  | broken {opened : Except RunLogError Unit} {deeds : List Deed} {error : RunError}
    {s' : Session σ} (broken : plan.Broken plan.baseline deeds error)
    (did : s.Did engine instrumentation plan (plan.openingDeeds opened ++ deeds) s') :
    BaselineDid engine instrumentation plan s (.error error) s'
  | finished {opened : Except RunLogError Unit} {finished : FinishedRound} {s' : Session σ}
    (hround : finished.round = plan.baseline) (hlogged : finished.logged.isSome = opened.isOk)
    (hlogging : s'.log.isSome = opened.isOk)
    (did : s.Did engine instrumentation plan
      (plan.openingDeeds opened ++ plan.roundDeeds finished) s') :
    BaselineDid engine instrumentation plan s (.ok finished.record) s'

theorem runBaseline_did (engine : Engine σ) (instrumentation : Instrumentation) (plan : RunPlan)
    {s : Session σ} (closed : s.log.isSome = false) :
    BaselineDid engine instrumentation plan s (runBaseline engine instrumentation plan s).1
      (runBaseline engine instrumentation plan s).2 := by
  have prepared := prepare_did engine instrumentation plan s
  unfold runBaseline
  generalize prepare plan instrumentation s = ended at prepared ⊢
  obtain ⟨_ | _, s₁⟩ := ended
  case error error => exact .unprepared prepared
  case ok =>
    cases prepared with
    | prepared before =>
      obtain ⟨opened, opens⟩ := openRunLog_did engine instrumentation plan s₁
      have opening : s.Did engine instrumentation plan (plan.openingDeeds opened)
          ((openRunLog plan s₁).advance .baseline) := by
        have deeds := (before.trans opens).after (.advance _ .baseline)
        rw [List.append_assoc] at deeds
        exact deeds
      have hlogging : ((openRunLog plan s₁).advance .baseline).log.isSome = opened.isOk := by
        rw [opening.logging, closed]
        cases opened <;>
          simp [RunPlan.openingDeeds, RunPlan.instrumentDeeds, RunPlan.logNews, Deed.opensLog]
      have ran := runRound_did engine instrumentation plan plan.baseline
        ((openRunLog plan s₁).advance .baseline)
      simp only
      generalize runRound engine plan plan.baseline _ = ended at ran ⊢
      obtain ⟨result, s₂⟩ := ended
      cases ran with
      | broken broken did => exact .broken broken (opening.trans did)
      | finished hround hlogged did =>
        exact .finished hround (hlogged.trans hlogging) (did.logging_eq.trans hlogging)
          ((opening.trans did).after (.reset _ _))

/-! ## After the rounds -/

theorem conclude_did (engine : Engine σ) (instrumentation : Instrumentation) (plan : RunPlan)
    (status : RunStatus) (s : Session σ) :
    s.Did engine instrumentation plan (status.word.map .tell) (conclude status s) := by
  cases status with
  | completed => exact .advance s .done
  | aborted reason => exact (Session.Did.emit _ _).before (.advance s .aborted)

theorem finishRun_did (engine : Engine σ) (instrumentation : Instrumentation) (plan : RunPlan)
    (baseline : RoundRecord) (records : List RoundRecord) (status : RunStatus) (s : Session σ) :
    ∃ writings : List Writing,
      writings.map (·.task) = (plan.finish baseline records status).tasks plan.directory
        plan.settings.junitPath ∧
      s.Did engine instrumentation plan
        ((plan.finish baseline records status).closingDeeds writings)
        (finishRun plan baseline records status s).2 := by
  have concluded := (conclude_did engine instrumentation plan status s).after
    (.note _ (subtractionLog baseline records))
  obtain ⟨writings, tasks, written⟩ := writeReports_did engine instrumentation plan plan.directory
    plan.settings.junitPath (plan.finish baseline records status)
    ((conclude status s).note (subtractionLog baseline records))
  have hcount : (plan.finish baseline records status).rounds.length = records.length := by
    simp [RunPlan.finish, subtractAll]
  refine ⟨writings, tasks, ?_⟩
  have deeds := (concluded.trans written).trans
    (.emit _ (plan.finish baseline records status).farewell)
  rw [FinishedRun.farewell, hcount] at deeds
  rw [FinishedRun.closingDeeds, FinishedRun.farewell, hcount]
  exact deeds

/-! ## Whole runs -/

theorem runUnperturbed_diary (engine : Engine σ) (instrumentation : Instrumentation)
    (single : plan.settings.maxRounds = 0) {s₀ s : Session σ}
    (started : s₀.Did engine instrumentation plan [.tell plan.hello] s) :
    ∃ deeds, Diary plan deeds (runUnperturbed engine plan s).1 ∧
      s₀.Did engine instrumentation plan deeds (runUnperturbed engine plan s).2 := by
  have executed := executeRound_did engine instrumentation plan plan.baseline (s.advance .baseline)
  have began := started.after (.advance s .baseline)
  unfold runUnperturbed
  generalize executeRound engine plan plan.baseline (s.advance .baseline) = ended at executed ⊢
  obtain ⟨result, s₁⟩ := ended
  cases executed with
  | failed failure calls => exact ⟨_, .unperturbedFailed single failure, began.trans calls⟩
  | finished unfailing calls =>
    exact ⟨_, .unperturbed single unfailing, (began.trans calls).after (.advance s₁ .done)⟩

theorem runPerturbed_diary (engine : Engine σ) (instrumentation : Instrumentation)
    (many : plan.settings.maxRounds ≠ 0) (left : Nat) {s₀ s : Session σ}
    (closed : s.log.isSome = false)
    (started : s₀.Did engine instrumentation plan [.tell plan.hello] s) :
    ∃ deeds, Diary plan deeds (runPerturbed engine instrumentation plan left s).1 ∧
      s₀.Did engine instrumentation plan deeds
        (runPerturbed engine instrumentation plan left s).2 := by
  have baselineDid := runBaseline_did engine instrumentation plan closed
  unfold runPerturbed
  generalize runBaseline engine instrumentation plan s = ended at baselineDid ⊢
  obtain ⟨result, s₁⟩ := ended
  cases baselineDid with
  | unprepared prepared =>
    cases prepared with
    | noDirectory did => exact ⟨_, .noDirectory many, started.trans did⟩
    | uninstrumented did => exact ⟨_, .uninstrumented many, started.trans did⟩
  | broken broken did =>
    exact ⟨_, @Diary.broken plan _ [] _ _ many .nil broken, started.trans did⟩
  | @finished opened baseline _ hround hlogged hlogging did =>
    have seeded := roundsFrom_did engine instrumentation plan plan.settings.maxRounds left 0 s₁
    have begun := started.trans did
    simp only [seededRounds]
    generalize roundsFrom plan.settings.maxRounds (seededRound engine plan) left 0 s₁ = ended
      at seeded ⊢
    obtain ⟨result, s₂⟩ := ended
    cases seeded with
    | broken consecutive broken later =>
      rw [hlogging] at consecutive
      rw [Nat.zero_add, Nat.add_comm 1] at broken
      refine ⟨_, .broken many (consecutive.cons hround hlogged) broken, ?_⟩
      simpa [List.flatMap_cons] using begun.trans later
    | @finished rounds status _ consecutive later =>
      rw [hlogging] at consecutive
      obtain ⟨writings, tasks, closed⟩ := finishRun_did engine instrumentation plan
        baseline.record (rounds.map (·.record)) status s₂
      refine ⟨_, .finished many (consecutive.cons hround hlogged) rfl tasks, ?_⟩
      simpa [List.flatMap_cons] using (begun.trans later).trans closed

/-- Every run has a diary. -/
theorem run_diary (engine : Engine σ) (instrumentation : Instrumentation) (plan : RunPlan)
    (state : σ) (disk : Disk) :
    ∃ deeds, Diary plan deeds (run engine instrumentation plan (.start plan state disk)).1 ∧
      (Session.start plan state disk).Did engine instrumentation plan deeds
        (run engine instrumentation plan (.start plan state disk)).2 := by
  have started : (Session.start plan state disk).Did engine instrumentation plan _ _ :=
    .emit _ plan.hello
  unfold run
  split
  case h_1 single => exact runUnperturbed_diary engine instrumentation single started
  case h_2 left hleft =>
    have many : plan.settings.maxRounds ≠ 0 := hleft ▸ Nat.succ_ne_zero left
    exact runPerturbed_diary engine instrumentation many left rfl started

end

end Flaky
