-- SUMMARY: Everything that a run does, in order and with how it came out: what it makes known, whom it calls and how it works on the disk.
import Flaky.Proofs.Run.Phases

/-!
# The deeds of a run

A session keeps what a run has made known and whom it has called, but not how it
worked on the disk. The deeds of a run are all of that in one list. `Session.Did`
says that some deeds, one after the other, took a session to another: nothing else
happened to the engine or to the disk, and no event or call is missing from them.
`Diary` lists what the deeds of a run can be, from its start to its end, and
`run_diary` says that every run has such deeds.
-/

namespace Flaky

/-- One thing that a run does, with how it came out. -/
inductive Deed
  | tell (event : RunEvent)
  /-- Create a directory and those above it. -/
  | createDirectory (path : String) (outcome : Except IoError Unit)
  /-- Call the instrumentation. -/
  | instrument
  /-- Call the engine. -/
  | execute (turn : EngineTurn)
  /-- Create the run log. -/
  | openLog (outcome : Except RunLogError Unit)
  /-- Put the id of a round into the run log. -/
  | log (id : ExecutionId) (outcome : Except RunLogError Unit)
  /-- Write the text of an artifact. -/
  | write (artifact : Artifact) (path text : String) (outcome : Except ArtifactError Unit)

namespace Deed

def event? : Deed → Option RunEvent
  | .tell event => some event
  | .createDirectory .. | .instrument | .execute _ | .openLog _ | .log .. | .write .. => none

def turn? : Deed → Option EngineTurn
  | .execute turn => some turn
  | .tell _ | .createDirectory .. | .instrument | .openLog _ | .log .. | .write .. => none

/-- The deed leaves an open run log. -/
def opensLog : Deed → Bool
  | .openLog outcome => outcome.isOk
  | .tell _ | .createDirectory .. | .instrument | .execute _ | .log .. | .write .. => false

end Deed

/-- The events among some deeds. -/
def eventsOf (deeds : List Deed) : List RunEvent := deeds.filterMap Deed.event?

section

variable {deeds more : List Deed}

@[simp] theorem eventsOf_nil : eventsOf [] = [] := rfl

@[simp] theorem eventsOf_tell {event : RunEvent} :
    eventsOf (.tell event :: deeds) = event :: eventsOf deeds := rfl

@[simp] theorem eventsOf_createDirectory {path : String} {outcome : Except IoError Unit} :
    eventsOf (.createDirectory path outcome :: deeds) = eventsOf deeds := rfl

@[simp] theorem eventsOf_instrument : eventsOf (.instrument :: deeds) = eventsOf deeds := rfl

@[simp] theorem eventsOf_execute {turn : EngineTurn} :
    eventsOf (.execute turn :: deeds) = eventsOf deeds := rfl

@[simp] theorem eventsOf_openLog {outcome : Except RunLogError Unit} :
    eventsOf (.openLog outcome :: deeds) = eventsOf deeds := rfl

@[simp] theorem eventsOf_log {id : ExecutionId} {outcome : Except RunLogError Unit} :
    eventsOf (.log id outcome :: deeds) = eventsOf deeds := rfl

@[simp] theorem eventsOf_write {artifact : Artifact} {path text : String}
    {outcome : Except ArtifactError Unit} :
    eventsOf (.write artifact path text outcome :: deeds) = eventsOf deeds := rfl

@[simp] theorem eventsOf_append : eventsOf (deeds ++ more) = eventsOf deeds ++ eventsOf more :=
  List.filterMap_append

end

/-! ## What deeds do -/

/-- The way in which an artifact is written that is written as a whole. -/
inductive Artifact.WrittenBy :
    Artifact → (path text : String) → (Disk → Except ArtifactError Unit × Disk) → Prop
  | report {path text : String} : WrittenBy .report path text (writeReport path text)
  | summary {path text : String} : WrittenBy .summary path text (writeSummary path text)
  | junit {path text : String} : WrittenBy .junit path text (writeJunit path text)

/-- What the deeds of a run work on: the state of the engine, the disk, and the run log once it is
    open. -/
structure World (σ : Type) where
  engine : σ
  disk : Disk
  log : Option RunLog

section

variable {σ : Type}

/-- What a deed makes of the world. -/
inductive Deed.Does (engine : Engine σ) (instrumentation : Instrumentation) (plan : RunPlan) :
    Deed → World σ → World σ → Prop
  | tell {event : RunEvent} {world : World σ} :
    Does engine instrumentation plan (.tell event) world world
  | createDirectory {path : String} {outcome : Except IoError Unit} {state : σ} {disk disk' : Disk}
    {log : Option RunLog} (created : disk.createDirectories path = (outcome, disk')) :
    Does engine instrumentation plan (.createDirectory path outcome) ⟨state, disk, log⟩
      ⟨state, disk', log⟩
  | instrument {state : σ} {disk : Disk} {log : Option RunLog} :
    Does engine instrumentation plan .instrument ⟨state, disk, log⟩
      ⟨state, (instrumentation plan.artifacts disk).disk, log⟩
  | execute {turn : EngineTurn} {state state' : σ} {disk disk' : Disk} {log : Option RunLog}
    (called : engine turn.selection state disk = (turn.did, state', disk')) :
    Does engine instrumentation plan (.execute turn) ⟨state, disk, log⟩ ⟨state', disk', log⟩
  | openLog {state : σ} {disk disk' : Disk} {log : Option RunLog} {opened : RunLog}
    (created : RunLog.create plan.directory.runLog disk = (.ok opened, disk')) :
    Does engine instrumentation plan (.openLog (.ok ())) ⟨state, disk, log⟩
      ⟨state, disk', some opened⟩
  | missLog {error : RunLogError} {state : σ} {disk disk' : Disk} {log : Option RunLog}
    (missed : RunLog.create plan.directory.runLog disk = (.error error, disk')) :
    Does engine instrumentation plan (.openLog (.error error)) ⟨state, disk, log⟩
      ⟨state, disk', log⟩
  | log {id : ExecutionId} {outcome : Except RunLogError Unit} {state : σ} {disk disk' : Disk}
    {log log' : RunLog} (logged : log.append id disk = (outcome, log', disk')) :
    Does engine instrumentation plan (.log id outcome) ⟨state, disk, some log⟩
      ⟨state, disk', some log'⟩
  | write {artifact : Artifact} {path text : String} {outcome : Except ArtifactError Unit}
    {write : Disk → Except ArtifactError Unit × Disk} {state : σ} {disk disk' : Disk}
    {log : Option RunLog} (way : artifact.WrittenBy path text write)
    (written : write disk = (outcome, disk')) :
    Does engine instrumentation plan (.write artifact path text outcome) ⟨state, disk, log⟩
      ⟨state, disk', log⟩

/-- What some deeds, one after the other, make of the world. -/
inductive Deed.DoAll (engine : Engine σ) (instrumentation : Instrumentation) (plan : RunPlan) :
    List Deed → World σ → World σ → Prop
  | nil {world : World σ} : DoAll engine instrumentation plan [] world world
  | cons {deed : Deed} {deeds : List Deed} {world world' last : World σ}
    (first : deed.Does engine instrumentation plan world world')
    (rest : DoAll engine instrumentation plan deeds world' last) :
    DoAll engine instrumentation plan (deed :: deeds) world last

variable {engine : Engine σ} {instrumentation : Instrumentation} {plan : RunPlan}
variable {deeds more : List Deed}

theorem Deed.DoAll.append {world world' last : World σ}
    (h : Deed.DoAll engine instrumentation plan deeds world world')
    (h' : Deed.DoAll engine instrumentation plan more world' last) :
    Deed.DoAll engine instrumentation plan (deeds ++ more) world last := by
  induction h with
  | nil => exact h'
  | cons first _ ih => exact .cons first (ih h')

theorem Deed.DoAll.uncons {deed : Deed} {world last : World σ}
    (h : Deed.DoAll engine instrumentation plan (deed :: deeds) world last) :
    ∃ world', deed.Does engine instrumentation plan world world' ∧
      Deed.DoAll engine instrumentation plan deeds world' last := by
  cases h with
  | cons first rest => exact ⟨_, first, rest⟩

theorem Deed.DoAll.split {world last : World σ}
    (h : Deed.DoAll engine instrumentation plan (deeds ++ more) world last) :
    ∃ middle, Deed.DoAll engine instrumentation plan deeds world middle ∧
      Deed.DoAll engine instrumentation plan more middle last := by
  induction deeds generalizing world with
  | nil => exact ⟨world, .nil, h⟩
  | cons deed deeds ih =>
    obtain ⟨_, first, rest⟩ := h.uncons
    obtain ⟨middle, before, after⟩ := ih rest
    exact ⟨middle, .cons first before, after⟩

/-- A run log is open once some deed has opened it. -/
theorem Deed.Does.logging {deed : Deed} {world world' : World σ}
    (h : deed.Does engine instrumentation plan world world') :
    world'.log.isSome = (world.log.isSome || deed.opensLog) := by
  cases h with
  | openLog created => exact (Bool.or_true _).symm
  | tell | createDirectory | instrument | execute | missLog | log | write =>
    exact (Bool.or_false _).symm

theorem Deed.DoAll.logging {world last : World σ}
    (h : Deed.DoAll engine instrumentation plan deeds world last) :
    last.log.isSome = (world.log.isSome || deeds.any Deed.opensLog) := by
  induction h with
  | nil => exact (Bool.or_false _).symm
  | cons first _ ih => rw [ih, first.logging, List.any_cons, Bool.or_assoc]

namespace Session

/-- What a session has of the world. -/
def world (s : Session σ) : World σ := ⟨s.engine, s.disk, s.log⟩

/-- Some deeds took one session to another, and all that was made known and called is among them. -/
structure Did (engine : Engine σ) (instrumentation : Instrumentation) (plan : RunPlan)
    (deeds : List Deed) (s s' : Session σ) : Prop where
  works : Deed.DoAll engine instrumentation plan deeds s.world s'.world
  events : s'.events = s.events ++ eventsOf deeds
  turns : s'.turns = s.turns ++ deeds.filterMap Deed.turn?

theorem events_act {s : Session σ} {act : Act} :
    (s.act act).events = s.events ++ (match act with
      | .tell (.event event) => [event]
      | .tell (.note _) | .enter _ _ | .instrument _ | .execute _ => []) := by
  simp only [events, trace, Session.act, List.filterMap_append]
  cases act with
  | tell step => cases step <;> rfl
  | enter before after => rfl
  | instrument directory => rfl
  | execute turn => rfl

theorem events_note {s : Session σ} {entries : List LogEntry} :
    (s.note entries).events = s.events := by
  simp [events, trace, note, Act.step?]

namespace Did

variable {s s₁ s' : Session σ}

theorem trans (h : s.Did engine instrumentation plan deeds s₁)
    (h' : s₁.Did engine instrumentation plan more s') :
    s.Did engine instrumentation plan (deeds ++ more) s' where
  works := h.works.append h'.works
  events := by rw [h'.events, h.events, eventsOf_append, List.append_assoc]
  turns := by rw [h'.turns, h.turns, List.filterMap_append, List.append_assoc]

/-- What is no deed leaves the world alone. -/
theorem nothing (hworld : s'.world = s.world) (hevents : s'.events = s.events)
    (hturns : s'.turns = s.turns) : s.Did engine instrumentation plan [] s' where
  works := by
    rw [hworld]
    exact .nil
  events := by rw [hevents, eventsOf_nil, List.append_nil]
  turns := by rw [hturns, List.filterMap_nil, List.append_nil]

theorem refl (s : Session σ) : s.Did engine instrumentation plan [] s :=
  .nothing rfl rfl rfl

theorem emit (s : Session σ) (event : RunEvent) :
    s.Did engine instrumentation plan [.tell event] (s.emit event) where
  works := .cons .tell .nil
  events := events_act
  turns := by simp [Deed.turn?]

theorem note (s : Session σ) (entries : List LogEntry) :
    s.Did engine instrumentation plan [] (s.note entries) :=
  .nothing rfl events_note turns_note

theorem advance (s : Session σ) (next : Phase) :
    s.Did engine instrumentation plan [] (s.advance next) := by
  have hevents : (s.act (.enter s.phase next)).events = s.events := by simp [events_act]
  have hturns : (s.act (.enter s.phase next)).turns = s.turns := by simp [turns_act]
  exact .nothing rfl hevents hturns

theorem reset (s : Session σ) (lastRound : Bool) :
    s.Did engine instrumentation plan [] (s.reset lastRound) :=
  .nothing rfl rfl rfl

/-- One deed that only works on the disk and the run log. -/
theorem work {deed : Deed} {disk : Disk} {log : Option RunLog}
    (does : deed.Does engine instrumentation plan s.world ⟨s.engine, disk, log⟩)
    (untold : deed.event? = none) (uncalled : deed.turn? = none) :
    s.Did engine instrumentation plan [deed] { s with disk := disk, log := log } where
  works := .cons does .nil
  events := by simp [eventsOf, untold, Session.events, trace]
  turns := by simp [uncalled, Session.turns]

/-- A run log is open once some deed has opened it. -/
theorem logging (h : s.Did engine instrumentation plan deeds s') :
    s'.log.isSome = (s.log.isSome || deeds.any Deed.opensLog) := h.works.logging

theorem before (h : s₁.Did engine instrumentation plan deeds s')
    (nothing : s.Did engine instrumentation plan [] s₁) :
    s.Did engine instrumentation plan deeds s' := by
  simpa using nothing.trans h

theorem after (h : s.Did engine instrumentation plan deeds s₁)
    (nothing : s₁.Did engine instrumentation plan [] s') :
    s.Did engine instrumentation plan deeds s' := by
  simpa using h.trans nothing

end Did

end Session

end

/-! ## Finished rounds -/

/-- A round that finished: what the engine did, what the tally made of it and, where there is a run
    log, how the round's id was put into it. -/
structure FinishedRound where
  round : Round
  did : EngineRun
  unfailing : did.failure = none
  result : RoundResult
  logged : Option (Except RunLogError Unit)

def FinishedRound.record (finished : FinishedRound) : RoundRecord :=
  finished.round.complete finished.result

namespace RunPlan

/-- What is made known of an attempt to work on the run log. -/
def logNews (plan : RunPlan) : Except RunLogError Unit → List Deed
  | .ok () => []
  | .error error => [.tell (.artifactFailed .runLog plan.directory.runLog (.runLog error))]

def logDeeds (plan : RunPlan) (id : ExecutionId) : Option (Except RunLogError Unit) → List Deed
  | none => []
  | some outcome => .log id outcome :: plan.logNews outcome

/-- The deeds up to the call of the engine, in a round that has its directory. -/
def callDeeds (plan : RunPlan) (round : Round) (did : EngineRun) : List Deed :=
  [.tell (.roundStarted round plan.settings.maxRounds), .execute (plan.turn round did)]

def roundDeeds (plan : RunPlan) (finished : FinishedRound) : List Deed :=
  .createDirectory finished.round.outputDirectory (.ok ()) ::
    plan.callDeeds finished.round finished.did ++
    .tell (.roundFinished finished.record finished.result) ::
      plan.logDeeds finished.round.id finished.logged

/-- The deeds of a round that breaks off, with the error. -/
inductive Broken (plan : RunPlan) (round : Round) : List Deed → RunError → Prop
  | unplaced {cause : IoError} :
    Broken plan round [.createDirectory round.outputDirectory (.error cause)]
      (.directory round.outputDirectory cause)
  | failed {did : EngineRun} {error : EngineError} (failure : did.failure = some error) :
    Broken plan round
      (.createDirectory round.outputDirectory (.ok ()) :: plan.callDeeds round did)
      (.engine round.id error)

/-- Finished rounds from the `n`-th round of a run on, each of them logged or none. -/
structure Consecutive (plan : RunPlan) (n : Nat) (logging : Bool) (rounds : List FinishedRound) :
    Prop where
  order : rounds.map (·.round) = (List.range' n rounds.length).map plan.round
  logged : ∀ finished ∈ rounds, finished.logged.isSome = logging

theorem Consecutive.nil {plan : RunPlan} {n : Nat} {logging : Bool} :
    plan.Consecutive n logging [] :=
  ⟨rfl, List.forall_mem_nil _⟩

theorem Consecutive.cons {plan : RunPlan} {n : Nat} {logging : Bool} {finished : FinishedRound}
    {rounds : List FinishedRound} (hround : finished.round = plan.round n)
    (hlogged : finished.logged.isSome = logging) (h : plan.Consecutive (n + 1) logging rounds) :
    plan.Consecutive n logging (finished :: rounds) where
  order := by
    rw [List.map_cons, hround, h.order, List.length_cons, List.range'_succ, List.map_cons]
  logged := List.forall_mem_cons.mpr ⟨hlogged, h.logged⟩

end RunPlan

section

variable {σ : Type} {engine : Engine σ} {instrumentation : Instrumentation} {plan : RunPlan}

/-- What a round came to, with its deeds. -/
inductive RoundDid {α : Type} (engine : Engine σ) (instrumentation : Instrumentation)
    (plan : RunPlan) (round : Round) (give : FinishedRound → α) (s : Session σ) :
    Except RunError α → Session σ → Prop
  | broken {deeds : List Deed} {error : RunError} {s' : Session σ}
    (broken : plan.Broken round deeds error) (did : s.Did engine instrumentation plan deeds s') :
    RoundDid engine instrumentation plan round give s (.error error) s'
  | finished {finished : FinishedRound} {s' : Session σ} (hround : finished.round = round)
    (hlogged : finished.logged.isSome = s.log.isSome)
    (did : s.Did engine instrumentation plan (plan.roundDeeds finished) s') :
    RoundDid engine instrumentation plan round give s (.ok (give finished)) s'

/-- Delivering a round is a call of the engine and nothing else. -/
theorem deliver_did (engine : Engine σ) (instrumentation : Instrumentation) (plan : RunPlan)
    (round : Round) (s : Session σ) :
    ∃ did, (deliver engine plan.settings.filter round s).1 = did.failure ∧
      s.Did engine instrumentation plan [.execute (plan.turn round did)]
        (deliver engine plan.settings.filter round s).2 := by
  rcases hcall : engine ⟨round, plan.settings.filter⟩ s.engine s.disk with ⟨did, state, disk⟩
  refine ⟨did, by simp [deliver, hcall], ?_⟩
  have called : engine (plan.turn round did).selection s.engine s.disk =
      ((plan.turn round did).did, state, disk) := hcall
  simp only [deliver, hcall]
  exact ⟨.cons (.execute called) .nil, Session.events_note.trans Session.events_act,
    Session.turns_note.trans Session.turns_act⟩

/-- What executing a round came to, once it has its directory. -/
inductive ExecuteDid (engine : Engine σ) (instrumentation : Instrumentation) (plan : RunPlan)
    (round : Round) (s : Session σ) : Except RunError (RoundRecord × RoundResult) → Session σ → Prop
  | failed {did : EngineRun} {error : EngineError} {s' : Session σ}
    (failure : did.failure = some error)
    (calls : s.Did engine instrumentation plan (plan.callDeeds round did) s') :
    ExecuteDid engine instrumentation plan round s (.error (.engine round.id error)) s'
  | finished {did : EngineRun} {result : RoundResult} {s' : Session σ}
    (unfailing : did.failure = none)
    (calls : s.Did engine instrumentation plan
      (plan.callDeeds round did ++ [.tell (.roundFinished (round.complete result) result)]) s') :
    ExecuteDid engine instrumentation plan round s (.ok (round.complete result, result)) s'

theorem executeRound_did (engine : Engine σ) (instrumentation : Instrumentation) (plan : RunPlan)
    (round : Round) (s : Session σ) :
    ExecuteDid engine instrumentation plan round s (executeRound engine plan round s).1
      (executeRound engine plan round s).2 := by
  have started : s.Did engine instrumentation plan _ _ :=
    .emit s (.roundStarted round plan.settings.maxRounds)
  obtain ⟨did, hfailure, delivered⟩ := deliver_did engine instrumentation plan round
    (s.emit (.roundStarted round plan.settings.maxRounds))
  have called := started.trans delivered
  simp only [executeRound]
  split
  case h_1 error s₁ hdeliver =>
    rw [hdeliver] at hfailure called
    exact .failed hfailure.symm called
  case h_2 s₁ hdeliver =>
    rw [hdeliver] at hfailure called
    have frozen : s₁.Did engine instrumentation plan [] { s₁ with tally := s₁.tally.freeze } :=
      .nothing rfl rfl rfl
    exact .finished hfailure.symm ((called.after frozen).trans (.emit _ _))

theorem logRound_did (engine : Engine σ) (instrumentation : Instrumentation) (plan : RunPlan)
    (round : Round) (s : Session σ) :
    ∃ logged : Option (Except RunLogError Unit), logged.isSome = s.log.isSome ∧
      s.Did engine instrumentation plan (plan.logDeeds round.id logged)
        (logRound plan round s) := by
  have hworld : ∀ log, s.log = some log → s.world = ⟨s.engine, s.disk, some log⟩ :=
    fun log hlog => congrArg (World.mk s.engine s.disk) hlog
  unfold logRound
  split
  case h_1 hlog => exact ⟨none, by rw [hlog]; rfl, .refl s⟩
  case h_2 log hlog =>
    have logs : ∀ {outcome : Except RunLogError Unit} {log' : RunLog} {disk : Disk},
        log.append round.id s.disk = (outcome, log', disk) →
        s.Did engine instrumentation plan [.log round.id outcome]
          { s with disk := disk, log := some log' } := by
      intro outcome log' disk happend
      refine .work ?_ rfl rfl
      rw [hworld log hlog]
      exact .log happend
    split
    case h_1 log' disk happend => exact ⟨some (.ok ()), by rw [hlog]; rfl, logs happend⟩
    case h_2 error log' disk happend =>
      exact ⟨some (.error error), by rw [hlog]; rfl, (logs happend).trans (.emit _ _)⟩

theorem runRound_did (engine : Engine σ) (instrumentation : Instrumentation) (plan : RunPlan)
    (round : Round) (s : Session σ) :
    RoundDid engine instrumentation plan round
      (fun finished => (finished.record, finished.result)) s
      (runRound engine plan round s).1 (runRound engine plan round s).2 := by
  unfold runRound
  rcases hplace : s.disk.createDirectories round.outputDirectory with ⟨cause | _, disk⟩
  case error =>
    have hexecute : executeInDirectory engine plan round s =
        (.error (.directory round.outputDirectory cause), { s with disk := disk }) := by
      unfold executeInDirectory
      rw [hplace]
    rw [hexecute]
    exact .broken .unplaced (.work (.createDirectory hplace) rfl rfl)
  case ok =>
    have hexecute : executeInDirectory engine plan round s =
        executeRound engine plan round { s with disk := disk } := by
      unfold executeInDirectory
      rw [hplace]
    have placed : s.Did engine instrumentation plan
        [.createDirectory round.outputDirectory (.ok ())] { s with disk := disk } :=
      .work (.createDirectory hplace) rfl rfl
    have executed := executeRound_did engine instrumentation plan round { s with disk := disk }
    rw [hexecute]
    generalize executeRound engine plan round { s with disk := disk } = ended at executed ⊢
    obtain ⟨result, s₁⟩ := ended
    cases executed with
    | failed failure calls => exact .broken (.failed failure) (placed.trans calls)
    | @finished did result _ unfailing calls =>
      obtain ⟨logged, hlogged, logs⟩ := logRound_did engine instrumentation plan round s₁
      have hlogging : s₁.log.isSome = s.log.isSome := by
        simpa [RunPlan.callDeeds, Deed.opensLog] using calls.logging
      have deeds := (placed.trans calls).trans logs
      exact @RoundDid.finished _ _ _ _ _ _ _ s ⟨round, did, unfailing, result, logged⟩ _ rfl
        (hlogged.trans hlogging) (by simpa [RunPlan.roundDeeds, FinishedRound.record] using deeds)

theorem seededRound_did (engine : Engine σ) (instrumentation : Instrumentation) (plan : RunPlan)
    (i : Nat) (s : Session σ) :
    RoundDid engine instrumentation plan (plan.seeded i)
      (fun finished => (finished.record, stopAfter? plan.settings finished.result)) s
      (seededRound engine plan i s).1 (seededRound engine plan i s).2 := by
  have ran := runRound_did engine instrumentation plan (plan.seeded i) (s.advance (.seeded i))
  have advanced : s.Did engine instrumentation plan [] (s.advance (.seeded i)) := .advance s _
  unfold seededRound
  generalize runRound engine plan (plan.seeded i) (s.advance (.seeded i)) = ended at ran ⊢
  obtain ⟨result, s'⟩ := ended
  cases ran with
  | broken broken did => exact .broken broken (did.before advanced)
  | finished hround hlogged did => exact .finished hround hlogged (did.before advanced)

/-! ## Rounds in a row -/

/-- What rounds in a row came to from the `n`-th round of a run on, with their deeds. -/
inductive RoundsDid (engine : Engine σ) (instrumentation : Instrumentation) (plan : RunPlan)
    (n : Nat) (s : Session σ) :
    Except RunError (List RoundRecord × RunStatus) → Session σ → Prop
  | broken {rounds : List FinishedRound} {deeds : List Deed} {error : RunError} {s' : Session σ}
    (consecutive : plan.Consecutive n s.log.isSome rounds)
    (broken : plan.Broken (plan.round (n + rounds.length)) deeds error)
    (did : s.Did engine instrumentation plan (rounds.flatMap plan.roundDeeds ++ deeds) s') :
    RoundsDid engine instrumentation plan n s (.error error) s'
  | finished {rounds : List FinishedRound} {status : RunStatus} {s' : Session σ}
    (consecutive : plan.Consecutive n s.log.isSome rounds)
    (did : s.Did engine instrumentation plan (rounds.flatMap plan.roundDeeds) s') :
    RoundsDid engine instrumentation plan n s (.ok (rounds.map (·.record), status)) s'

/-- A round neither opens the run log nor closes it. -/
theorem Session.Did.logging_eq {finished : FinishedRound} {s s' : Session σ}
    (h : s.Did engine instrumentation plan (plan.roundDeeds finished) s') :
    s'.log.isSome = s.log.isSome := by
  have unopened : (plan.roundDeeds finished).any Deed.opensLog = false := by
    rcases hlogged : finished.logged with _ | _ | _ <;>
      simp [RunPlan.roundDeeds, RunPlan.callDeeds, RunPlan.logDeeds, RunPlan.logNews,
        Deed.opensLog, hlogged]
  rw [h.logging, unopened, Bool.or_false]

/-- One finished round before rounds in a row. -/
theorem RoundsDid.cons {n : Nat} {finished : FinishedRound} {lastRound : Bool}
    {s s₁ s' : Session σ} {result : Except RunError (List RoundRecord × RunStatus)}
    (h : RoundsDid engine instrumentation plan (n + 1) (s₁.reset lastRound) result s')
    (hround : finished.round = plan.round n) (hlogged : finished.logged.isSome = s.log.isSome)
    (did : s.Did engine instrumentation plan (plan.roundDeeds finished) s₁) :
    RoundsDid engine instrumentation plan n s
      (result.map fun ended => (finished.record :: ended.1, ended.2)) s' := by
  have hlogging : s₁.log.isSome = s.log.isSome := did.logging_eq
  have hreset : (s₁.reset lastRound).log.isSome = s.log.isSome := hlogging
  have later : ∀ {deeds : List Deed},
      (s₁.reset lastRound).Did engine instrumentation plan deeds s' →
      s.Did engine instrumentation plan (plan.roundDeeds finished ++ deeds) s' :=
    fun rest => did.trans (rest.before (.reset s₁ lastRound))
  cases h with
  | @broken rounds deeds error _ consecutive broken rest =>
    rw [hreset] at consecutive
    refine @RoundsDid.broken _ _ _ _ _ _ _ deeds _ _ (consecutive.cons hround hlogged) ?_ ?_
    · rw [Nat.add_right_comm, Nat.add_assoc] at broken
      exact broken
    · rw [List.flatMap_cons, List.append_assoc]
      exact later rest
  | @finished rounds status _ consecutive rest =>
    rw [hreset] at consecutive
    refine .finished (consecutive.cons hround hlogged) ?_
    rw [List.flatMap_cons]
    exact later rest

theorem roundsFrom_did (engine : Engine σ) (instrumentation : Instrumentation) (plan : RunPlan)
    (maxRounds left index : Nat) (s : Session σ) :
    RoundsDid engine instrumentation plan (index + 1) s
      (roundsFrom maxRounds (seededRound engine plan) left index s).1
      (roundsFrom maxRounds (seededRound engine plan) left index s).2 := by
  induction left using Nat.strongRecOn generalizing index s with
  | ind left ih =>
    have hround := seededRound_did engine instrumentation plan index s
    rcases hrun : seededRound engine plan index s with ⟨result, s₁⟩
    rw [hrun] at hround
    cases hround with
    | broken broken did =>
      rw [roundsFrom_error hrun]
      exact @RoundsDid.broken _ _ _ _ _ _ [] _ _ _ .nil broken did
    | @finished finished _ hround hlogged did =>
      have alone : ∀ status, RoundsDid engine instrumentation plan (index + 1) s
          (.ok ([finished.record], status)) s₁ := fun status =>
        @RoundsDid.finished _ _ _ _ _ _ [finished] _ _ (.cons hround hlogged .nil)
          (by simpa using did)
      cases hstop : stopAfter? plan.settings finished.result with
      | some status =>
        rw [hstop] at hrun
        rw [roundsFrom_stop hrun]
        exact alone status
      | none =>
        rw [hstop] at hrun
        cases left with
        | zero =>
          unfold roundsFrom
          rw [hrun]
          exact alone .completed
        | succ left =>
          rw [roundsFrom_next hrun]
          have hround : finished.round = plan.round (index + 1) := hround
          have rest := ih left (Nat.lt_succ_self left) (index + 1)
            (s₁.reset (index + 2 == maxRounds))
          generalize roundsFrom maxRounds (seededRound engine plan) left (index + 1) _ = last
            at rest ⊢
          exact rest.cons hround hlogged did

end

/-! ## Artifacts -/

/-- A text that was handed to the write of an artifact, with how that came out. -/
structure Writing where
  artifact : Artifact
  path : String
  text : String
  outcome : Except ArtifactError Unit

namespace Writing

/-- What is made known of the write. -/
def news (writing : Writing) : RunEvent :=
  match writing.outcome with
  | .ok () => .artifactWritten writing.artifact writing.path
  | .error error => .artifactFailed writing.artifact writing.path error

def deeds (writing : Writing) : List Deed :=
  [.write writing.artifact writing.path writing.text writing.outcome, .tell writing.news]

/-- What was to be written, and where. -/
def task (writing : Writing) : Artifact × String × String :=
  (writing.artifact, writing.path, writing.text)

end Writing

/-- The artifacts of a finished run, with their paths and their texts. -/
def FinishedRun.tasks (run : FinishedRun) (directory : RunDirectory) (junitPath : Option String) :
    List (Artifact × String × String) :=
  [(.report, directory.report, Markdown.text run),
    (.summary, directory.summary, (RunSummary.ofRun run).toJson.indentedText)] ++
  (junitPath.map fun path => (.junit, path, Junit.text run)).toList

section

variable {σ : Type} {engine : Engine σ} {instrumentation : Instrumentation} {plan : RunPlan}

theorem writeArtifact_did (engine : Engine σ) (instrumentation : Instrumentation) (plan : RunPlan)
    {artifact : Artifact} {path text : String} {write : Disk → Except ArtifactError Unit × Disk}
    (way : artifact.WrittenBy path text write) (s : Session σ) :
    ∃ writing : Writing, writing.task = (artifact, path, text) ∧
      s.Did engine instrumentation plan writing.deeds (writeArtifact artifact path write s) := by
  unfold writeArtifact
  split
  case h_1 disk hwrite =>
    exact ⟨⟨artifact, path, text, .ok ()⟩, rfl,
      (Session.Did.work (.write way hwrite) rfl rfl).trans (.emit _ _)⟩
  case h_2 error disk hwrite =>
    exact ⟨⟨artifact, path, text, .error error⟩, rfl,
      (Session.Did.work (.write way hwrite) rfl rfl).trans (.emit _ _)⟩

theorem writeReports_did (engine : Engine σ) (instrumentation : Instrumentation) (plan : RunPlan)
    (directory : RunDirectory) (junitPath : Option String) (run : FinishedRun) (s : Session σ) :
    ∃ writings : List Writing, writings.map (·.task) = run.tasks directory junitPath ∧
      s.Did engine instrumentation plan (writings.flatMap (·.deeds))
        (writeReports directory junitPath run s) := by
  obtain ⟨report, hreport, reported⟩ := writeArtifact_did engine instrumentation plan
    (@Artifact.WrittenBy.report directory.report (Markdown.text run)) s
  obtain ⟨summary, hsummary, summarized⟩ := writeArtifact_did engine instrumentation plan
    (@Artifact.WrittenBy.summary directory.summary (RunSummary.ofRun run).toJson.indentedText)
    (writeArtifact .report directory.report
      (writeReport directory.report (Markdown.text run)) s)
  have both := reported.trans summarized
  cases junitPath with
  | none =>
    refine ⟨[report, summary], by simp [FinishedRun.tasks, hreport, hsummary], ?_⟩
    rw [List.flatMap_cons, List.flatMap_singleton]
    exact both
  | some path =>
    obtain ⟨junit, hjunit, tested⟩ := writeArtifact_did engine instrumentation plan
      (@Artifact.WrittenBy.junit path (Junit.text run)) (writeArtifact .summary directory.summary
        (writeSummary directory.summary
          (RunSummary.ofRun run).toJson.indentedText) _)
    refine ⟨[report, summary, junit], by simp [FinishedRun.tasks, hreport, hsummary, hjunit], ?_⟩
    rw [List.flatMap_cons, List.flatMap_cons, List.flatMap_singleton, ← List.append_assoc]
    exact both.trans tested

end

end Flaky
