-- SUMMARY: Whole runs: the baseline, the seeded rounds until they are over or a test cannot be retried, and the artifacts.
import Flaky.Report.Junit
import Flaky.Report.Markdown
import Flaky.Report.Summary
import Flaky.Phase
import Flaky.Run.Event
import Flaky.RunDirectory

/-!
# Runs

A run executes the baseline, then seeded rounds. It stops when all rounds that
it may have are over, or as soon as a round shows a failure that rules out a
retry. Then the failures of the baseline are subtracted from the seeded rounds,
and the artifacts are written. With no seeded round allowed the tests are
executed once, and nothing is written.

The run goes from one `Session` to the next. A session keeps all that the run has
done so far, in order; the part of it that the run makes known is its trace.
-/

namespace Flaky

/-! ## Plans and sessions -/

structure RunSettings where
  maxRounds : Nat
  baseSeed : Seed
  cap : FailureCap
  /-- Stop after the first seeded round, as though a test could not be retried. -/
  simulateNonRetryable : Bool
  perturbation : Perturbation
  filter : Filter
  junitPath : Option String

/-- What a run is given from outside: fresh ids, and the readings of the clock. -/
structure Circumstances where
  runId : Uuid
  /-- The id of each round, in the order in which rounds are created. -/
  roundId : Nat → Uuid
  startedAt : Timestamp
  elapsed : Nat

structure RunPlan where
  settings : RunSettings
  store : String
  circumstances : Circumstances

namespace RunPlan

def directory (plan : RunPlan) : RunDirectory := ⟨plan.store, plan.circumstances.runId⟩

def artifacts (plan : RunPlan) : String := RunDirectory.artifacts plan.store

/-- The baseline of a run; it is the first round created. -/
def baseline (plan : RunPlan) : Round :=
  .baseline (plan.circumstances.roundId 0) plan.directory.path plan.artifacts

/-- The seeded round at an index. -/
def seeded (plan : RunPlan) (index : Nat) : Round :=
  .seeded (plan.circumstances.roundId (index + 1))
    ⟨index, plan.settings.baseSeed.forRound (UInt64.ofNat index), plan.settings.perturbation⟩
    plan.directory.path plan.artifacts

end RunPlan

/-- One thing that a run makes known. -/
inductive Step
  | event (event : RunEvent)
  | note (entry : LogEntry)
deriving DecidableEq

/-- One thing that a run does. -/
inductive Act
  | tell (step : Step)
  | enter (before after : Phase)
  /-- The instrumentation is called, to put the artifact into a directory. -/
  | instrument (directory : String)
  /-- The engine is called. -/
  | execute (turn : EngineTurn)

/-- What an act makes known. -/
def Act.step? : Act → Option Step
  | .tell step => some step
  | .enter before after =>
    some (.note ⟨.run, .debug, "orchestrator state transition",
      [("from", before.text), ("to", after.text)]⟩)
  | .instrument _ | .execute _ => none

/-- How far a run has come, with engine states `σ`. -/
structure Session (σ : Type) where
  engine : σ
  disk : Disk
  tally : Tally
  phase : Phase
  history : List Act
  /-- The run log, if it could be created. -/
  log : Option RunLog

namespace Session

variable {σ : Type}

def start (plan : RunPlan) (engine : σ) (disk : Disk) : Session σ :=
  ⟨engine, disk, .start plan.settings.filter plan.settings.cap, .init, [], none⟩

def act (s : Session σ) (act : Act) : Session σ := { s with history := s.history ++ [act] }

def emit (s : Session σ) (event : RunEvent) : Session σ := s.act (.tell (.event event))

def note (s : Session σ) (entries : List LogEntry) : Session σ :=
  { s with history := s.history ++ entries.map fun entry => .tell (.note entry) }

def advance (s : Session σ) (next : Phase) : Session σ :=
  { s.act (.enter s.phase next) with phase := next }

def reset (s : Session σ) (lastRound : Bool) : Session σ :=
  { s with tally := s.tally.reset lastRound }

/-- Everything that the run has made known, in order. -/
def trace (s : Session σ) : List Step := s.history.filterMap Act.step?

def events (s : Session σ) : List RunEvent :=
  s.trace.filterMap fun
    | .event e => some e
    | .note _ => none

end Session

/-! ## Outcomes -/

/-- What a run with seeded rounds comes to. -/
structure RunOutcome where
  directory : RunDirectory
  finished : FinishedRun

inductive Outcome
  /-- The tests were executed once, without perturbation. -/
  | unperturbed (record : RoundRecord)
  | finished (outcome : RunOutcome)

namespace RunOutcome

def hasFlakyTests (outcome : RunOutcome) : Bool := !outcome.finished.flaky.isEmpty

/-- Why flakiness could not be determined, if so. -/
def undetermined? (outcome : RunOutcome) : Option AbortReason :=
  match outcome.finished.status with
  | .completed => none
  | .aborted reason => some reason

end RunOutcome

/-! ## Rounds -/

section

variable {σ : Type}

/-- Let the engine execute a round, and take its reports. -/
def deliver (engine : Engine σ) (filter : Filter) (round : Round) (s : Session σ) :
    Option EngineError × Session σ :=
  let (did, state, disk) := engine ⟨round, filter⟩ s.engine s.disk
  let notes := did.notesBefore ++ s.tally.allNotes did.notesEach did.reports ++ did.notesAfter
  (did.failure,
    { (s.act (.execute ⟨⟨round, filter⟩, did⟩)).note notes with
      engine := state, disk := disk, tally := s.tally.addAll did.reports })

/-- Execute a round whose output directory exists, if it is to have one. -/
def executeRound (engine : Engine σ) (plan : RunPlan) (round : Round) (s : Session σ) :
    Except RunError (RoundRecord × RoundResult) × Session σ :=
  let s := s.emit (.roundStarted round plan.settings.maxRounds)
  match deliver engine plan.settings.filter round s with
  | (some error, s) => (.error (.engine round.id error), s)
  | (none, s) =>
    let result := s.tally.result
    let record := round.complete result
    (.ok (record, result), { s with tally := s.tally.freeze }.emit (.roundFinished record result))

/-- Create a round's output directory and execute the round. -/
def executeInDirectory (engine : Engine σ) (plan : RunPlan) (round : Round) (s : Session σ) :
    Except RunError (RoundRecord × RoundResult) × Session σ :=
  match s.disk.createDirectories round.outputDirectory with
  | (.error cause, disk) =>
    (.error (.directory round.outputDirectory cause), { s with disk := disk })
  | (.ok (), disk) => executeRound engine plan round { s with disk := disk }

/-- Put a finished round into the run log, if there is one. -/
def logRound (plan : RunPlan) (round : Round) (s : Session σ) : Session σ :=
  match s.log with
  | none => s
  | some log =>
    match log.append round.id s.disk with
    | (.ok (), log, disk) => { s with disk := disk, log := some log }
    | (.error error, log, disk) =>
      { s with disk := disk, log := some log }.emit
        (.artifactFailed .runLog plan.directory.runLog (.runLog error))

/-- Execute a round in its directory and log it. -/
def runRound (engine : Engine σ) (plan : RunPlan) (round : Round) (s : Session σ) :
    Except RunError (RoundRecord × RoundResult) × Session σ :=
  match executeInDirectory engine plan round s with
  | (.error e, s) => (.error e, s)
  | (.ok done, s) => (.ok done, logRound plan round s)

/-- Whether the rounds stop after a seeded round with a result. -/
def stopAfter? (settings : RunSettings) (result : RoundResult) : Option RunStatus :=
  if !result.nonRetried.isEmpty then some (.aborted (.nonRetried result.reasons))
  else if settings.simulateNonRetryable then some (.aborted .simulated)
  else if result.lastRound then some .completed
  else none

/-- Execute the seeded round at an index, and see whether the rounds stop after it. -/
def seededRound (engine : Engine σ) (plan : RunPlan) (index : Nat) (s : Session σ) :
    Except RunError (RoundRecord × Option RunStatus) × Session σ :=
  match runRound engine plan (plan.seeded index) (s.advance (.seeded index)) with
  | (.error e, s) => (.error e, s)
  | (.ok (record, result), s) => (.ok (record, stopAfter? plan.settings result), s)

/-- Do rounds from `index` on, of which `left` may follow the first, until they stop. -/
def roundsFrom (maxRounds : Nat)
    (round : Nat → Session σ → Except RunError (RoundRecord × Option RunStatus) × Session σ) :
    (left index : Nat) → Session σ → Except RunError (List RoundRecord × RunStatus) × Session σ
  | left, index, s =>
    match round index s, left with
    | (.error e, s), _ => (.error e, s)
    | (.ok (record, some status), s), _ => (.ok ([record], status), s)
    | (.ok (record, none), s), 0 => (.ok ([record], .completed), s)
    | (.ok (record, none), s), left + 1 =>
      match roundsFrom maxRounds round left (index + 1) (s.reset (index + 2 == maxRounds)) with
      | (.error e, s) => (.error e, s)
      | (.ok (records, status), s) => (.ok (record :: records, status), s)

/-- Execute the seeded rounds, of which `left` may follow the first. -/
def seededRounds (engine : Engine σ) (plan : RunPlan) (left : Nat) (s : Session σ) :
    Except RunError (List RoundRecord × RunStatus) × Session σ :=
  roundsFrom plan.settings.maxRounds (seededRound engine plan) left 0 s

/-! ## Artifacts -/

/-- Open the run log. -/
def openRunLog (plan : RunPlan) (s : Session σ) : Session σ :=
  match RunLog.create plan.directory.runLog s.disk with
  | (.ok log, disk) => { s with disk := disk, log := some log }
  | (.error error, disk) =>
    { s with disk := disk }.emit (.artifactFailed .runLog plan.directory.runLog (.runLog error))

/-- Write an artifact and say how it went. -/
def writeArtifact (artifact : Artifact) (path : String)
    (write : Disk → Except ArtifactError Unit × Disk) (s : Session σ) : Session σ :=
  match write s.disk with
  | (.ok (), disk) => { s with disk := disk }.emit (.artifactWritten artifact path)
  | (.error error, disk) => { s with disk := disk }.emit (.artifactFailed artifact path error)

/-- Write a text, with what an error is made into: one of opening the file, or one of writing it. -/
def writeText (unopened unwritten : IoError → ArtifactError) (path text : String) (disk : Disk) :
    Except ArtifactError Unit × Disk :=
  match disk.create path with
  | (.error cause, disk) => (.error (unopened cause), disk)
  | (.ok (), disk) =>
    match disk.fill path (Utf8.bytes text) with
    | (.error cause, disk) => (.error (unwritten cause), disk)
    | (.ok (), disk) => (.ok (), disk)

def writeReport (path text : String) : Disk → Except ArtifactError Unit × Disk :=
  writeText .bare .bare path text

/-- The number of bytes of a summary that are kept back until it is complete. -/
def summaryBuffer : Nat := 8192

/-- Write a summary. One that is too long to be kept back is written while it is made. -/
def writeSummary (path text : String) : Disk → Except ArtifactError Unit × Disk :=
  writeText (.file path)
    (if summaryBuffer < text.utf8ByteSize then .summary path else .file path) path text

/-- Create the directories that a path needs. -/
def createParent (path : String) (disk : Disk) : Except ArtifactError Unit × Disk :=
  match Path.parent? path with
  | none => (.ok (), disk)
  | some parent =>
    match disk.createDirectories parent with
    | (.ok (), disk) => (.ok (), disk)
    | (.error cause, disk) => (.error (.file parent cause), disk)

/-- Write the JUnit report, and create the directories that its path needs. -/
def writeJunit (path text : String) (disk : Disk) : Except ArtifactError Unit × Disk :=
  match createParent path disk with
  | (.error e, disk) => (.error e, disk)
  | (.ok (), disk) => writeText (.file path) (.junit path) path text disk

/-- Write the artifacts of a finished run. -/
def writeReports (directory : RunDirectory) (junitPath : Option String) (run : FinishedRun)
    (s : Session σ) : Session σ :=
  let s := writeArtifact .report directory.report
    (writeReport directory.report (Markdown.text run)) s
  let s := writeArtifact .summary directory.summary
    (writeSummary directory.summary (RunSummary.ofRun run).toJson.indentedText) s
  match junitPath with
  | none => s
  | some path => writeArtifact .junit path (writeJunit path (Junit.text run)) s

/-! ## Whole runs -/

/-- Create the directory of a run and put the instrumentation in place. -/
def prepare (plan : RunPlan) (instrumentation : Instrumentation) (s : Session σ) :
    Except RunError Unit × Session σ :=
  match s.disk.createDirectories plan.directory.path with
  | (.error cause, disk) => (.error (.directory plan.directory.path cause), { s with disk := disk })
  | (.ok (), disk) =>
    let made := instrumentation plan.artifacts disk
    let s := { s.act (.instrument plan.artifacts) with disk := made.disk }.note made.notes
    match made.failure with
    | some error => (.error (.instrumentation error), s)
    | none =>
      if s.disk.isDirectory plan.artifacts then
        (.ok (), s.emit (.instrumentationReady plan.artifacts))
      else (.error (.instrumentation (.missing plan.artifacts)), s)

/-- Say how the rounds ended. -/
def conclude (status : RunStatus) (s : Session σ) : Session σ :=
  match status with
  | .completed => s.advance .done
  | .aborted reason => (s.advance .aborted).emit (.runAborted reason)

/-- What subtracting the baseline from a record gives to log. -/
def subtractionNotes (record : RoundRecord) (moved : Nat) : List LogEntry :=
  if moved = 0 then []
  else
    [⟨.run, .debug, "subtracted baseline failures",
      [("execution_id", record.round.id.text), ("removed", toString moved)]⟩]

/-- Subtract the failures of the baseline from every record. -/
def subtractAll (baseline : RoundRecord) (records : List RoundRecord) : List RoundRecord :=
  records.map fun r => (r.subtractBaseline baseline.failed).1

def subtractionLog (baseline : RoundRecord) (records : List RoundRecord) : List LogEntry :=
  records.flatMap fun r => subtractionNotes r (r.subtractBaseline baseline.failed).2

/-- What a run with seeded rounds comes to, from the records as the rounds left them. -/
def RunPlan.finish (plan : RunPlan) (baseline : RoundRecord) (records : List RoundRecord)
    (status : RunStatus) : FinishedRun :=
  { runId := plan.circumstances.runId
    baseSeed := plan.settings.baseSeed
    maxRounds := plan.settings.maxRounds
    status := status
    baseline := baseline
    rounds := subtractAll baseline records
    startedAt := plan.circumstances.startedAt
    elapsed := plan.circumstances.elapsed }

/-- Subtract, write the artifacts and say that the run is over. -/
def finishRun (plan : RunPlan) (baseline : RoundRecord) (records : List RoundRecord)
    (status : RunStatus) (s : Session σ) : RunOutcome × Session σ :=
  let run := plan.finish baseline records status
  let s := (conclude status s).note (subtractionLog baseline records)
  let s := writeReports plan.directory plan.settings.junitPath run s
  (⟨plan.directory, run⟩,
    s.emit (.runFinished run.runId status records.length run.baselineFailures run.flaky))

/-- Execute the tests once. -/
def runUnperturbed (engine : Engine σ) (plan : RunPlan) (s : Session σ) :
    Except RunError Outcome × Session σ :=
  match executeRound engine plan plan.baseline (s.advance .baseline) with
  | (.error e, s) => (.error e, s)
  | (.ok (record, _), s) => (.ok (.unperturbed record), s.advance .done)

/-- Do what comes before the seeded rounds, and execute the baseline. -/
def runBaseline (engine : Engine σ) (instrumentation : Instrumentation) (plan : RunPlan)
    (s : Session σ) : Except RunError RoundRecord × Session σ :=
  match prepare plan instrumentation s with
  | (.error e, s) => (.error e, s)
  | (.ok (), s) =>
    match runRound engine plan plan.baseline ((openRunLog plan s).advance .baseline) with
    | (.error e, s) => (.error e, s)
    | (.ok (baseline, _), s) => (.ok baseline, s.reset (plan.settings.maxRounds == 1))

/-- Execute the baseline and the seeded rounds, of which there may be `left + 1`. -/
def runPerturbed (engine : Engine σ) (instrumentation : Instrumentation) (plan : RunPlan)
    (left : Nat) (s : Session σ) : Except RunError Outcome × Session σ :=
  match runBaseline engine instrumentation plan s with
  | (.error e, s) => (.error e, s)
  | (.ok baseline, s) =>
    match seededRounds engine plan left s with
    | (.error e, s) => (.error e, s)
    | (.ok (records, status), s) =>
      let (outcome, s) := finishRun plan baseline records status s
      (.ok (.finished outcome), s)

/-- Execute a run from a session that has just started. -/
def run (engine : Engine σ) (instrumentation : Instrumentation) (plan : RunPlan) (s : Session σ) :
    Except RunError Outcome × Session σ :=
  let s := s.emit (.runStarted plan.circumstances.runId plan.settings.maxRounds plan.settings.baseSeed)
  match plan.settings.maxRounds with
  | 0 => runUnperturbed engine plan s
  | left + 1 => runPerturbed engine instrumentation plan left s

end

end Flaky
