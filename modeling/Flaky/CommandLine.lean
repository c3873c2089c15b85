-- SUMMARY: The command line: from the arguments to the exit code, what is printed, and the disk that is left.
import Flaky.CommandLine.Arguments
import Flaky.CommandLine.Console
import Flaky.CommandLine.Failure
import Flaky.Instrumentation.Command
import Flaky.Run
import Flaky.Run.Progress

/-!
# The command line

Everything that the program needs from outside is in its `Surroundings`, so the
program is a function of them.
-/

namespace Flaky.CommandLine

/-- What the program is started with. -/
structure Surroundings where
  arguments : List String
  environment : String → Option String
  currentDirectory : Except IoError String
  disk : Disk
  spawn : Spawner
  circumstances : Circumstances
  /-- How writing to standard output and standard error fails, if it does. -/
  outputFault : Option IoError
  errorsFault : Option IoError

/-- What the program leaves behind. -/
structure Completion where
  exitCode : ExitCode
  output : String
  errors : String
  disk : Disk

/-! ## Fixed texts -/

def versionText : String := "flakehunt 0.1.0\n"

def usageText : String :=
  "Usage: flakehunt [OPTIONS] <COMMAND>\n\nCommands:\n" ++
    "  run           Run the tests under perturbation\n" ++
    "  show-run-log  Print the execution ids in a run log\n" ++
    "  seed          Print the seed of a round\n"

/-! ## Running tests -/

/-- The settings of a run: those of the profile, and those of the command line over them. -/
def runSettings (profile : Profile) (options : RunOptions) : RunSettings where
  maxRounds := options.rounds.getD profile.settings.rounds
  baseSeed := options.baseSeed.getD profile.settings.baseSeed
  cap := options.cap.getD profile.settings.cap
  simulateNonRetryable := options.simulateNonRetryable || profile.settings.simulateNonRetryable
  perturbation := profile.settings.perturbation
  filter := profile.filter
  junitPath := profile.junitPath

def instrumentationOf (spawn : Spawner) (root : String) (profile : Profile) : Instrumentation :=
  match profile.settings.instrumentation with
  | none => .none
  | some command => .ofCommand spawn command root

/-- The plan of a run of a profile. -/
def planOf (surroundings : Surroundings) (options : RunOptions) (profile : Profile) : RunPlan :=
  ⟨runSettings profile options, profile.store, surroundings.circumstances⟩

/-- The program's state while a command is carried out. -/
structure State where
  console : Console
  disk : Disk

/-- Whether a finished run succeeded. -/
def verdict (outcome : RunOutcome) : Except Failure Unit :=
  match outcome.undetermined? with
  | some reason => .error (.undetermined reason)
  | none =>
    if outcome.hasFlakyTests then .error (.flaky outcome.finished.flaky.size) else .ok ()

/-- What is logged of a run without perturbation. -/
def unperturbedNote (record : RoundRecord) : LogEntry :=
  ⟨.commandLine, .info, s!"executed {record.passed.size + record.failed.size} tests without " ++
    s!"perturbation ({record.failed.size} failed)", []⟩

/-- What follows the end of a run, once its progress has been shown. -/
def concludeRun (result : Except RunError Outcome) (state : State) : Except Failure Unit × State :=
  match result with
  | .error error => (.error (.run error), state)
  | .ok (.unperturbed record) =>
    (.ok (), { state with console := state.console.log (unperturbedNote record) })
  | .ok (.finished outcome) => (verdict outcome, state)

/-- The log entries in a trace. -/
def notesOf (trace : List Step) : List LogEntry :=
  trace.filterMap fun
    | .note entry => some entry
    | .event _ => none

/-- Run the tests of a profile with its engine. -/
def runProfile (surroundings : Surroundings) (output : OutputOptions) (options : RunOptions)
    (root : String) (profile : Profile) (engine : Command) (state : State) :
    Except Failure Unit × State :=
  let plan := planOf surroundings options profile
  let (result, session) := Flaky.run (Engine.ofCommand surroundings.spawn engine root)
    (instrumentationOf surroundings.spawn root profile) plan (Session.start plan () state.disk)
  let console := state.console.logAll (notesOf session.trace)
  let progress := Progress.text ⟨output.verbose, console.colored⟩ session.events
  match console.writeErrors progress with
  | (.error cause, console) => (.error (.output cause), ⟨console, session.disk⟩)
  | (.ok (), console) => concludeRun result ⟨console, session.disk⟩

/-- Find the profile that is asked for, and its engine. -/
def findProfile (settings : Settings) (options : RunOptions) : Except Failure (Profile × Command) :=
  match settings.profile options.profile with
  | .error error => .error (.noProfile error)
  | .ok profile =>
    match profile.settings.engine with
    | none => .error (.noEngine profile.name)
    | some engine => .ok (profile, engine)

/-- The root of the workspace: the one that is asked for, or the current directory. -/
def workspaceRoot (surroundings : Surroundings) (options : RunOptions) : Except Failure String :=
  match options.workspaceRoot with
  | some root => .ok root
  | none => surroundings.currentDirectory.mapError .noDirectory

def runTests (surroundings : Surroundings) (output : OutputOptions) (options : RunOptions)
    (state : State) : Except Failure Unit × State :=
  match workspaceRoot surroundings options with
  | .error failure => (.error failure, state)
  | .ok root =>
    let loaded := Settings.load state.disk root options.configFile
    let state := { state with console := state.console.logAll loaded.logs }
    match loaded.result with
    | .error error => (.error (.settings error), state)
    | .ok settings =>
      match findProfile settings options with
      | .error failure => (.error failure, state)
      | .ok (profile, engine) => runProfile surroundings output options root profile engine state

/-! ## Other commands -/

/-- Print a text. -/
def print (text : String) (state : State) : Except Failure Unit × State :=
  let (result, console) := state.console.writeOutput text
  (result.mapError .output, { state with console := console })

def showRunLog (directory : String) (state : State) : Except Failure Unit × State :=
  match RunLog.read (Path.join directory RunDirectory.runLogName) state.disk with
  | .error error => (.error (.runLog directory error), state)
  | .ok ids => print (String.join (ids.map fun id => id.text ++ "\n")) state

def showSeed (index : UInt64) (base : Seed) (state : State) : Except Failure Unit × State :=
  print ((base.forRound index).text ++ "\n") state

def carryOut (surroundings : Surroundings) (invocation : Invocation) (state : State) :
    Except Failure Unit × State :=
  match invocation.request with
  | .run options => runTests surroundings invocation.output options state
  | .showRunLog directory => showRunLog directory state
  | .seed index base => showSeed index base state

/-! ## The program -/

/-- Whether the console shows colours. Its streams are not taken for terminals. -/
def isColored (choice : ColorChoice) : Bool := choice == .always

def State.completion (state : State) (exitCode : ExitCode) : Completion :=
  ⟨exitCode, state.console.output.text, state.console.errors.text, state.disk⟩

/-- Tell a failure, if there is one, and end the program. -/
def finish (result : Except Failure Unit) (state : State) : Completion :=
  match result with
  | .ok () => state.completion .ok
  | .error failure =>
    let styles : Failure.Styles := if state.console.colored then .colored else .plain
    let console := state.console.logAll (failure.entries styles)
    { state with console := console }.completion failure.exitCode

def output (surroundings : Surroundings) : Stream := ⟨"", surroundings.outputFault⟩

def errors (surroundings : Surroundings) : Stream := ⟨"", surroundings.errorsFault⟩

/-- What the program does without a request. -/
def halt (surroundings : Surroundings) (reason : Halt) : Completion :=
  let write := fun (stream : Stream) (text : String) => (stream.write text).2.text
  match reason with
  | .version => ⟨.ok, write (output surroundings) versionText, "", surroundings.disk⟩
  | .help => ⟨.ok, write (output surroundings) usageText, "", surroundings.disk⟩
  | .usage => ⟨.usageError, "", write (errors surroundings) usageText, surroundings.disk⟩

/-- The program. -/
def execute (surroundings : Surroundings) : Completion :=
  match readArguments surroundings.environment surroundings.arguments with
  | .error reason => halt surroundings reason
  | .ok invocation =>
    let console := Console.start (output surroundings) (errors surroundings)
      (isColored invocation.output.color) (surroundings.environment Console.filterVariable)
    let (result, state) := carryOut surroundings invocation ⟨console, surroundings.disk⟩
    finish result state

end Flaky.CommandLine
