-- SUMMARY: Engines that are commands: their parameters are variables, and their output holds the events.
import Flaky.Engine
import Flaky.Process

/-!
# Command engines

The command gets the parameters of the selection as variables. Its exit status
counts only where it did not say that it finished.
-/

namespace Flaky

namespace LogEntry

/-- What a command wrote to its error output. -/
def complaints (bytes : List UInt8) : List LogEntry :=
  if bytes.isEmpty then [] else [⟨.command, .error, Utf8.decodeLossy bytes, []⟩]

end LogEntry

namespace EngineRun

/-- What is logged on an event. -/
def eventNote : LogEntry := ⟨.engine, .trace, "engine event", [("event", "")]⟩

def statusNote (status : ExitStatus) : List LogEntry :=
  if status.isSuccess then []
  else [⟨.engine, .debug, s!"engine command exited with {status.text}", []⟩]

/-- The cause that is given for an event that cannot be read. -/
def protocolCause : String := "the line is not an event"

/-- What an engine did whose command printed `output` and ended with `status`. -/
def ofOutput (output : String) (status : ExitStatus) : EngineRun :=
  match EngineOutput.read output with
  | (reports, .finished) => ⟨reports, none, [], [eventNote], eventNote :: statusNote status⟩
  | (reports, .unfinished) => ⟨reports, some (.incomplete status.code?), [], [eventNote], []⟩
  | (reports, .aborted reason) => ⟨reports, some (.aborted reason), [], [eventNote], [eventNote]⟩
  | (reports, .malformed n line) =>
    ⟨reports, some (.protocol n line protocolCause), [], [eventNote], []⟩

def failed (error : EngineError) : EngineRun := ⟨[], some error, [], [], []⟩

def after (notes : List LogEntry) (run : EngineRun) : EngineRun :=
  { run with notesBefore := notes ++ run.notesBefore }

end EngineRun

namespace Engine

/-- What is logged before the command is started. -/
def commandNote (command : Command) (selection : Selection) : LogEntry :=
  ⟨.engine, .debug, s!"running engine command: {command.text}",
    [("execution_id", selection.round.id.text)]⟩

/-- How the command is started: with the parameters of the selection, in a directory. -/
def launch (command : Command) (directory : String) (selection : Selection) : Launch :=
  ⟨command, selection.parameters, directory⟩

/-- The engine that runs a command in a directory. -/
def ofCommand {σ : Type} (spawn : Spawner) (command : Command) (directory : String) : Engine σ :=
  fun selection state disk =>
    let note := commandNote command selection
    match spawn (launch command directory selection) disk with
    | .error cause => ((EngineRun.failed (.spawn command.text cause)).after [note], state, disk)
    | .ok done =>
      let run := EngineRun.ofOutput (Utf8.decodeLossy done.output) done.status
      (run.after (note :: LogEntry.complaints done.complaints), state, done.disk)

end Engine

end Flaky
