-- SUMMARY: Instrumentation by a command, which gets the artifact's directory as its last argument and must succeed.
import Flaky.Engine.Command
import Flaky.Instrumentation
import Flaky.Text.Quoted

/-!
# Command instrumentation
-/

namespace Flaky.Instrumentation

/-- The code with which a command ended, or what stands in its stead. -/
def statusText : ExitStatus → String
  | .code number => toString number
  | .signal number => s!"<signal {number}>"

/-- The error of a command that ended badly. -/
def failure (command : Command) (status : ExitStatus) : IoError :=
  .other ("command [" ++ String.intercalate ", " (command.words.map Text.quoted) ++ "] exited with code " ++
    statusText status)

/-- How the command is started: with the artifact's directory after its other arguments, in the
directory `workspace`. -/
def launch (command : Command) (workspace directory : String) : Launch :=
  ⟨⟨command.program, command.args ++ [directory]⟩, [], workspace⟩

/-- Instrumentation that runs a command in the directory `workspace`. -/
def ofCommand (spawn : Spawner) (command : Command) (workspace : String) : Instrumentation :=
  afterDirectory fun directory disk =>
    let note : LogEntry :=
      ⟨.instrumentation, .debug, s!"running instrumentation command: {command.text} {directory}", []⟩
    let started := launch command workspace directory
    match spawn started disk with
    | .error cause => ⟨some (.command command.text cause), [note], disk⟩
    | .ok done =>
      let notes := note :: LogEntry.complaints done.complaints
      if done.status.isSuccess then ⟨.none, notes, done.disk⟩
      else ⟨some (.command command.text (failure started.command done.status)), notes, done.disk⟩

end Flaky.Instrumentation
