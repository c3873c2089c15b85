-- SUMMARY: Engines: what executes the tests of a round, what it delivers, and how it can fail.
import Flaky.Engine.Event
import Flaky.Files.Disk
import Flaky.Log
import Flaky.Round.Selection

/-!
# Engines

An engine executes the tests of a selection and delivers reports on them. It
may work on the disk and keep a state between rounds. An engine that fails
delivers what it reported before it failed.
-/

namespace Flaky

inductive EngineError
  | spawn (command : String) (cause : IoError)
  | protocol (lineNumber : Nat) (line cause : String)
  | incomplete (exitCode : Option Int)
  | aborted (reason : String)
deriving DecidableEq

namespace EngineError

/-- How a process ended that has an exit code or none. -/
def exitText : Option Int → String
  | some code => s!"exit code {code}"
  | none => "terminated by signal"

def message : EngineError → String
  | .spawn command _ => s!"failed to spawn engine command `{command}`"
  | .protocol lineNumber line _ => s!"engine emitted an invalid event at line {lineNumber}: {line}"
  | .incomplete exitCode => s!"engine exited before reporting completion ({exitText exitCode})"
  | .aborted reason => s!"engine aborted the round: {reason}"

/-- The kind of the error, in a word. -/
def kind : EngineError → String
  | .spawn _ _ => "spawn"
  | .protocol _ _ _ => "protocol"
  | .incomplete _ => "incomplete"
  | .aborted _ => "aborted"

/-- What lies behind the error, outermost first. -/
def causes : EngineError → List String
  | .spawn _ cause => [cause.text]
  | .protocol _ _ cause => [cause]
  | .incomplete _ | .aborted _ => []

end EngineError

/-- What an engine did in a round. -/
structure EngineRun where
  reports : List Report
  failure : Option EngineError
  /-- What it logged before its reports. -/
  notesBefore : List LogEntry
  /-- What it logged on each report. -/
  notesEach : List LogEntry
  /-- What it logged after its reports. -/
  notesAfter : List LogEntry

/-- An engine with states `σ`. -/
abbrev Engine (σ : Type) := Selection → σ → Disk → EngineRun × σ × Disk

/-- One call of an engine: what it was given to execute, and what it did. -/
structure EngineTurn where
  selection : Selection
  did : EngineRun

namespace EngineTurn

def round (turn : EngineTurn) : Round := turn.selection.round

def reports (turn : EngineTurn) : List Report := turn.did.reports

end EngineTurn

end Flaky
