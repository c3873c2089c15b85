-- SUMMARY: Instrumentation: what puts the artifact into its directory before the first round, and how it can fail.
import Flaky.Files.Disk
import Flaky.Log

/-!
# Instrumentation

The artifact is whatever makes a seed change the behaviour of the code under
test. Its directory is created first and must exist afterwards.
-/

namespace Flaky

inductive InstrumentationError
  | createDirectory (path : String) (cause : IoError)
  | command (line : String) (cause : IoError)
  | missing (path : String)
deriving DecidableEq

namespace InstrumentationError

def message : InstrumentationError → String
  | .createDirectory path _ => s!"failed to create instrumentation artifact directory `{path}`"
  | .command line _ => s!"instrumentation command `{line}` failed"
  | .missing path =>
    s!"instrumentation artifact directory `{path}` does not exist after materialization"

/-- The kind of the error, in a word. -/
def kind : InstrumentationError → String
  | .createDirectory _ _ => "create-dir"
  | .command _ _ => "command"
  | .missing _ => "missing"

/-- What lies behind the error, outermost first. -/
def causes : InstrumentationError → List String
  | .createDirectory _ cause | .command _ cause => [cause.text]
  | .missing _ => []

end InstrumentationError

/-- What putting the artifact in place did. -/
structure Materialization where
  failure : Option InstrumentationError
  notes : List LogEntry
  disk : Disk

/-- Something that puts the artifact into a directory. -/
abbrev Instrumentation := (directory : String) → Disk → Materialization

namespace Instrumentation

/-- Create the artifact's directory, then go on. -/
def afterDirectory (next : Instrumentation) : Instrumentation := fun directory disk =>
  match disk.createDirectories directory with
  | (.error cause, disk) => ⟨some (.createDirectory directory cause), [], disk⟩
  | (.ok (), disk) => next directory disk

/-- Instrumentation that only creates the directory. -/
def none : Instrumentation := afterDirectory fun _ disk => ⟨.none, [], disk⟩

end Instrumentation

end Flaky
