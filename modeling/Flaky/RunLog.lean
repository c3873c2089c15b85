-- SUMMARY: Run logs: the execution ids of the rounds that finished, one a line, written as rounds finish and read back.
import Flaky.ExecutionId
import Flaky.Files.Disk

/-!
# Run logs

A run log lists the execution ids of finished rounds, one a line. Each is
written at once, so a run that is cut short leaves whole lines and at most one
broken one. A line is put where the bytes of those before it end, and over
whatever others have put there meanwhile. Reading takes whole lines only.
-/

namespace Flaky

inductive RunLogError
  | create (path : String) (cause : IoError)
  | write (path : String) (cause : IoError)
  | read (path : String) (cause : IoError)
  | parse (path : String) (lineNumber : Nat) (line : String)
deriving DecidableEq

namespace RunLogError

def message : RunLogError → String
  | .create path _ => s!"failed to create run log at `{path}`"
  | .write path _ => s!"failed to append to run log at `{path}`"
  | .read path _ => s!"failed to read run log at `{path}`"
  | .parse path lineNumber _ => s!"invalid entry at line {lineNumber} of run log `{path}`"

/-- What lies behind the error, outermost first. What the reader of uuids says of a line is left
    out. -/
def causes : RunLogError → List String
  | .create _ cause | .write _ cause | .read _ cause => [cause.text]
  | .parse _ _ line => [ExecutionId.invalidMessage line]

end RunLogError

/-- A run log that has been opened. -/
structure RunLog where
  path : String
  /-- Where its next line belongs. -/
  position : Nat

namespace RunLog

/-- The line of an entry. -/
def line (id : ExecutionId) : List Char := id.chars ++ ['\n']

/-- Open a run log, empty. -/
def create (path : String) (disk : Disk) : Except RunLogError RunLog × Disk :=
  match disk.create path with
  | (.ok (), disk) => (.ok ⟨path, 0⟩, disk)
  | (.error cause, disk) => (.error (.create path cause), disk)

/-- Put an entry into a run log. -/
def append (log : RunLog) (id : ExecutionId) (disk : Disk) :
    Except RunLogError Unit × RunLog × Disk :=
  match disk.writeAt log.path log.position (Utf8.encode (line id)) with
  | (.ok (), position, disk) => (.ok (), ⟨log.path, position⟩, disk)
  | (.error cause, position, disk) => (.error (.write log.path cause), ⟨log.path, position⟩, disk)

/-! ## Reading -/

/-- The lines of a text that end in a line feed. -/
def wholeLines (cs : List Char) : List (List Char) := (Text.splitAt '\n' cs).dropLast

/-- The first line that is no execution id, counted from `n`, or all the ids. -/
def readLines (path : String) : (n : Nat) → List (List Char) → Except RunLogError (List ExecutionId)
  | _, [] => .ok []
  | n, line :: rest =>
    match ExecutionId.ofChars? line with
    | none => .error (.parse path n (String.ofList line))
    | some id => (readLines path (n + 1) rest).map (id :: ·)

/-- The ids that a log's text lists. -/
def ofText (path text : String) : Except RunLogError (List ExecutionId) :=
  readLines path 1 (wholeLines text.toList)

def read (path : String) (disk : Disk) : Except RunLogError (List ExecutionId) :=
  match disk.readText path with
  | .error cause => .error (.read path cause)
  | .ok text => ofText path text

end RunLog

end Flaky
