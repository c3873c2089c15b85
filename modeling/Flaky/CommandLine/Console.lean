-- SUMMARY: The console: two streams that may fail, and how log entries are written to one of them.
import Flaky.CommandLine.LogFilter
import Flaky.Files.IoError
import Flaky.Text.Terminal

/-!
# Console

Log entries go to standard error if the filter lets them through. An entry that
cannot be written is dropped.
-/

namespace Flaky

/-- A stream: what has been written to it, and how writing to it fails, if it does. -/
structure Stream where
  text : String
  fault : Option IoError

def Stream.write (stream : Stream) (text : String) : Except IoError Unit × Stream :=
  if text.isEmpty then (.ok (), stream)
  else
    match stream.fault with
    | some error => (.error error, stream)
    | none => (.ok (), { stream with text := stream.text ++ text })

structure Console where
  output : Stream
  errors : Stream
  filter : LogFilter
  colored : Bool

namespace Console

open Flaky.Text (Style)

/-- The name of a level in front of a message. -/
def heading : LogLevel → String
  | .error => "error"
  | .warn => "warning"
  | .info => "info"
  | .debug => "debug"
  | .trace => "trace"

def headingStyle : LogLevel → Style
  | .error => .boldColor .red
  | .warn => .boldColor .yellow
  | .info | .debug => .bolded
  | .trace => .faint

/-- The text of a log entry. What a command wrote is passed on as it is. -/
def entryText (colored : Bool) (entry : LogEntry) : String :=
  match entry.source with
  | .command => entry.message
  | .continuation => entry.message ++ "\n"
  | _ =>
    let style := if colored then headingStyle entry.level else .plain
    style.apply (heading entry.level) ++ ": " ++ entry.message ++ "\n"

/-- Whether an entry is shown. What a command wrote always is. -/
def shows (console : Console) (entry : LogEntry) : Bool :=
  entry.source == .command || console.filter.allows entry

def log (console : Console) (entry : LogEntry) : Console :=
  if console.shows entry then
    { console with errors := (console.errors.write (entryText console.colored entry)).2 }
  else console

def logAll (console : Console) (entries : List LogEntry) : Console := entries.foldl log console

def writeOutput (console : Console) (text : String) : Except IoError Unit × Console :=
  let (result, output) := console.output.write text
  (result, { console with output := output })

def writeErrors (console : Console) (text : String) : Except IoError Unit × Console :=
  let (result, errors) := console.errors.write text
  (result, { console with errors := errors })

/-! ## Choosing the filter -/

/-- The variable that holds the filter. -/
def filterVariable : String := "FLAKEHUNT_LOG"

/-- The warning of a filter that cannot be read. -/
def filterWarning (text : String) (error : LogFilterError) : LogEntry :=
  ⟨.output, .warn, s!"ignoring invalid {filterVariable} value `{text}`: {error.message}", []⟩

/-- A console whose filter is given by a variable. -/
def start (output errors : Stream) (colored : Bool) (setting : Option String) : Console :=
  let standard : Console := ⟨output, errors, .standard, colored⟩
  match setting.getD "" with
  | "" => standard
  | text =>
    match LogFilter.read text with
    | .ok filter => { standard with filter := filter }
    | .error error => standard.log (filterWarning text error)

end Console

end Flaky
