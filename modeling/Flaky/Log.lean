-- SUMMARY: Log entries: levels, sources, and messages with named fields.

/-!
# Log entries
-/

namespace Flaky

inductive LogLevel
  | error
  | warn
  | info
  | debug
  | trace
deriving DecidableEq

namespace LogLevel

def name : LogLevel → String
  | .error => "ERROR"
  | .warn => "WARN"
  | .info => "INFO"
  | .debug => "DEBUG"
  | .trace => "TRACE"

/-- The place in the order of detail, from 1 on. -/
def detail : LogLevel → Nat
  | .error => 1
  | .warn => 2
  | .info => 3
  | .debug => 4
  | .trace => 5

end LogLevel

/-- The part of the program that an entry comes from. -/
inductive LogSource
  | run
  | tally
  | engine
  | instrumentation
  | settings
  | events
  | commandLine
  | failure
  | output
  /-- An entry that continues the one before it. -/
  | continuation
  /-- Text that a command wrote to its error output. -/
  | command
deriving DecidableEq

/-- The name by which a source is chosen when entries are filtered. -/
def LogSource.target : LogSource → String
  | .run => "flakehunt_runner::orchestrator"
  | .tally => "flakehunt_runner::result_processor"
  | .engine => "flakehunt_runner::engine::process"
  | .instrumentation => "flakehunt_runner::instrumentation"
  | .settings => "flakehunt_runner::config::imp"
  | .events => "flakehunt_runner::reporter"
  | .commandLine => "flakehunt::dispatch"
  | .failure => "flakehunt::errors"
  | .output => "flakehunt::output"
  | .continuation => "flakehunt::no_heading"
  | .command => ""

structure LogEntry where
  source : LogSource
  level : LogLevel
  message : String
  fields : List (String × String)
deriving DecidableEq

end Flaky
