-- SUMMARY: Processes: how a command is started, what it leaves behind, and how it ended.
import Flaky.Command
import Flaky.Files.Disk

/-!
# Processes

A spawner runs a command to its end. The command may change the disk; what it
prints is kept.
-/

namespace Flaky

/-- How a process ended. -/
inductive ExitStatus
  | code (number : Nat)
  | signal (number : Nat)
deriving DecidableEq

namespace ExitStatus

def code? : ExitStatus → Option Int
  | .code number => some number
  | .signal _ => none

def isSuccess (status : ExitStatus) : Bool := status == .code 0

def signalName : Nat → String
  | 1 => " (SIGHUP)"
  | 2 => " (SIGINT)"
  | 3 => " (SIGQUIT)"
  | 4 => " (SIGILL)"
  | 5 => " (SIGTRAP)"
  | 6 => " (SIGABRT)"
  | 7 => " (SIGBUS)"
  | 8 => " (SIGFPE)"
  | 9 => " (SIGKILL)"
  | 10 => " (SIGUSR1)"
  | 11 => " (SIGSEGV)"
  | 12 => " (SIGUSR2)"
  | 13 => " (SIGPIPE)"
  | 14 => " (SIGALRM)"
  | 15 => " (SIGTERM)"
  | _ => ""

def text : ExitStatus → String
  | .code number => s!"exit status: {number}"
  | .signal number => s!"signal: {number}" ++ signalName number

end ExitStatus

/-- A command to start. -/
structure Launch where
  command : Command
  /-- The variables that it gets besides those of its parent. -/
  environment : List (String × String)
  /-- The directory that it works in. -/
  directory : String

/-- What a process left behind. -/
structure Completed where
  output : List UInt8
  complaints : List UInt8
  status : ExitStatus
  disk : Disk

/-- Something that runs commands. A command that cannot be started changes nothing. -/
abbrev Spawner := Launch → Disk → Except IoError Completed

end Flaky
