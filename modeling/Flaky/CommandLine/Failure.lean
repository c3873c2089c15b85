-- SUMMARY: What ends the program without success: its message, its exit code, and what is said of it.
import Flaky.CommandLine.ExitCode
import Flaky.Run.Event
import Flaky.Settings
import Flaky.Text.Terminal

/-!
# Failures of the program

A failure is told by one log entry, and by one more for each error behind it.
-/

namespace Flaky

inductive Failure
  /-- The current directory cannot be determined. -/
  | noDirectory (cause : IoError)
  | settings (error : SettingsError)
  | noProfile (error : UnknownProfile)
  /-- The profile has no command for its engine. -/
  | noEngine (profile : String)
  | run (error : RunError)
  | undetermined (reason : AbortReason)
  | flaky (count : Nat)
  | runLog (directory : String) (error : RunLogError)
  | output (cause : IoError)
deriving DecidableEq

namespace Failure

open Flaky.Text (Style)

/-- The failure in a few words. -/
def message : Failure → String
  | .noDirectory _ => "could not determine current directory"
  | .settings _ => "config parse error"
  | .noProfile _ => "profile not found"
  | .noEngine _ => "no engine command configured"
  | .run _ => "run failed"
  | .undetermined _ => "tests could not be retried"
  | .flaky _ => "flaky tests detected"
  | .runLog _ _ => "run log read error"
  | .output _ => "error writing output"

def runExitCode : RunError → ExitCode
  | .directory _ _ => .setupError
  | .instrumentation _ => .instrumentationFailed
  | .engine _ _ => .engineFailed

def exitCode : Failure → ExitCode
  | .noDirectory _ | .settings _ | .noProfile _ | .noEngine _ | .runLog _ _ => .setupError
  | .run error => runExitCode error
  | .undetermined _ => .nonRetriedTests
  | .flaky _ => .flakyTests
  | .output _ => .outputError

/-! ## Telling a failure -/

/-- The styles of the parts of a text. -/
structure Styles where
  strong : Style
  warning : Style

def Styles.plain : Styles := ⟨.plain, .plain⟩

def Styles.colored : Styles := ⟨.bolded, .ofColor .yellow⟩

/-- What is said of the failure itself. -/
def headline (styles : Styles) : Failure → String
  | .noDirectory _ => "could not determine current directory"
  | .settings error => "failed to parse flakehunt config at `" ++ styles.strong.apply error.file ++ "`"
  | .noProfile error => error.message
  | .noEngine profile =>
    "no engine command configured for profile `" ++ styles.strong.apply profile ++ "`: set `" ++
      styles.strong.apply "engine-command" ++ "` in the config"
  | .run error => error.message
  | .undetermined reason => reason.message
  | .flaky count =>
    styles.strong.apply (toString count) ++
      (if count = 1 then " test failed" else " tests failed") ++ " only under perturbation"
  | .runLog directory _ => "failed to read run log for `" ++ styles.strong.apply directory ++ "`"
  | .output _ => "error writing output"

/-- The errors behind the failure, outermost first. -/
def causes : Failure → List String
  | .noDirectory cause | .output cause => [cause.text]
  | .settings error => error.fault.causes
  | .run error => error.causes
  | .runLog _ error => error.message :: error.causes
  | .noProfile _ | .noEngine _ | .undetermined _ | .flaky _ => []

def causeEntry (styles : Styles) (cause : String) : LogEntry :=
  ⟨.continuation, .error, "\n" ++ styles.warning.apply "Caused by" ++ ":\n  " ++ cause, []⟩

/-- The log entries that tell a failure. -/
def entries (styles : Styles) (failure : Failure) : List LogEntry :=
  ⟨.failure, .error, failure.headline styles, []⟩ :: failure.causes.map (causeEntry styles)

end Failure

end Flaky
