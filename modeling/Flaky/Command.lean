-- SUMMARY: Commands as a program with its arguments, and their one-line text.
import Flaky.Command.Words

/-!
# Commands

The engine and the instrumentation are commands: a program and its arguments.
A command is shown as one line, quoted so that it reads back as the command.
-/

namespace Flaky

structure Command where
  program : String
  args : List String
deriving DecidableEq

namespace Command

def words (command : Command) : List String := command.program :: command.args

def text (command : Command) : String := Words.join command.words

inductive ReadError
  | openQuote
  | noWords
deriving DecidableEq

/-- The command that a shell-style line names. -/
def ofLine (line : String) : Except ReadError Command :=
  match Words.split? line with
  | none => .error .openQuote
  | some [] => .error .noWords
  | some (program :: args) => .ok ⟨program, args⟩

end Command

end Flaky
