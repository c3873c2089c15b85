-- SUMMARY: The options of the command line: their names, which level knows them, and which values they take.
import Flaky.FailureCap
import Flaky.Number.Power
import Flaky.Seed

/-!
# Options

The command line has two levels: the options in front of the command's name, and
those after it. The options of the output are known on both.
-/

namespace Flaky.CommandLine

inductive ColorChoice
  | auto
  | always
  | never
deriving DecidableEq

def ColorChoice.ofName? (name : String) : Option ColorChoice :=
  match name with
  | "auto" => some .auto
  | "always" => some .always
  | "never" => some .never
  | _ => none

inductive OptionKey
  | help
  | version
  | verbose
  | color
  | workspaceRoot
  | configFile
  | profile
  | rounds
  | baseSeed
  | cap
  | simulate
deriving DecidableEq

namespace OptionKey

/-- The name after two hyphens. -/
def long : OptionKey → String
  | .help => "help"
  | .version => "version"
  | .verbose => "verbose"
  | .color => "color"
  | .workspaceRoot => "workspace-root"
  | .configFile => "config-file"
  | .profile => "profile"
  | .rounds => "rounds"
  | .baseSeed => "base-seed"
  | .cap => "max-failures-per-test"
  | .simulate => "simulate-non-retryable"

/-- The letter after one hyphen. -/
def short? : OptionKey → Option Char
  | .help => some 'h'
  | .version => some 'V'
  | .verbose => some 'v'
  | .profile => some 'P'
  | _ => none

def takesValue : OptionKey → Bool
  | .help | .version | .verbose | .simulate => false
  | _ => true

/-- The variable that gives the option where the command line does not. -/
def variableName? : OptionKey → Option String
  | .verbose => some "FLAKEHUNT_VERBOSE"
  | .color => some "FLAKEHUNT_COLOR"
  | .profile => some "FLAKEHUNT_PROFILE"
  | _ => none

end OptionKey

/-! ## Values -/

def readRounds? (value : String) : Option Nat :=
  match Text.signed 64 value.toList with
  | .ok n => if 0 ≤ n ∧ n < twoTo 32 then some n.toNat else none
  | .error _ => none

def readWord? (value : String) : Option UInt64 :=
  (Text.unsigned 64 value.toList).toOption.map UInt64.ofNat

def readSeed? (value : String) : Option Seed := (readWord? value).map Seed.mk

def readFlag? (value : String) : Option Bool :=
  match value with
  | "true" => some true
  | "false" => some false
  | _ => none

/-- Whether an option takes a value. -/
def OptionKey.accepts (key : OptionKey) (value : String) : Bool :=
  match key with
  | .color => (ColorChoice.ofName? value).isSome
  | .rounds => (readRounds? value).isSome
  | .baseSeed => (readSeed? value).isSome
  | .cap => (FailureCap.ofText value).toOption.isSome
  | .verbose => (readFlag? value).isSome
  | _ => true

/-! ## Levels -/

inductive CommandName
  | run
  | showRunLog
  | seed
deriving DecidableEq

def CommandName.ofName? (name : String) : Option CommandName :=
  match name with
  | "run" => some .run
  | "show-run-log" => some .showRunLog
  | "seed" => some .seed
  | _ => none

/-- The options that are known in front of the command's name. -/
def outerOptions : List OptionKey := [.help, .version, .verbose, .color]

namespace CommandName

/-- The options that are known after the command's name. -/
def options : CommandName → List OptionKey
  | .run => [.help, .verbose, .color, .workspaceRoot, .configFile, .profile, .rounds, .baseSeed, .cap,
      .simulate]
  | .showRunLog => [.help, .verbose, .color]
  | .seed => [.help, .verbose, .color, .baseSeed]

/-- The number of operands, all of which must be there. -/
def operands : CommandName → Nat
  | .run => 0
  | .showRunLog | .seed => 1

def acceptsOperand (command : CommandName) (operand : String) : Bool :=
  match command with
  | .seed => (readWord? operand).isSome
  | _ => true

end CommandName

end Flaky.CommandLine
