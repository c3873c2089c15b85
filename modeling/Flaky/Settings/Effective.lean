-- SUMMARY: The settings that hold for a profile, with nothing missing, and how its patterns are compiled.
import Flaky.Regex
import Flaky.Seed
import Flaky.Settings.Profile

/-!
# Effective settings

What a profile says holds; where it says nothing, the default profile holds.
-/

namespace Flaky

structure EffectiveSettings where
  rounds : Nat
  baseSeed : Seed
  cap : FailureCap
  simulateNonRetryable : Bool
  mode : PerturbationMode
  testNames : Option String
  range : Option PerturbationRange
  patterns : FilterPatterns
  engine : Option Command
  instrumentation : Option Command
  junitPath : Option String
deriving DecidableEq

/-! ## Layering -/

namespace ProfileSettings

def seedOf (n : Nat) : Seed := ⟨UInt64.ofNat n⟩

/-- The settings of a profile on its own, if none that must be there is missing. -/
def complete? (own : ProfileSettings) : Option EffectiveSettings := do
  let patterns : FilterPatterns :=
    ⟨← own.includeClasses, ← own.includeAnnotations, ← own.excludeClasses,
      ← own.excludeAnnotations⟩
  return {
    rounds := ← own.rounds
    baseSeed := seedOf (← own.baseSeed)
    cap := ← own.cap
    simulateNonRetryable := ← own.simulateNonRetryable
    mode := ← own.mode
    testNames := own.testNames
    range := own.range
    patterns
    engine := own.engine
    instrumentation := own.instrumentation
    junitPath := own.junitPath }

end ProfileSettings

namespace EffectiveSettings

/-- The settings that hold when a profile is laid over the default one. -/
def overlay (base : EffectiveSettings) (own : ProfileSettings) : EffectiveSettings where
  rounds := own.rounds.getD base.rounds
  baseSeed := (own.baseSeed.map ProfileSettings.seedOf).getD base.baseSeed
  cap := own.cap.getD base.cap
  simulateNonRetryable := own.simulateNonRetryable.getD base.simulateNonRetryable
  mode := own.mode.getD base.mode
  testNames := own.testNames <|> base.testNames
  range := own.range <|> base.range
  patterns :=
    ⟨own.includeClasses.getD base.patterns.includeClasses,
      own.includeAnnotations.getD base.patterns.includeAnnotations,
      own.excludeClasses.getD base.patterns.excludeClasses,
      own.excludeAnnotations.getD base.patterns.excludeAnnotations⟩
  engine := own.engine <|> base.engine
  instrumentation := own.instrumentation <|> base.instrumentation
  junitPath := own.junitPath <|> base.junitPath

def perturbation (settings : EffectiveSettings) : Perturbation :=
  ⟨settings.mode, settings.testNames, settings.range⟩

/-! ## Compilation -/

/-- A pattern of a profile that does not compile. -/
inductive PatternError
  | filter (e : FilterError)
  | testNames (pattern : String)
deriving DecidableEq

/-- The filter of a profile. The expression of its test names must be one. -/
def compile (settings : EffectiveSettings) : Except PatternError Filter :=
  match Filter.compile settings.patterns with
  | .error e => .error (.filter e)
  | .ok filter =>
    match settings.testNames with
    | none => .ok filter
    | some pattern => if Regex.isValid pattern then .ok filter else .error (.testNames pattern)

end EffectiveSettings

end Flaky
