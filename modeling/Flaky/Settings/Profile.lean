-- SUMMARY: The settings that a configuration file gives a profile, how they are read, and which keys are unknown.
import Flaky.Settings.Values

/-!
# Settings of profiles

Every setting may be missing. A profile is a table of its settings, or a list of
them in their order.
-/

namespace Flaky

structure ProfileSettings where
  rounds : Option Nat
  baseSeed : Option Nat
  cap : Option FailureCap
  simulateNonRetryable : Option Bool
  mode : Option PerturbationMode
  testNames : Option String
  range : Option PerturbationRange
  includeClasses : Option (List String)
  includeAnnotations : Option (List String)
  excludeClasses : Option (List String)
  excludeAnnotations : Option (List String)
  engine : Option Command
  instrumentation : Option Command
  junitPath : Option String
deriving DecidableEq

namespace ProfileSettings

def none : ProfileSettings := ⟨.none, .none, .none, .none, .none, .none, .none, .none, .none, .none,
  .none, .none, .none, .none⟩

/-! ## Keys -/

/-- The keys of the settings, in their order. -/
def keys : List String :=
  ["rounds", "base-seed", "max-failures-per-test", "simulate-non-retryable", "mode",
    "test-name-filter", "perturb-range", "include-classes", "include-annotations",
    "exclude-classes", "exclude-annotations", "engine-command", "instrumentation-command", "junit"]

def junitKeys : List String := ["path"]

def rangeKeys : List String := ["start", "end"]

end ProfileSettings

/-! ## Records -/

/-- A table, or a list that stands for one. -/
inductive RecordData
  | named (fields : List (String × Datum))
  | positional (items : List Datum)

namespace RecordData

def ofDatum : Datum → Reading RecordData
  | .table fields => .ok (.named fields)
  | .list items => .ok (.positional items)
  | _ => .error .here

/-- The datum under a key, and the step to it. In a list it is at the key's place among `keys`. -/
def field? (keys : List String) (key : String) : RecordData → Option (Segment × Datum)
  | .named fields => (Datum.lookup? key fields).map (.key key, ·)
  | .positional items => items[keys.idxOf key]?.map (.index (keys.idxOf key), ·)

/-- Read a datum that may be missing or null. -/
def optional (keys : List String) (key : String) (read : Datum → Reading α) (data : RecordData) :
    Reading (Option α) :=
  match data.field? keys key with
  | none | some (_, .null) => .ok none
  | some (segment, datum) => ((read datum).under segment).map some

end RecordData

/-! ## Reading -/

namespace ProfileSettings

/-- The path in the settings of a JUnit report. -/
def readJunit (datum : Datum) : Reading (Option String) := do
  (← RecordData.ofDatum datum).optional junitKeys "path" Dialect.lenient.readText

/-- Read the datum of the JUnit settings, which may be missing and is not null. -/
def readJunitField (data : RecordData) : Reading (Option String) :=
  match data.field? keys "junit" with
  | .none => .ok .none
  | some (segment, datum) => (readJunit datum).under segment

def read (datum : Datum) : Reading ProfileSettings := do
  let data ← RecordData.ofDatum datum
  let dialect := Dialect.lenient
  let texts := fun key => data.optional keys key dialect.readTexts
  return {
    rounds := ← data.optional keys "rounds" (dialect.readUnsigned 32)
    baseSeed := ← data.optional keys "base-seed" (dialect.readUnsigned 64)
    cap := ← data.optional keys "max-failures-per-test" (FailureCap.read dialect)
    simulateNonRetryable := ← data.optional keys "simulate-non-retryable" dialect.readBool
    mode := ← data.optional keys "mode" (PerturbationMode.read dialect)
    testNames := ← data.optional keys "test-name-filter" dialect.readText
    range := ← data.optional keys "perturb-range" (PerturbationRange.read dialect)
    includeClasses := ← texts "include-classes"
    includeAnnotations := ← texts "include-annotations"
    excludeClasses := ← texts "exclude-classes"
    excludeAnnotations := ← texts "exclude-annotations"
    engine := ← data.optional keys "engine-command" (Command.read dialect)
    instrumentation := ← data.optional keys "instrumentation-command" (Command.read dialect)
    junitPath := ← readJunitField data }

/-! ## Unknown keys -/

/-- The keys of a table that are not among some others; nothing else has keys. -/
def strangers (known : List String) : Datum → List String
  | .table fields => (fields.map (·.1)).filter fun key => !known.contains key
  | _ => []

/-- The strange keys inside the datum of a setting, each with the path to it. -/
def strangersIn (data : RecordData) (key between : String) (known : List String) : List String :=
  match data.field? keys key with
  | .none => []
  | some (segment, datum) =>
    let step := match segment with
      | .key name => name
      | .index i => toString i
    (strangers known datum).map fun stranger => step ++ between ++ stranger

/-- The paths in a profile that name no setting. -/
def unknownKeys (datum : Datum) : List String :=
  match RecordData.ofDatum datum with
  | .error _ => []
  | .ok data =>
    strangers keys datum ++ strangersIn data "perturb-range" ".?." rangeKeys ++
      strangersIn data "junit" "." junitKeys

end ProfileSettings

end Flaky
