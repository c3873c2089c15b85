-- SUMMARY: The machine-readable summary of a run: its JSON form, and reading it back.
import Flaky.Files.IoError
import Flaky.Json.Decode
import Flaky.OrderedSet
import Flaky.Report

/-!
# Run summaries

A summary names tests by their text. It is written as a JSON object and read
from an object in any order, with fields of other names passed over, or from an
array of the fields in order.
-/

namespace Flaky

inductive SummaryStatus
  | completed
  | aborted (simulated : Bool)
deriving DecidableEq

structure RoundSummary where
  executionId : String
  /-- `none` for the baseline. -/
  index : Option Nat
  seed : Option Nat
  failed : OrderedSet String
  passedCount : Nat
deriving DecidableEq

structure RunSummary where
  runId : String
  baseSeed : Nat
  maxRounds : Nat
  status : SummaryStatus
  baseline : RoundSummary
  rounds : List RoundSummary
  baselineFailures : OrderedSet String
  aggregateFailures : OrderedSet String
  nonRetried : OrderedSet String
deriving DecidableEq

/-! ## Building -/

def RoundSummary.isBaseline (round : RoundSummary) : Bool := round.index.isNone

namespace RunSummary

def hasFlakyTests (summary : RunSummary) : Bool := !summary.aggregateFailures.isEmpty

def namesOf (ids : List TestId) : OrderedSet String := .ofList (ids.map TestId.text)

def ofRecord (record : RoundRecord) : RoundSummary :=
  ⟨record.round.id.text, record.round.index?, record.round.seed?.map Seed.toNat,
    namesOf record.failed.toList, record.passed.size⟩

def ofRun (run : FinishedRun) : RunSummary :=
  let (status, nonRetried) : SummaryStatus × OrderedSet String :=
    match run.status with
    | .completed => (.completed, .empty)
    | .aborted (.nonRetried tests) => (.aborted false, namesOf (tests.map (·.1)))
    | .aborted .simulated => (.aborted true, .empty)
  { runId := run.runId.text
    baseSeed := run.baseSeed.toNat
    maxRounds := run.maxRounds
    status := status
    baseline := ofRecord run.baseline
    rounds := run.rounds.map ofRecord
    baselineFailures := namesOf run.baselineFailures.toList
    aggregateFailures := namesOf run.flaky.toList
    nonRetried := nonRetried }

end RunSummary

/-! ## Writing -/

def SummaryStatus.toJson : SummaryStatus → Json
  | .completed => .object [("kind", .string "completed")]
  | .aborted simulated => .object [("kind", .string "aborted"), ("simulated", .bool simulated)]

namespace RunSummary

def namesJson (names : OrderedSet String) : Json := .array (names.toList.map .string)

/-- A field that is left out where there is no value. -/
def optionalField (key : String) : Option Nat → List (String × Json)
  | none => []
  | some n => [(key, .number n)]

def roundJson (round : RoundSummary) : Json :=
  .object ([("execution-id", .string round.executionId)] ++ optionalField "index" round.index ++
    optionalField "seed" round.seed ++
    [("failed", namesJson round.failed), ("passed-count", .number round.passedCount)])

def toJson (summary : RunSummary) : Json :=
  .object [("run-id", .string summary.runId), ("base-seed", .number summary.baseSeed),
    ("max-rounds", .number summary.maxRounds), ("status", summary.status.toJson),
    ("baseline", roundJson summary.baseline), ("rounds", .array (summary.rounds.map roundJson)),
    ("baseline-failures", namesJson summary.baselineFailures),
    ("aggregate-failures", namesJson summary.aggregateFailures),
    ("non-retried", namesJson summary.nonRetried)]

end RunSummary

/-! ## Reading -/

inductive SummaryError
  | json
  | io (cause : IoError)
deriving DecidableEq

def SummaryError.message : SummaryError → String
  | .json => "parsing flakehunt summary JSON failed"
  | .io _ => "reading flakehunt summary failed"

namespace RunSummary

open Json (Raw)

/-- The fields of an object; every key must be text. -/
def fieldsOf? : Raw → Option (List (Option String × Raw))
  | .object fields => if fields.all fun f => f.1.isSome then some fields else none
  | _ => none

/-- The items of an array, one for each name; the last `optional` names may have none. -/
def positional? (names : List String) (optional : Nat) :
    Raw → Option (List (Option String × Raw))
  | .array items =>
    if items.length ≤ names.length ∧ names.length ≤ items.length + optional then
      some ((names.map some).zip items)
    else none
  | _ => none

/-- The fields of a record that is written as an object or as an array. -/
def recordFields? (names : List String) (optional : Nat) (raw : Raw) :
    Option (List (Option String × Raw)) :=
  (fieldsOf? raw).or (positional? names optional raw)

def names? (raw : Raw) : Option (OrderedSet String) := (Raw.strings? raw).map .ofList

def status? (room : Nat) (raw : Raw) : Option SummaryStatus :=
  if !raw.buildable room then none
  else
    match raw with
    | .object fields => do
      let kind ← Raw.field? "kind" Raw.string? fields
      match kind with
      | "completed" => some .completed
      | "aborted" => return .aborted (← Raw.field? "simulated" Raw.bool? fields)
      | _ => none
    | .array [.string (some "completed")] => some .completed
    | .array [.string (some "aborted"), simulated] => simulated.bool?.map .aborted
    | _ => none

def roundFieldNames : List String := ["execution-id", "index", "seed", "failed", "passed-count"]

def round? (raw : Raw) : Option RoundSummary := do
  let fields ← recordFields? roundFieldNames 0 raw
  return {
    executionId := ← Raw.field? "execution-id" Raw.string? fields
    index := ← Raw.fieldOr? "index" none (Raw.optional? (Raw.unsigned? 64)) fields
    seed := ← Raw.fieldOr? "seed" none (Raw.optional? (Raw.unsigned? 64)) fields
    failed := ← Raw.field? "failed" names? fields
    passedCount := ← Raw.field? "passed-count" (Raw.unsigned? 64) fields }

def rounds? : Raw → Option (List RoundSummary)
  | .array items => items.mapM round?
  | _ => none

def runFieldNames : List String :=
  ["run-id", "base-seed", "max-rounds", "status", "baseline", "rounds", "baseline-failures",
    "aggregate-failures", "non-retried"]

def ofRaw? (raw : Raw) : Option RunSummary := do
  let fields ← recordFields? runFieldNames 1 raw
  return {
    runId := ← Raw.field? "run-id" Raw.string? fields
    baseSeed := ← Raw.field? "base-seed" (Raw.unsigned? 64) fields
    maxRounds := ← Raw.field? "max-rounds" (Raw.unsigned? 32) fields
    status := ← Raw.field? "status" (status? (Raw.nestingLimit - 1)) fields
    baseline := ← Raw.field? "baseline" round? fields
    rounds := ← Raw.field? "rounds" rounds? fields
    baselineFailures := ← Raw.field? "baseline-failures" names? fields
    aggregateFailures := ← Raw.field? "aggregate-failures" names? fields
    nonRetried := ← Raw.fieldOr? "non-retried" .empty names? fields }

def ofText (text : String) : Except SummaryError RunSummary :=
  match (Raw.ofText? text).bind ofRaw? with
  | some summary => .ok summary
  | none => .error .json

/-- The summary in what reading a file gave. -/
def ofFile : Except IoError String → Except SummaryError RunSummary
  | .ok text => ofText text
  | .error cause => .error (.io cause)

end RunSummary

end Flaky
