-- SUMMARY: Events that an engine prints, one JSON object a line, and how an engine's output is read.
import Flaky.Failure
import Flaky.Json.Decode
import Flaky.TestId
import Flaky.Text.Blank
import Flaky.Text.Lines

/-!
# Engine events

An engine reports on its standard output. Every line whose first character
after white space is `{` is an event: a JSON object with the kind of event under
`event`. All other lines are ordinary output. Reading ends at the first event
that says the round is over, or that cannot be read.
-/

namespace Flaky

/-! ## Reports and events -/

/-- What an engine says about one test. -/
inductive Report
  | passed (test : Test)
  | failed (test : Test) (kind : FailureKind) (message : Option String)
  | skipped (test : Test)
deriving DecidableEq

def Report.test : Report → Test
  | .passed test | .failed test _ _ | .skipped test => test

inductive EngineEvent
  | report (report : Report)
  | aborted (reason : String)
  | finished
deriving DecidableEq

namespace EngineEvent

open Json (Raw)

def tagKey : String := "event"

/-- The test that an event is about; fields that say nothing of it are passed over. -/
def testOf? (fields : List (Option String × Raw)) : Option Test := do
  let className ← Raw.field? "class" Raw.string? fields
  let method ← Raw.field? "method" Raw.string? fields
  let annotations ← Raw.fieldOr? "annotations" [] Raw.strings? fields
  return ⟨⟨className, method⟩, annotations⟩

/-- The contents of a variant that has none, inside an event. -/
def isVoid : Raw → Bool
  | .null => true
  | .object [] => true
  | _ => false

/-- The event that a kind and the other fields make. -/
def ofFields? (kind : String) (fields : List (Option String × Raw)) : Option EngineEvent :=
  match kind with
  | "passed" => do return .report (.passed (← testOf? fields))
  | "skipped" => do return .report (.skipped (← testOf? fields))
  | "failed" => do
    let test ← testOf? fields
    let cause ← Raw.fieldOr? "kind" .assertion (Raw.variant? isVoid FailureKind.ofName?) fields
    let message ← Raw.fieldOr? "message" none (Raw.optional? Raw.string?) fields
    return .report (.failed test cause message)
  | "aborted" => do return .aborted (← Raw.field? "reason" Raw.string? fields)
  | "finished" => some .finished
  | _ => none

/-- The event that a JSON text says. -/
def ofRaw? (raw : Raw) : Option EngineEvent :=
  match raw with
  | .object fields =>
    if raw.buildable Raw.nestingLimit then
      (Raw.field? tagKey Raw.string? fields).bind fun kind =>
        ofFields? kind (fields.filter fun f => f.1 ≠ some tagKey)
    else none
  | _ => none

def ofLine? (line : List Char) : Option EngineEvent := (Raw.ofChars? line).bind ofRaw?

end EngineEvent

/-! ## Output -/

/-- How reading an engine's output ended. -/
inductive OutputEnd
  /-- The engine said that it finished. -/
  | finished
  /-- The output ended without an event that ends the round. -/
  | unfinished
  | aborted (reason : String)
  /-- An event cannot be read. -/
  | malformed (lineNumber : Nat) (line : String)
deriving DecidableEq

namespace EngineOutput

def isEventLine (line : List Char) : Bool := line.head? == some '\x7b'

/-- Read trimmed lines, the first of which has number `n`. -/
def readLines : (n : Nat) → List (List Char) → List Report × OutputEnd
  | _, [] => ([], .unfinished)
  | n, line :: rest =>
    if isEventLine line then
      match EngineEvent.ofLine? line with
      | none => ([], .malformed n (String.ofList line))
      | some .finished => ([], .finished)
      | some (.aborted reason) => ([], .aborted reason)
      | some (.report report) =>
        let (reports, ending) := readLines (n + 1) rest
        (report :: reports, ending)
    else readLines (n + 1) rest

/-- The reports that an output delivers, and how it ends. -/
def read (output : String) : List Report × OutputEnd :=
  readLines 1 ((Text.lines output.toList).map Text.trim)

end EngineOutput

end Flaky
