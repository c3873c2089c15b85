-- SUMMARY: The progress that a run shows: a line or more for each event, in words and colours.
import Flaky.Run.Event
import Flaky.Text.Terminal

/-!
# Progress

Every line starts with a label that is set flush right in twelve columns.
Events of lesser weight are shown only if the output is to be verbose.
-/

namespace Flaky.Progress

open Flaky.Text (Style)

/-- How progress is shown. -/
structure Options where
  verbose : Bool
  colored : Bool
deriving DecidableEq

/-! ## Styles -/

/-- What a piece of text stands for. -/
inductive Role
  | count
  | pass
  | recovered
  | fail
  | abort
  | seed
deriving DecidableEq

def Role.style : Role → Style
  | .count => .bolded
  | .pass => .boldColor .green
  | .recovered => .boldColor .magenta
  | .fail => .boldColor .red
  | .abort => .boldColor .yellow
  | .seed => .boldColor .blue

def paint (options : Options) (role : Role) (text : String) : String :=
  if options.colored then role.style.apply text else text

/-- A label, flush right in twelve columns, and the blank after it. -/
def label (options : Options) (role : Role) (text : String) : String :=
  paint options role (String.ofList (List.replicate (12 - text.length) ' ') ++ text) ++ " "

/-! ## Events -/

def roundName (options : Options) (round : Round) : String :=
  match round.seeding with
  | none => "baseline"
  | some seeding =>
    s!"seed {seeding.index} (" ++ paint options .seed seeding.seed.text ++ ")"

/-- A count that is shown only if there is something to count. -/
def noted (options : Options) (role : Role) (count : Nat) (word : String) : String :=
  if count = 0 then "" else ", " ++ paint options role (toString count) ++ " " ++ word

/-- The style of a count of things that should not be. -/
def faultRole (count : Nat) : Role := if count = 0 then .count else .fail

def summaryRole : RunStatus → (flaky : Nat) → Role
  | .aborted _, _ => .abort
  | .completed, 0 => .pass
  | .completed, _ => .fail

/-- The text that an event shows. -/
def eventText (options : Options) : RunEvent → String
  | .runStarted runId maxRounds baseSeed =>
    label options .pass "Flakehunt" ++ "run ID " ++ paint options .count runId.text ++
      if maxRounds = 0 then ": single unperturbed execution\n"
      else
        ": up to " ++ paint options .count (toString maxRounds) ++ " seeded " ++
          Text.rounds maxRounds ++ ", base seed " ++ paint options .seed baseSeed.text ++ "\n"
  | .instrumentationReady directory =>
    if options.verbose then
      label options .pass "Instrumented" ++ s!"artifacts in {directory}\n"
    else ""
  | .roundStarted round maxRounds =>
    if options.verbose then
      let position :=
        match round.index? with
        | none => ""
        | some index => s!" [{index + 1}/{maxRounds}]"
      label options .pass "Starting" ++ roundName options round ++ position ++ "\n"
    else ""
  | .roundFinished record result =>
    let failed := record.failed.size
    label options (if failed = 0 then .pass else .fail) "Finished" ++
      roundName options record.round ++ ": " ++
      paint options .count (toString record.passed.size) ++ " passed, " ++
      paint options (faultRole failed) (toString failed) ++ " failed" ++
      noted options .recovered record.recovered.size "recovered" ++
      noted options .abort result.nonRetried.size "not retried" ++ "\n"
  | .runAborted reason => label options .abort "Aborted" ++ reason.message ++ "\n"
  | .artifactWritten artifact path =>
    if options.verbose then label options .pass "Wrote" ++ s!"{artifact.name} to {path}\n" else ""
  | .artifactFailed artifact path error =>
    label options .abort "Warning" ++
      s!"could not write {artifact.name} to {path}: {error.chain}\n"
  | .runFinished _ status roundsRun baselineFailures flaky =>
    label options (summaryRole status flaky.size) "Summary" ++
      paint options .count (toString roundsRun) ++ " seeded " ++ Text.rounds roundsRun ++
      " run, " ++ paint options .count (toString baselineFailures.size) ++ " baseline " ++
      Text.failures baselineFailures.size ++ ", " ++
      paint options (faultRole flaky.size) (toString flaky.size) ++ " flaky " ++
      Text.tests flaky.size ++ "\n" ++
      String.join (flaky.toList.map fun id => label options .fail "FLAKY" ++ id.text ++ "\n")

/-- The text that a list of events shows. -/
def text (options : Options) (events : List RunEvent) : String :=
  String.join (events.map (eventText options))

end Flaky.Progress
