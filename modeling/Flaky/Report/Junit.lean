-- SUMMARY: The JUnit report of a finished run: one suite for each round, one case for each test.
import Flaky.Report
import Flaky.Text.Terminal

/-!
# JUnit reports

Every round is a test suite. The cases of a suite are in the order of their
tests, and a test that failed is a failing case whether or not the baseline has
the failure too.
-/

namespace Flaky

/-! ## Suites -/

inductive CaseStatus
  | success
  | failure (message : Option String)
deriving DecidableEq

structure JunitCase where
  test : TestId
  status : CaseStatus
deriving DecidableEq

structure JunitSuite where
  name : String
  properties : List (String × String)
  cases : List JunitCase
deriving DecidableEq

namespace RoundRecord

/-- What the cases of a record's own failures say. -/
def failureMessage (record : RoundRecord) : Option String :=
  if record.round.isBaseline then some "failed without perturbation" else none

/-- The failures of the round alone, those that the baseline has too, and the passes, in the order of
    their tests. -/
def junitCases (record : RoundRecord) : List JunitCase :=
  let failed := record.failed.toList.map (⟨·, .failure record.failureMessage⟩)
  let alsoFailed := record.alsoFailedInBaseline.toList.map
    (⟨·, .failure (some "also failed without perturbation")⟩)
  let passed := record.passed.toList.map (⟨·, .success⟩)
  (failed ++ alsoFailed ++ passed).mergeSort fun a b => (compare a.test b.test).isLE

def junitSuite (record : RoundRecord) : JunitSuite :=
  { name := record.round.name
    properties := ("execution-id", record.round.id.text) ::
      (record.round.seed?.map fun seed => ("seed", seed.text)).toList
    cases := record.junitCases }

end RoundRecord

namespace JunitCase

def isFailure (c : JunitCase) : Bool :=
  match c.status with
  | .success => false
  | .failure _ => true

end JunitCase

def JunitSuite.failures (suite : JunitSuite) : Nat := (suite.cases.filter (·.isFailure)).length

/-! ## XML text -/

namespace Junit

def escape (c : Char) : List Char :=
  match c with
  | '<' => "&lt;".toList
  | '>' => "&gt;".toList
  | '&' => "&amp;".toList
  | '"' => "&quot;".toList
  | '\'' => "&apos;".toList
  | c => [c]

/-- A value as it stands between quotes: without controls, and escaped. -/
def value (text : String) : String := String.ofList ((Text.stripControls text.toList).flatMap escape)

def attributes (pairs : List (String × String)) : String :=
  String.join (pairs.map fun (key, text) => s!" {key}=\"{value text}\"")

/-- A line at a depth, four blanks for each level. -/
def line (depth : Nat) (text : String) : String :=
  String.ofList (List.replicate (4 * depth) ' ') ++ text ++ "\n"

/-- An element without contents. -/
def void (depth : Nat) (name : String) (pairs : List (String × String)) : String :=
  line depth s!"<{name}{attributes pairs}/>"

/-- An element with contents. -/
def element (depth : Nat) (name : String) (pairs : List (String × String)) (contents : String) :
    String :=
  line depth s!"<{name}{attributes pairs}>" ++ contents ++ line depth s!"</{name}>"

def caseText (c : JunitCase) : String :=
  element 2 "testcase" [("name", c.test.method), ("classname", c.test.className)] <|
    match c.status with
    | .success => ""
    | .failure none => void 3 "failure" []
    | .failure (some message) => void 3 "failure" [("message", message)]

def suiteText (suite : JunitSuite) : String :=
  element 1 "testsuite"
    [("name", suite.name), ("tests", toString suite.cases.length), ("disabled", "0"),
      ("errors", "0"), ("failures", toString suite.failures)] <|
    element 2 "properties" []
      (String.join (suite.properties.map fun (name, text) =>
        void 3 "property" [("name", name), ("value", text)])) ++
    String.join (suite.cases.map caseText)

/-- Milliseconds as seconds with three decimals. -/
def secondsText (milliseconds : Nat) : String :=
  toString (milliseconds / 1000) ++ "." ++ Flaky.Text.padded 3 (milliseconds % 1000)

def suites (run : FinishedRun) : List JunitSuite := run.records.map (·.junitSuite)

def text (run : FinishedRun) : String :=
  let all := suites run
  "<?xml version=\"1.0\" encoding=\"UTF-8\"?>\n" ++
    element 0 "testsuites"
      [("name", "flakehunt-run"), ("tests", toString ((all.map (·.cases.length)).foldr (· + ·) 0)),
        ("failures", toString ((all.map (·.failures)).foldr (· + ·) 0)), ("errors", "0"),
        ("uuid", run.runId.text), ("timestamp", run.startedAt.text),
        ("time", secondsText run.elapsed)]
      (String.join (all.map suiteText))

end Junit

end Flaky
