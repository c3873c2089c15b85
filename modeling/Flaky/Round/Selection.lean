-- SUMMARY: What an engine is asked to execute in a round, and the parameters that tell it so.
import Flaky.Filter
import Flaky.Round

/-!
# Selections

A selection is a round with the retry filter. The baseline executes every test,
a seeded round those that the filter selects. A worker process learns of the
selection through named parameters.
-/

namespace Flaky

abbrev Parameter := String × String

namespace Round

/-- The parameters that hold of the round alone. -/
def parameters (round : Round) : List Parameter :=
  [("FLAKEHUNT_EXECUTION_ID", round.id.text),
    ("FLAKEHUNT_OUTPUT_DIR", round.outputDirectory),
    ("FLAKEHUNT_ARTIFACT_DIR", round.artifactDirectory)] ++
  match round.seeding with
  | none => [("FLAKEHUNT_PERTURB", "0")]
  | some ⟨_, seed, perturbation⟩ =>
    [("FLAKEHUNT_PERTURB", "1"), ("FLAKEHUNT_SEED", seed.text),
      ("FLAKEHUNT_MODE", perturbation.mode.name)] ++
    (match perturbation.testNames with
      | none => []
      | some pattern => [("FLAKEHUNT_FILTER", pattern)]) ++
    match perturbation.range with
      | none => []
      | some range =>
        [("FLAKEHUNT_RANGE_START", toString range.start.toNat),
          ("FLAKEHUNT_RANGE_END", toString range.stop.toNat)]

end Round

/-- The parameter under which a list of patterns is passed on. -/
def FilterList.parameter : FilterList → String
  | .includeClasses => "FLAKEHUNT_INCLUDE_CLASSES"
  | .includeAnnotations => "FLAKEHUNT_INCLUDE_ANNOTATIONS"
  | .excludeClasses => "FLAKEHUNT_EXCLUDE_CLASSES"
  | .excludeAnnotations => "FLAKEHUNT_EXCLUDE_ANNOTATIONS"

/-- The lists of a filter that hold patterns, one pattern a line. -/
def FilterPatterns.parameters (patterns : FilterPatterns) : List Parameter :=
  FilterList.all.filterMap fun kind =>
    match patterns.list kind with
    | [] => none
    | list => some (kind.parameter, String.intercalate "\n" list)

structure Selection where
  round : Round
  filter : Filter

namespace Selection

/-- Whether a test is to be executed. -/
def includes (selection : Selection) (test : Test) : Bool :=
  selection.round.isBaseline || selection.filter.selects test

def parameters (selection : Selection) : List Parameter :=
  selection.round.parameters ++
    if selection.round.isBaseline then [] else selection.filter.patterns.parameters

end Selection

end Flaky
