-- SUMMARY: Retry filters: four lists of globs over class and annotation names, how they are compiled, and which tests they select.
import Flaky.Glob.Language
import Flaky.TestId

/-!
# Retry filters

A filter says which failed tests may be retried under perturbation. A test is
selected if no exclude pattern matches it and, unless there are no include
patterns at all, some include pattern does.
-/

namespace Flaky

/-! ## Patterns -/

/-- The four lists of patterns. -/
inductive FilterList
  | includeClasses
  | includeAnnotations
  | excludeClasses
  | excludeAnnotations
deriving DecidableEq

def FilterList.name : FilterList → String
  | .includeClasses => "include-classes"
  | .includeAnnotations => "include-annotations"
  | .excludeClasses => "exclude-classes"
  | .excludeAnnotations => "exclude-annotations"

/-- The order in which lists are compiled and shown. -/
def FilterList.all : List FilterList :=
  [.includeClasses, .includeAnnotations, .excludeClasses, .excludeAnnotations]

structure FilterPatterns where
  includeClasses : List String
  includeAnnotations : List String
  excludeClasses : List String
  excludeAnnotations : List String
deriving DecidableEq

namespace FilterPatterns

def empty : FilterPatterns := ⟨[], [], [], []⟩

def list (patterns : FilterPatterns) : FilterList → List String
  | .includeClasses => patterns.includeClasses
  | .includeAnnotations => patterns.includeAnnotations
  | .excludeClasses => patterns.excludeClasses
  | .excludeAnnotations => patterns.excludeAnnotations

def isEmpty (patterns : FilterPatterns) : Bool :=
  FilterList.all.all fun kind => (patterns.list kind).isEmpty

end FilterPatterns

/-! ## Filters -/

/-- Compiled patterns, and the patterns they were compiled from. -/
structure Filter where
  patterns : FilterPatterns
  includeClasses : List Glob
  includeAnnotations : List Glob
  excludeClasses : List Glob
  excludeAnnotations : List Glob

/-- The first pattern that does not compile. -/
structure FilterError where
  list : FilterList
  pattern : String
  cause : Glob.ReadError
deriving DecidableEq

namespace FilterError

def message (e : FilterError) : String := s!"invalid pattern `{e.pattern}` in {e.list.name}"

/-- The message and what caused it, outermost first. -/
def chain (e : FilterError) : List String :=
  [e.message, "invalid glob", s!"error parsing glob '{e.pattern}': {e.cause.message}"]

end FilterError

namespace Filter

def compileList (kind : FilterList) : List String → Except FilterError (List Glob)
  | [] => .ok []
  | pattern :: rest =>
    match Glob.ofText pattern with
    | .error cause => .error ⟨kind, pattern, cause⟩
    | .ok glob => (compileList kind rest).map (glob :: ·)

def compile (patterns : FilterPatterns) : Except FilterError Filter := do
  let includeClasses ← compileList .includeClasses patterns.includeClasses
  let includeAnnotations ← compileList .includeAnnotations patterns.includeAnnotations
  let excludeClasses ← compileList .excludeClasses patterns.excludeClasses
  let excludeAnnotations ← compileList .excludeAnnotations patterns.excludeAnnotations
  return ⟨patterns, includeClasses, includeAnnotations, excludeClasses, excludeAnnotations⟩

/-- The filter that selects every test. -/
def everything : Filter := ⟨.empty, [], [], [], []⟩

def matchesAny (globs : List Glob) (names : List String) : Bool :=
  names.any fun name => globs.any (·.matchesName name)

def excludes (filter : Filter) (test : Test) : Bool :=
  matchesAny filter.excludeClasses [test.id.className] ||
    matchesAny filter.excludeAnnotations test.annotations

def includes (filter : Filter) (test : Test) : Bool :=
  (filter.includeClasses.isEmpty && filter.includeAnnotations.isEmpty) ||
    matchesAny filter.includeClasses [test.id.className] ||
    matchesAny filter.includeAnnotations test.annotations

def selects (filter : Filter) (test : Test) : Bool := !filter.excludes test && filter.includes test

end Filter

end Flaky
