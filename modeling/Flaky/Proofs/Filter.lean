-- SUMMARY: Which tests a filter selects, said of its patterns and of the words that they spell.
import Flaky.Filter
import Flaky.Proofs.Glob.Spelling
import Flaky.Proofs.Glob.Words

/-!
# Selected tests

A filter keeps its patterns as globs. What it selects is said here of the patterns
themselves: a pattern takes a name if it spells tokens of which the bytes of the
name are a word. Filters of spelled patterns compile, and select the tests that no
exclude pattern takes and, if there are include patterns, some include pattern does.
-/

namespace Flaky

/-! ## Patterns -/

namespace Glob

/-- A pattern is spelled: it has no classes and no two adjacent stars, and its braces match. -/
def IsSpelled (pattern : String) : Prop := ∃ tokens, Spelled (.tokens false tokens) pattern.toList

/-- A pattern takes a name, whose bytes are a word of what the pattern spells. -/
def Takes (pattern name : String) : Prop :=
  ∃ tokens, Spelled (.tokens false tokens) pattern.toList ∧
    Utf8.bytes name ∈ GlobToken.wordsOfAll tokens

section

variable {tokens : List GlobToken} {text : List Char} {pattern name : String} {glob : Glob}

/-- Two stars alone are not spelled. -/
theorem Spelled.isRecursive (h : Spelled (.tokens false tokens) text) :
    isRecursive tokens = false := by
  cases h <;> rfl

/-- The glob of a spelled pattern matches the names that the pattern takes. -/
theorem matchesName_iff (hspelled : IsSpelled pattern) (hglob : ofText pattern = .ok glob) :
    glob.matchesName name = true ↔ Takes pattern name := by
  obtain ⟨tokens, h⟩ := hspelled
  obtain rfl := Except.ok.inj ((ofText_spelled h).symm.trans hglob)
  rw [matchesName, matchesBytes_iff, words, h.isRecursive, if_neg Bool.false_ne_true]
  constructor
  · exact fun hword => ⟨tokens, h, hword⟩
  · rintro ⟨tokens', h', hword⟩
    rwa [← h.unique h']

end

end Glob

/-! ## Lists of patterns -/

namespace Filter

variable {kind : FilterList} {patterns : List String} {globs : List Glob} {names : List String}

/-- A list compiles into the globs of its patterns, each in its place. -/
theorem compileList_eq_ok_iff : compileList kind patterns = .ok globs ↔
    List.Forall₂ (fun pattern glob => Glob.ofText pattern = .ok glob) patterns globs := by
  induction patterns generalizing globs with
  | nil => rw [compileList, List.forall₂_nil_left_iff, Except.ok.injEq, eq_comm]
  | cons pattern rest ih =>
    rw [compileList, List.forall₂_cons_left_iff]
    cases hglob : Glob.ofText pattern with
    | error cause => simp
    | ok glob =>
      simp only [Except.ok.injEq, ← ih]
      cases compileList kind rest with
      | error e => simp [Except.map]
      | ok others => simp [Except.map, eq_comm]

theorem exists_compileList (h : ∀ pattern ∈ patterns, Glob.IsSpelled pattern) :
    ∃ globs, compileList kind patterns = .ok globs := by
  induction patterns with
  | nil => exact ⟨[], rfl⟩
  | cons pattern rest ih =>
    obtain ⟨⟨tokens, hpattern⟩, hrest⟩ := List.forall_mem_cons.mp h
    obtain ⟨globs, hglobs⟩ := ih hrest
    exact ⟨⟨tokens⟩ :: globs, compileList_eq_ok_iff.mpr
      (.cons (Glob.ofText_spelled hpattern) (compileList_eq_ok_iff.mp hglobs))⟩

theorem isEmpty_of_compileList (h : compileList kind patterns = .ok globs) :
    globs.isEmpty = true ↔ patterns = [] := by
  cases compileList_eq_ok_iff.mp h <;> simp

/-- A name matches one of a list's globs exactly if one of its patterns takes the name. -/
theorem matchesAny_iff (hspelled : ∀ pattern ∈ patterns, Glob.IsSpelled pattern)
    (h : compileList kind patterns = .ok globs) :
    matchesAny globs names = true ↔
      ∃ pattern ∈ patterns, ∃ name ∈ names, Glob.Takes pattern name := by
  have matching : ∀ name, globs.any (·.matchesName name) = true ↔
      ∃ pattern ∈ patterns, Glob.Takes pattern name := by
    intro name
    have hglobs := compileList_eq_ok_iff.mp h
    clear h
    induction hglobs with
    | nil => simp
    | cons hglob _ ih =>
      obtain ⟨hpattern, hrest⟩ := List.forall_mem_cons.mp hspelled
      rw [List.any_cons, Bool.or_eq_true, List.exists_mem_cons_iff]
      exact or_congr (Glob.matchesName_iff hpattern hglob) (ih hrest)
  simp only [matchesAny, List.any_eq_true, matching]
  exact ⟨fun ⟨name, hname, pattern, hpattern, htakes⟩ => ⟨pattern, hpattern, name, hname, htakes⟩,
    fun ⟨pattern, hpattern, name, hname, htakes⟩ => ⟨name, hname, pattern, hpattern, htakes⟩⟩

end Filter

/-! ## Filters -/

/-- Patterns select a test: none that excludes takes its class or an annotation of it, and unless
    none includes, one that does takes its class or an annotation of it. -/
structure FilterPatterns.Select (patterns : FilterPatterns) (test : Test) : Prop where
  classKept : ∀ pattern ∈ patterns.excludeClasses, ¬ Glob.Takes pattern test.id.className
  annotationsKept : ∀ pattern ∈ patterns.excludeAnnotations, ∀ annotation ∈ test.annotations,
    ¬ Glob.Takes pattern annotation
  included : (patterns.includeClasses = [] ∧ patterns.includeAnnotations = []) ∨
    (∃ pattern ∈ patterns.includeClasses, Glob.Takes pattern test.id.className) ∨
    ∃ pattern ∈ patterns.includeAnnotations, ∃ annotation ∈ test.annotations,
      Glob.Takes pattern annotation

theorem FilterPatterns.select_iff {patterns : FilterPatterns} {test : Test} :
    patterns.Select test ↔
      (¬ ∃ pattern ∈ patterns.excludeClasses, ∃ name ∈ [test.id.className],
        Glob.Takes pattern name) ∧
      (¬ ∃ pattern ∈ patterns.excludeAnnotations, ∃ name ∈ test.annotations,
        Glob.Takes pattern name) ∧
      (((patterns.includeClasses = [] ∧ patterns.includeAnnotations = []) ∨
        ∃ pattern ∈ patterns.includeClasses, ∃ name ∈ [test.id.className],
          Glob.Takes pattern name) ∨
        ∃ pattern ∈ patterns.includeAnnotations, ∃ name ∈ test.annotations,
          Glob.Takes pattern name) := by
  constructor
  · rintro ⟨classKept, annotationsKept, included⟩
    exact ⟨by simpa using classKept, by simpa using annotationsKept,
      by simpa [or_assoc] using included⟩
  · rintro ⟨classKept, annotationsKept, included⟩
    exact ⟨by simpa using classKept, by simpa using annotationsKept,
      by simpa [or_assoc] using included⟩

/-- A filter of spelled patterns compiles, and selects what its patterns select. -/
theorem Filter.compile_selects {patterns : FilterPatterns}
    (h : ∀ kind, ∀ pattern ∈ patterns.list kind, Glob.IsSpelled pattern) :
    ∃ filter, Filter.compile patterns = .ok filter ∧
      ∀ test, filter.selects test = true ↔ patterns.Select test := by
  obtain ⟨includeClasses, hic⟩ := @exists_compileList .includeClasses _ (h .includeClasses)
  obtain ⟨includeAnnotations, hia⟩ :=
    @exists_compileList .includeAnnotations _ (h .includeAnnotations)
  obtain ⟨excludeClasses, hec⟩ := @exists_compileList .excludeClasses _ (h .excludeClasses)
  obtain ⟨excludeAnnotations, hea⟩ :=
    @exists_compileList .excludeAnnotations _ (h .excludeAnnotations)
  refine ⟨⟨patterns, includeClasses, includeAnnotations, excludeClasses, excludeAnnotations⟩,
    ?_, fun test => ?_⟩
  · simp only [FilterPatterns.list] at hic hia hec hea
    rw [compile, hic, hia, hec, hea]
    rfl
  · simp only [selects, excludes, includes, Bool.and_eq_true, Bool.not_eq_true',
      Bool.or_eq_false_iff, Bool.or_eq_true]
    rw [FilterPatterns.select_iff, and_assoc]
    simp only [← Bool.not_eq_true]
    rw [matchesAny_iff (h .excludeClasses) hec, matchesAny_iff (h .excludeAnnotations) hea,
      matchesAny_iff (h .includeClasses) hic, matchesAny_iff (h .includeAnnotations) hia,
      isEmpty_of_compileList hic, isEmpty_of_compileList hia]
    rfl

theorem Filter.compile_selects_nested :
    (∀ kind, ∀ pattern ∈ FilterPatterns.list ⟨["a{b,{*,}}?"], [], [], ["\\"]⟩ kind,
      Glob.IsSpelled pattern) ∧
    ∃ filter, Filter.compile ⟨["a{b,{*,}}?"], [], [], ["\\"]⟩ = .ok filter ∧
      ∀ test, filter.selects test = true ↔
        FilterPatterns.Select ⟨["a{b,{*,}}?"], [], [], ["\\"]⟩ test := by
  have inner : Glob.Spelled (.branches [[.star], []]) ['*', ','] :=
    .branch (.star (by decide) .nil) (.last .nil)
  have outer : Glob.Spelled (.branches [[.literal 'b'], [.alternates [[.star], []]]])
      ['b', ',', '{', '*', ',', '}'] :=
    .branch (.literal (by decide) (by decide) .nil) (.last (.alternates inner .nil))
  have nested : Glob.IsSpelled "a{b,{*,}}?" :=
    ⟨_, .literal (c := 'a') (by decide) nofun (.alternates outer (.any .nil))⟩
  have backslash : Glob.IsSpelled "\\" := ⟨_, .literal (c := '\\') (by decide) nofun .nil⟩
  have spelled : ∀ kind, ∀ pattern ∈ FilterPatterns.list ⟨["a{b,{*,}}?"], [], [], ["\\"]⟩ kind,
      Glob.IsSpelled pattern := by
    rintro ⟨⟩
    · exact List.forall_mem_singleton.mpr nested
    · exact nofun
    · exact nofun
    · exact List.forall_mem_singleton.mpr backslash
  exact ⟨spelled, Filter.compile_selects spelled⟩

end Flaky
