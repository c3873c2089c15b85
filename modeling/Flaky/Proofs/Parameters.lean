-- SUMMARY: The parameters of a selection tell a worker all of it: the round, its seed and perturbation, and the patterns of the filter unless one holds a line feed.
import Flaky.Proofs.Decimal
import Flaky.Proofs.Lines
import Flaky.Proofs.RunLog
import Flaky.Round.Selection
import Mathlib.Data.List.Basic

/-!
# Parameters of workers

A worker sees nothing of a selection but named parameters. No name is given
twice, so a parameter is found by its name, and what a parameter says is read
back from its text. Patterns are told one a line: a list of them is recovered
exactly if no pattern is itself made of several lines.
-/

namespace Flaky

/-! ## Looking up -/

section

variable {κ β : Type} [DecidableEq κ] {key : κ} {entries : List (κ × β)}

theorem lookup_of_key_not_mem (h : key ∉ entries.map (·.1)) : entries.lookup key = none := by
  rw [List.lookup_eq_none_iff]
  intro entry hentry
  rw [bne_iff_ne]
  rintro rfl
  exact h (List.mem_map_of_mem hentry)

theorem lookup_of_mem {value : β} (hkeys : (entries.map (·.1)).Nodup)
    (h : (key, value) ∈ entries) : entries.lookup key = some value := by
  induction entries with
  | nil => exact absurd h List.not_mem_nil
  | cons entry rest ih =>
    rw [List.map_cons, List.nodup_cons] at hkeys
    rcases List.mem_cons.mp h with rfl | hrest
    · rw [List.lookup_cons_self]
    · have hne : key ≠ entry.1 := by
        intro heq
        exact hkeys.1 (heq ▸ List.mem_map_of_mem hrest)
      rw [List.lookup_cons, beq_false_of_ne hne]
      exact ih hkeys.2 hrest

end

/-! ## Names of parameters -/

/-- The names of the parameters of a baseline. -/
def Round.plainKeys : List String :=
  ["FLAKEHUNT_EXECUTION_ID", "FLAKEHUNT_OUTPUT_DIR", "FLAKEHUNT_ARTIFACT_DIR", "FLAKEHUNT_PERTURB"]

/-- The names of the parameters that only seeded rounds have. -/
def Round.seedingKeys : List String :=
  ["FLAKEHUNT_SEED", "FLAKEHUNT_MODE", "FLAKEHUNT_FILTER", "FLAKEHUNT_RANGE_START",
    "FLAKEHUNT_RANGE_END"]

/-- The names of the parameters of a filter. -/
def FilterList.keys : List String := all.map (·.parameter)

theorem FilterList.mem_all (kind : FilterList) : kind ∈ all := by cases kind <;> decide

theorem FilterList.parameter_injective : Function.Injective FilterList.parameter := by
  intro a b h
  cases a <;> cases b <;> first | rfl | exact absurd h (by decide)

/-! ## Patterns -/

namespace FilterPatterns

variable {patterns : FilterPatterns}

/-- The value of the parameter for a list of patterns. -/
def value? (patterns : FilterPatterns) (kind : FilterList) : Option String :=
  match patterns.list kind with
  | [] => none
  | list => some (String.intercalate "\n" list)

/-- No pattern has a line feed in it. -/
def OneLine (patterns : FilterPatterns) : Prop :=
  ∀ kind, ∀ pattern ∈ patterns.list kind, '\n' ∉ pattern.toList

theorem parameters_eq : patterns.parameters =
    FilterList.all.filterMap fun kind => (patterns.value? kind).map (kind.parameter, ·) := by
  unfold parameters value?
  refine List.filterMap_congr fun kind _ => ?_
  cases patterns.list kind <;> rfl

theorem mem_parameters {kind : FilterList} {text : String} :
    (kind.parameter, text) ∈ patterns.parameters ↔ patterns.value? kind = some text := by
  rw [parameters_eq, List.mem_filterMap]
  constructor
  · rintro ⟨other, -, h⟩
    obtain ⟨_, hvalue, hpair⟩ := Option.map_eq_some_iff.mp h
    obtain ⟨hkey, rfl⟩ := Prod.mk.inj hpair
    rw [← FilterList.parameter_injective hkey, hvalue]
  · intro h
    exact ⟨kind, kind.mem_all, by rw [h, Option.map_some]⟩

theorem keys_parameters :
    (patterns.parameters.map (·.1)).Sublist FilterList.keys := by
  have hkeys : patterns.parameters.map (·.1) =
      (FilterList.all.filter fun kind => (patterns.value? kind).isSome).map (·.parameter) := by
    rw [parameters_eq, List.map_filterMap, ← List.filterMap_eq_filter, List.map_filterMap]
    refine List.filterMap_congr fun kind _ => ?_
    cases h : patterns.value? kind <;> simp [Option.guard, h]
  rw [hkeys]
  exact List.filter_sublist.map _

theorem lookup_parameters (kind : FilterList) :
    patterns.parameters.lookup kind.parameter = patterns.value? kind := by
  cases h : patterns.value? kind with
  | some text => exact lookup_of_mem (keys_parameters.nodup (by decide)) (mem_parameters.mpr h)
  | none =>
    refine lookup_of_key_not_mem fun hkey => ?_
    obtain ⟨⟨_, text⟩, hentry, rfl⟩ := List.mem_map.mp hkey
    rw [mem_parameters.mp hentry] at h
    contradiction

end FilterPatterns

/-! ## Parameters of a round -/

namespace Round

variable {round : Round}

theorem keys_parameters :
    (round.parameters.map (·.1)).Sublist (plainKeys ++ seedingKeys) := by
  obtain ⟨uuid, seeding, runDirectory, artifactDirectory⟩ := round
  rcases seeding with _ | ⟨index, seed, mode, _ | pattern, _ | range⟩ <;>
    simp only [parameters, List.map_append, List.map_cons, List.map_nil] <;> decide

theorem keys_parameters_of_isBaseline (h : round.isBaseline) :
    round.parameters.map (·.1) = plainKeys := by
  have hseeding : round.seeding = none := Option.isNone_iff_eq_none.mp h
  simp only [parameters, hseeding]
  rfl

/-- What a seeded round perturbs its tests with. -/
def perturbing? (round : Round) : Option (Seed × Perturbation) :=
  round.seeding.map fun seeding => (seeding.seed, seeding.perturbation)

end Round

/-! ## Parameters of a selection -/

namespace Selection

variable {selection : Selection} {key : String}

theorem parameters_of_isBaseline (h : selection.round.isBaseline) :
    selection.parameters = selection.round.parameters := by
  rw [parameters, if_pos h, List.append_nil]

theorem parameters_of_seeded (h : selection.round.isBaseline = false) :
    selection.parameters = selection.round.parameters ++ selection.filter.patterns.parameters := by
  rw [parameters, h, if_neg Bool.false_ne_true]

theorem keys_parameters : (selection.parameters.map (·.1)).Sublist
    ((Round.plainKeys ++ Round.seedingKeys) ++ FilterList.keys) := by
  cases h : selection.round.isBaseline with
  | true =>
    rw [parameters_of_isBaseline h]
    exact Round.keys_parameters.trans (List.sublist_append_left _ _)
  | false =>
    rw [parameters_of_seeded h, List.map_append]
    exact Round.keys_parameters.append FilterPatterns.keys_parameters

theorem lookup_of_round (h : key ∉ FilterList.keys) :
    selection.parameters.lookup key = selection.round.parameters.lookup key := by
  cases hround : selection.round.isBaseline with
  | true => rw [parameters_of_isBaseline hround]
  | false =>
    have hfilter : selection.filter.patterns.parameters.lookup key = none :=
      lookup_of_key_not_mem fun hkey => h (FilterPatterns.keys_parameters.subset hkey)
    rw [parameters_of_seeded hround, List.lookup_append, hfilter, Option.or_none]

theorem lookup_of_filter (h : selection.round.isBaseline = false) (kind : FilterList) :
    selection.parameters.lookup kind.parameter = selection.filter.patterns.value? kind := by
  have hkey : kind.parameter ∉ Round.plainKeys ++ Round.seedingKeys := by cases kind <;> decide
  have hround : selection.round.parameters.lookup kind.parameter = none :=
    lookup_of_key_not_mem fun hmem => hkey (Round.keys_parameters.subset hmem)
  rw [parameters_of_seeded h, List.lookup_append, hround, Option.none_or,
    FilterPatterns.lookup_parameters]

end Selection

/-! ## What parameters tell -/

namespace Parameters

def executionId? (parameters : List Parameter) : Option ExecutionId :=
  (parameters.lookup "FLAKEHUNT_EXECUTION_ID").bind ExecutionId.ofText?

def outputDirectory? (parameters : List Parameter) : Option String :=
  parameters.lookup "FLAKEHUNT_OUTPUT_DIR"

def artifactDirectory? (parameters : List Parameter) : Option String :=
  parameters.lookup "FLAKEHUNT_ARTIFACT_DIR"

def perturbed? (parameters : List Parameter) : Option Bool :=
  (parameters.lookup "FLAKEHUNT_PERTURB").map (· == "1")

def word? (parameters : List Parameter) (key : String) : Option UInt64 :=
  (parameters.lookup key).bind fun text => (Text.nat? text.toList).map UInt64.ofNat

def range? (parameters : List Parameter) : Option PerturbationRange :=
  (word? parameters "FLAKEHUNT_RANGE_START").bind fun start =>
    (word? parameters "FLAKEHUNT_RANGE_END").bind fun stop =>
      PerturbationRange.ofBounds? start stop

/-- The seed and the perturbation; without the text that test names are to match, and without a
    range, where there are no parameters for these. -/
def perturbing? (parameters : List Parameter) : Option (Seed × Perturbation) :=
  (word? parameters "FLAKEHUNT_SEED").bind fun seed =>
    ((parameters.lookup "FLAKEHUNT_MODE").bind PerturbationMode.ofName?).map fun mode =>
      (⟨seed⟩, ⟨mode, parameters.lookup "FLAKEHUNT_FILTER", range? parameters⟩)

/-- The lines of a list's parameter; none if there is no such parameter. -/
def patternsOf (parameters : List Parameter) (kind : FilterList) : List String :=
  match parameters.lookup kind.parameter with
  | none => []
  | some text => (Text.splitAt '\n' text.toList).map String.ofList

def patterns (parameters : List Parameter) : FilterPatterns where
  includeClasses := patternsOf parameters .includeClasses
  includeAnnotations := patternsOf parameters .includeAnnotations
  excludeClasses := patternsOf parameters .excludeClasses
  excludeAnnotations := patternsOf parameters .excludeAnnotations

/-- Parameters tell a round and the patterns that tests of a seeded one are selected by. -/
structure Tell (parameters : List Parameter) (round : Round) (patterns : FilterPatterns) :
    Prop where
  keys : (parameters.map (·.1)).Nodup
  executionId : executionId? parameters = some round.id
  outputDirectory : outputDirectory? parameters = some round.outputDirectory
  artifactDirectory : artifactDirectory? parameters = some round.artifactDirectory
  perturbed : perturbed? parameters = some !round.isBaseline
  perturbing : perturbing? parameters = round.perturbing?
  /-- Patterns are told as they are unless one has several lines. -/
  patterns : round.isBaseline = false →
    (Parameters.patterns parameters = patterns ↔ patterns.OneLine)
  baseline : round.isBaseline = true →
    ∀ key ∈ Round.seedingKeys ++ FilterList.keys, key ∉ parameters.map (·.1)

end Parameters

/-! ## Reading back -/

theorem PerturbationMode.ofName?_name (mode : PerturbationMode) :
    ofName? mode.name = some mode := by
  cases mode <;> decide

namespace Parameters

variable {round : Round} {patterns : FilterPatterns} {parameters : List Parameter}

theorem word?_of_lookup {key : String} {word : UInt64}
    (h : parameters.lookup key = some (toString word.toNat)) :
    word? parameters key = some word := by
  rw [word?, h, Option.bind_some, Text.nat?_toString, Option.map_some, UInt64.ofNat_toNat]

theorem range?_of_lookup {range : Option PerturbationRange}
    (hstart : parameters.lookup "FLAKEHUNT_RANGE_START" =
      range.map fun range => toString range.start.toNat)
    (hstop : parameters.lookup "FLAKEHUNT_RANGE_END" =
      range.map fun range => toString range.stop.toNat) : range? parameters = range := by
  cases range with
  | none => rw [range?, word?, hstart]; rfl
  | some range =>
    rw [range?, word?_of_lookup hstart, Option.bind_some, word?_of_lookup hstop, Option.bind_some,
      PerturbationRange.ofBounds?, dif_pos range.start_le_stop]

theorem perturbing?_of_round : perturbing? round.parameters = round.perturbing? := by
  obtain ⟨uuid, seeding, runDirectory, artifactDirectory⟩ := round
  cases seeding with
  | none => rfl
  | some seeding =>
    obtain ⟨index, seed, mode, testNames, range⟩ := seeding
    generalize hround : Round.mk uuid (some ⟨index, seed, mode, testNames, range⟩) runDirectory
      artifactDirectory = round
    have hseed : round.parameters.lookup "FLAKEHUNT_SEED" = some (toString seed.word.toNat) := by
      subst hround; rfl
    have hmode : round.parameters.lookup "FLAKEHUNT_MODE" = some mode.name := by
      subst hround; rfl
    have hnames : round.parameters.lookup "FLAKEHUNT_FILTER" = testNames := by
      subst hround; cases testNames <;> cases range <;> rfl
    have hrange : range? round.parameters = range := by
      refine range?_of_lookup ?_ ?_ <;> subst hround <;> cases testNames <;> cases range <;> rfl
    rw [perturbing?, word?_of_lookup hseed, hmode, hnames, hrange, Option.bind_some,
      Option.bind_some, PerturbationMode.ofName?_name]
    subst hround
    rfl

/-- A list of patterns is recovered exactly if none of them has a line feed in it. -/
theorem patternsOf_iff {kind : FilterList}
    (h : parameters.lookup kind.parameter = patterns.value? kind) :
    patternsOf parameters kind = patterns.list kind ↔
      ∀ pattern ∈ patterns.list kind, '\n' ∉ pattern.toList := by
  rw [patternsOf, h, FilterPatterns.value?]
  cases hlist : patterns.list kind with
  | nil => simp
  | cons pattern rest =>
    have hchars : (String.intercalate "\n" (pattern :: rest)).toList =
        ['\n'].intercalate ((pattern :: rest).map String.toList) := String.toList_intercalate
    have hmap : ∀ {lines : List (List Char)}, lines.map String.ofList = pattern :: rest ↔
        lines = (pattern :: rest).map String.toList := by
      intro lines
      constructor
      · intro h
        simp [← h, List.map_map, Function.comp_def]
      · rintro rfl
        simp [List.map_map, Function.comp_def]
    simp only [hchars, hmap]
    rw [Text.splitAt_intercalate_iff (by simp), List.forall_mem_map]

theorem patterns_iff
    (h : ∀ kind, parameters.lookup kind.parameter = patterns.value? kind) :
    Parameters.patterns parameters = patterns ↔ patterns.OneLine := by
  have hlists : Parameters.patterns parameters = patterns ↔
      ∀ kind, patternsOf parameters kind = patterns.list kind := by
    constructor
    · intro heq kind
      rw [← heq]
      cases kind <;> rfl
    · intro heq
      obtain ⟨includeClasses, includeAnnotations, excludeClasses, excludeAnnotations⟩ := patterns
      rw [Parameters.patterns, heq, heq, heq, heq]
      rfl
  rw [hlists]
  exact forall_congr' fun kind => patternsOf_iff (h kind)

end Parameters

/-! ## Selections -/

theorem exists_of_bind_eq_ok {ε α β : Type} {x : Except ε α} {next : α → Except ε β} {b : β}
    (h : x >>= next = .ok b) : ∃ a, x = .ok a ∧ next a = .ok b := by
  cases x with
  | error e => cases h
  | ok a => exact ⟨a, rfl, h⟩

theorem Filter.patterns_of_compile {patterns : FilterPatterns} {filter : Filter}
    (h : Filter.compile patterns = .ok filter) : filter.patterns = patterns := by
  unfold Filter.compile at h
  obtain ⟨_, -, h⟩ := exists_of_bind_eq_ok h
  obtain ⟨_, -, h⟩ := exists_of_bind_eq_ok h
  obtain ⟨_, -, h⟩ := exists_of_bind_eq_ok h
  obtain ⟨_, -, h⟩ := exists_of_bind_eq_ok h
  rw [← Except.ok.inj h]

theorem Selection.parameters_tell (selection : Selection) :
    Parameters.Tell selection.parameters selection.round selection.filter.patterns where
  keys := keys_parameters.nodup (by decide)
  executionId := by
    rw [Parameters.executionId?, lookup_of_round (by decide)]
    have hid : selection.round.parameters.lookup "FLAKEHUNT_EXECUTION_ID" =
      some selection.round.id.text := rfl
    rw [hid, Option.bind_some, ExecutionId.ofText?, ExecutionId.text, String.toList_ofList,
      ExecutionId.ofChars?_chars]
  outputDirectory := lookup_of_round (by decide)
  artifactDirectory := lookup_of_round (by decide)
  perturbed := by
    rw [Parameters.perturbed?, lookup_of_round (by decide)]
    obtain ⟨⟨uuid, _ | seeding, runDirectory, artifactDirectory⟩, filter⟩ := selection <;> rfl
  perturbing := by
    rw [← Parameters.perturbing?_of_round]
    simp only [Parameters.perturbing?, Parameters.range?, Parameters.word?]
    rw [lookup_of_round (by decide), lookup_of_round (by decide), lookup_of_round (by decide),
      lookup_of_round (by decide), lookup_of_round (by decide)]
  patterns h := Parameters.patterns_iff (lookup_of_filter h)
  baseline h := by
    rw [parameters_of_isBaseline h, Round.keys_parameters_of_isBaseline h]
    decide

/-- The parameters of a selection tell all of it, the patterns exactly if each is one line. So
    seeded selections of such patterns that differ in what they perturb with, or in patterns, differ
    in parameters. -/
theorem parameters_tell_selection {patterns : FilterPatterns} {filter : Filter}
    (h : Filter.compile patterns = .ok filter) (round : Round) :
    Parameters.Tell (Selection.parameters ⟨round, filter⟩) round patterns ∧
      ∀ patterns' filter', Filter.compile patterns' = .ok filter' → ∀ round' : Round,
        round.isBaseline = false → round'.isBaseline = false →
        patterns.OneLine → patterns'.OneLine →
        Selection.parameters ⟨round, filter⟩ = Selection.parameters ⟨round', filter'⟩ →
        patterns = patterns' ∧ round.perturbing? = round'.perturbing? := by
  have tell : ∀ {patterns filter}, Filter.compile patterns = .ok filter → ∀ round,
      Parameters.Tell (Selection.parameters ⟨round, filter⟩) round patterns := by
    intro patterns filter h round
    rw [← Filter.patterns_of_compile h]
    exact Selection.parameters_tell ⟨round, filter⟩
  refine ⟨tell h round, fun patterns' filter' h' round' hround hround' hline hline' heq => ⟨?_, ?_⟩⟩
  · rw [← ((tell h round).patterns hround).mpr hline, heq]
    exact ((tell h' round').patterns hround').mpr hline'
  · rw [← (tell h round).perturbing, heq]
    exact (tell h' round').perturbing

/-- A list of no patterns and one of a single empty pattern are told apart. -/
theorem parameters_tell_selection_empty_pattern :
    let round : Round := .seeded ⟨7⟩ ⟨0, .standard, .standard⟩ "run" "artifacts"
    let patterns : FilterPatterns := ⟨["com.*", ""], [], [], ["Slow"]⟩
    let patterns' : FilterPatterns := ⟨["com.*", ""], [""], [], ["Slow"]⟩
    ∃ filter filter', Filter.compile patterns = .ok filter ∧
      Filter.compile patterns' = .ok filter' ∧
      Parameters.Tell (Selection.parameters ⟨round, filter⟩) round patterns ∧
      Selection.parameters ⟨round, filter⟩ ≠ Selection.parameters ⟨round, filter'⟩ := by
  intro round patterns patterns'
  have builds : ∀ patterns, (Filter.compile patterns).toOption.isSome →
      ∃ filter, Filter.compile patterns = .ok filter := by
    intro patterns h
    cases hcompile : Filter.compile patterns with
    | ok filter => exact ⟨filter, rfl⟩
    | error e => rw [hcompile] at h; cases h
  obtain ⟨filter, h⟩ := builds patterns (by decide +kernel)
  obtain ⟨filter', h'⟩ := builds patterns' (by decide +kernel)
  obtain ⟨tell, apart⟩ := parameters_tell_selection h round
  have line : patterns.OneLine := by intro kind; cases kind <;> decide
  have line' : patterns'.OneLine := by intro kind; cases kind <;> decide
  refine ⟨filter, filter', h, h', tell, fun heq => ?_⟩
  obtain ⟨hpatterns, -⟩ := apart patterns' filter' h' round rfl rfl line line' heq
  exact absurd hpatterns (by decide)

end Flaky
