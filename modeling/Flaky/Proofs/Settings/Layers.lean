-- SUMMARY: The settings of a profile setting by setting: what a table of them tells, and what tables laid over one another tell.
import Flaky.Proofs.Parameters
import Flaky.Proofs.Settings.Overlay
import Flaky.Settings.Effective

/-!
# Layers of settings

Each setting is read from the datum under its own key, so a table laid over another tells
of each setting what it tells itself, and else what the other tells. The settings that
hold for a profile are those of the first layer that tells them, each on its own.
-/

namespace Flaky

section

variable {ε δ α β : Type} {x : Except ε α}

theorem exists_of_map_eq_ok {f : α → β} {b : β} (h : x.map f = .ok b) :
    ∃ a, x = .ok a ∧ f a = b := by
  cases x with
  | error e => cases h
  | ok a => exact ⟨a, rfl, Except.ok.inj h⟩

theorem eq_ok_of_mapError_eq_ok {f : ε → δ} {a : α} (h : x.mapError f = .ok a) : x = .ok a := by
  cases x with
  | error e => cases h
  | ok found => exact congrArg Except.ok (Except.ok.inj h)

end

namespace ProfileSettings

/-! ## What a record tells -/

/-- What the data of a profile tell of each setting: what is under its key. -/
structure Tells (data : RecordData) (own : ProfileSettings) : Prop where
  rounds : data.optional keys "rounds" (Dialect.lenient.readUnsigned 32) = .ok own.rounds
  baseSeed : data.optional keys "base-seed" (Dialect.lenient.readUnsigned 64) = .ok own.baseSeed
  cap : data.optional keys "max-failures-per-test" (FailureCap.read .lenient) = .ok own.cap
  simulateNonRetryable : data.optional keys "simulate-non-retryable" Dialect.lenient.readBool =
    .ok own.simulateNonRetryable
  mode : data.optional keys "mode" (PerturbationMode.read .lenient) = .ok own.mode
  testNames : data.optional keys "test-name-filter" Dialect.lenient.readText = .ok own.testNames
  range : data.optional keys "perturb-range" (PerturbationRange.read .lenient) = .ok own.range
  includeClasses : data.optional keys "include-classes" Dialect.lenient.readTexts =
    .ok own.includeClasses
  includeAnnotations : data.optional keys "include-annotations" Dialect.lenient.readTexts =
    .ok own.includeAnnotations
  excludeClasses : data.optional keys "exclude-classes" Dialect.lenient.readTexts =
    .ok own.excludeClasses
  excludeAnnotations : data.optional keys "exclude-annotations" Dialect.lenient.readTexts =
    .ok own.excludeAnnotations
  engine : data.optional keys "engine-command" (Command.read .lenient) = .ok own.engine
  instrumentation : data.optional keys "instrumentation-command" (Command.read .lenient) =
    .ok own.instrumentation
  junitPath : readJunitField data = .ok own.junitPath

variable {datum : Datum} {data : RecordData} {own base : ProfileSettings}

theorem read_eq_ok_iff :
    read datum = .ok own ↔ ∃ data, RecordData.ofDatum datum = .ok data ∧ Tells data own := by
  constructor
  · intro h
    obtain ⟨data, hdata, h⟩ := exists_of_bind_eq_ok h
    obtain ⟨rounds, hrounds, h⟩ := exists_of_bind_eq_ok h
    obtain ⟨baseSeed, hbaseSeed, h⟩ := exists_of_bind_eq_ok h
    obtain ⟨cap, hcap, h⟩ := exists_of_bind_eq_ok h
    obtain ⟨simulate, hsimulate, h⟩ := exists_of_bind_eq_ok h
    obtain ⟨mode, hmode, h⟩ := exists_of_bind_eq_ok h
    obtain ⟨testNames, htestNames, h⟩ := exists_of_bind_eq_ok h
    obtain ⟨range, hrange, h⟩ := exists_of_bind_eq_ok h
    obtain ⟨includeClasses, hincludeClasses, h⟩ := exists_of_bind_eq_ok h
    obtain ⟨includeAnnotations, hincludeAnnotations, h⟩ := exists_of_bind_eq_ok h
    obtain ⟨excludeClasses, hexcludeClasses, h⟩ := exists_of_bind_eq_ok h
    obtain ⟨excludeAnnotations, hexcludeAnnotations, h⟩ := exists_of_bind_eq_ok h
    obtain ⟨engine, hengine, h⟩ := exists_of_bind_eq_ok h
    obtain ⟨instrumentation, hinstrumentation, h⟩ := exists_of_bind_eq_ok h
    obtain ⟨junitPath, hjunitPath, h⟩ := exists_of_bind_eq_ok h
    rw [← Except.ok.inj h]
    exact ⟨data, hdata, hrounds, hbaseSeed, hcap, hsimulate, hmode, htestNames, hrange,
      hincludeClasses, hincludeAnnotations, hexcludeClasses, hexcludeAnnotations, hengine,
      hinstrumentation, hjunitPath⟩
  · rintro ⟨data, hdata, tells⟩
    have pass : ∀ {α β : Type} {x : Reading α} {a : α} {f : α → Reading β}, x = .ok a →
        (x >>= f) = f a := fun h => h ▸ rfl
    rw [read, pass hdata, pass tells.rounds, pass tells.baseSeed, pass tells.cap,
      pass tells.simulateNonRetryable, pass tells.mode, pass tells.testNames, pass tells.range,
      pass tells.includeClasses, pass tells.includeAnnotations, pass tells.excludeClasses,
      pass tells.excludeAnnotations, pass tells.engine, pass tells.instrumentation,
      pass tells.junitPath]
    rfl

/-! ## Layers -/

/-- Each setting of a layer, or that of the layers below where the layer does not give it. -/
def atop (own base : ProfileSettings) : ProfileSettings where
  rounds := own.rounds.or base.rounds
  baseSeed := own.baseSeed.or base.baseSeed
  cap := own.cap.or base.cap
  simulateNonRetryable := own.simulateNonRetryable.or base.simulateNonRetryable
  mode := own.mode.or base.mode
  testNames := own.testNames.or base.testNames
  range := own.range.or base.range
  includeClasses := own.includeClasses.or base.includeClasses
  includeAnnotations := own.includeAnnotations.or base.includeAnnotations
  excludeClasses := own.excludeClasses.or base.excludeClasses
  excludeAnnotations := own.excludeAnnotations.or base.excludeAnnotations
  engine := own.engine.or base.engine
  instrumentation := own.instrumentation.or base.instrumentation
  junitPath := own.junitPath.or base.junitPath

theorem atop_self : own.atop own = own := by
  simp only [atop, Option.or_self]

theorem atop_atop : own.atop (own.atop base) = own.atop base := by
  simp only [atop, ← Option.or_assoc, Option.or_self]

/-! ## Tables over tables -/

section

variable {upper lower : List (String × Datum)} {key : String} {segment : Segment} {α : Type}
variable {known : List String} {read : Datum → Reading α} {value below : Option α}

/-- A table that others can be laid over key by key: no key stands twice in it, and no table in it
has fields. -/
structure Flat (lower : List (String × Datum)) : Prop where
  distinct : Datum.Distinct lower
  flat : ∀ field ∈ lower, Layer.fieldsOf field.2 = []

theorem Flat.fieldsOf (h : Flat lower) (key : String) :
    Layer.fieldsOf ((Datum.lookup? key lower).getD .null) = [] := by
  cases hlookup : Datum.lookup? key lower with
  | none => rfl
  | some datum => exact h.flat _ (Datum.mem_of_lookup? hlookup)

theorem field?_mergeFields (hupper : Datum.ProperFields upper) (hlower : Flat lower) :
    (RecordData.named (Layer.mergeFields upper lower)).field? known key =
      ((RecordData.named upper).field? known key).or
        ((RecordData.named lower).field? known key) := by
  simp only [RecordData.field?]
  rw [Layer.lookup?_mergeFields hupper.distinct hlower.distinct, ← Option.map_or]
  cases hlookup : Datum.lookup? key upper with
  | none => rfl
  | some datum => rw [Layer.laid, Layer.merge_leaf (hupper.lookup? hlookup) (hlower.fieldsOf key),
      Option.some_or]

/-- What is under a key of a proper table is not null. -/
theorem field?_ne_null (hupper : Datum.ProperFields upper)
    (h : (RecordData.named upper).field? known key = some (segment, datum)) : datum ≠ .null := by
  obtain ⟨found, hfound, hpair⟩ := Option.map_eq_some_iff.mp h
  rw [← (Prod.mk.inj hpair).2]
  rintro rfl
  cases hupper.lookup? hfound

theorem optional_of_field? (h : data.field? known key = some (segment, datum))
    (hne : datum ≠ .null) :
    data.optional known key read = ((read datum).under segment).map some := by
  unfold RecordData.optional
  split
  case h_1 hnone => cases h.symm.trans hnone
  case h_2 hnull =>
    obtain ⟨-, rfl⟩ := Prod.mk.inj (Option.some.inj (h.symm.trans hnull))
    exact absurd rfl hne
  case h_3 hsome =>
    obtain ⟨rfl, rfl⟩ := Prod.mk.inj (Option.some.inj (h.symm.trans hsome))
    rfl

/-- Of one setting, a table over another tells what it tells itself, and else what the other
tells. -/
theorem optional_mergeFields (hupper : Datum.ProperFields upper) (hlower : Flat lower)
    (hbelow : (RecordData.named lower).optional known key read = .ok below)
    (h : (RecordData.named (Layer.mergeFields upper lower)).optional known key read = .ok value) :
    ∃ own, (RecordData.named upper).optional known key read = .ok own ∧ own.or below = value := by
  have hfield := @field?_mergeFields upper lower key known hupper hlower
  cases hown : (RecordData.named upper).field? known key with
  | none =>
    rw [hown, Option.none_or] at hfield
    refine ⟨.none, by rw [RecordData.optional, hown], ?_⟩
    rw [RecordData.optional, hfield] at h
    exact Except.ok.inj (hbelow.symm.trans h)
  | some found =>
    obtain ⟨segment, datum⟩ := found
    rw [hown, Option.some_or] at hfield
    have hne := field?_ne_null hupper hown
    rw [optional_of_field? hfield hne] at h
    refine ⟨value, (optional_of_field? hown hne).trans h, ?_⟩
    obtain ⟨a, -, rfl⟩ := exists_of_map_eq_ok h
    rw [Option.some_or]

/-- The table of the JUnit settings replaces an empty one. -/
theorem readJunitField_mergeFields {path : Option String} (hupper : Datum.ProperFields upper)
    (hlower : Flat lower) (hbelow : readJunitField (.named lower) = .ok .none)
    (h : readJunitField (.named (Layer.mergeFields upper lower)) = .ok path) :
    readJunitField (.named upper) = .ok path := by
  have hfield := @field?_mergeFields upper lower "junit" keys hupper hlower
  cases hown : (RecordData.named upper).field? keys "junit" with
  | none =>
    rw [hown, Option.none_or] at hfield
    rw [readJunitField, hfield] at h
    rw [readJunitField, hown]
    exact hbelow.symm.trans h
  | some found =>
    rw [hown, Option.some_or] at hfield
    rw [readJunitField, hfield] at h
    rwa [readJunitField, hown]

/-- A table over another tells of each setting what it tells itself, and else what the other
tells. -/
theorem tells_mergeFields (hupper : Datum.ProperFields upper) (hlower : Flat lower)
    (hbelow : Tells (.named lower) base) (hjunit : base.junitPath = .none) {laid : ProfileSettings}
    (h : Tells (.named (Layer.mergeFields upper lower)) laid) :
    ∃ own, Tells (.named upper) own ∧ own.atop base = laid := by
  have tells : ∀ {α : Type} {key : String} {read : Datum → Reading α} {below value : Option α},
      (RecordData.named lower).optional keys key read = .ok below →
      (RecordData.named (Layer.mergeFields upper lower)).optional keys key read = .ok value →
      ∃ own, (RecordData.named upper).optional keys key read = .ok own ∧ own.or below = value :=
    fun hbelow h => optional_mergeFields hupper hlower hbelow h
  obtain ⟨rounds, hrounds, rounds_eq⟩ := tells hbelow.rounds h.rounds
  obtain ⟨baseSeed, hbaseSeed, baseSeed_eq⟩ := tells hbelow.baseSeed h.baseSeed
  obtain ⟨cap, hcap, cap_eq⟩ := tells hbelow.cap h.cap
  obtain ⟨simulateNonRetryable, hsimulateNonRetryable, simulateNonRetryable_eq⟩ :=
    tells hbelow.simulateNonRetryable h.simulateNonRetryable
  obtain ⟨mode, hmode, mode_eq⟩ := tells hbelow.mode h.mode
  obtain ⟨testNames, htestNames, testNames_eq⟩ := tells hbelow.testNames h.testNames
  obtain ⟨range, hrange, range_eq⟩ := tells hbelow.range h.range
  obtain ⟨includeClasses, hincludeClasses, includeClasses_eq⟩ :=
    tells hbelow.includeClasses h.includeClasses
  obtain ⟨includeAnnotations, hincludeAnnotations, includeAnnotations_eq⟩ :=
    tells hbelow.includeAnnotations h.includeAnnotations
  obtain ⟨excludeClasses, hexcludeClasses, excludeClasses_eq⟩ :=
    tells hbelow.excludeClasses h.excludeClasses
  obtain ⟨excludeAnnotations, hexcludeAnnotations, excludeAnnotations_eq⟩ :=
    tells hbelow.excludeAnnotations h.excludeAnnotations
  obtain ⟨engine, hengine, engine_eq⟩ := tells hbelow.engine h.engine
  obtain ⟨instrumentation, hinstrumentation, instrumentation_eq⟩ :=
    tells hbelow.instrumentation h.instrumentation
  have hpath := readJunitField_mergeFields hupper hlower (hjunit ▸ hbelow.junitPath) h.junitPath
  refine ⟨⟨rounds, baseSeed, cap, simulateNonRetryable, mode, testNames, range, includeClasses,
    includeAnnotations, excludeClasses, excludeAnnotations, engine, instrumentation,
    laid.junitPath⟩, ?_, ?_⟩
  · exact ⟨hrounds, hbaseSeed, hcap, hsimulateNonRetryable, hmode, htestNames, hrange,
      hincludeClasses, hincludeAnnotations, hexcludeClasses, hexcludeAnnotations, hengine,
      hinstrumentation, hpath⟩
  · simp only [atop, rounds_eq, baseSeed_eq, cap_eq, simulateNonRetryable_eq, mode_eq, testNames_eq,
      range_eq, includeClasses_eq, includeAnnotations_eq, excludeClasses_eq, excludeAnnotations_eq,
      engine_eq, instrumentation_eq, hjunit, Option.or_none]

end

/-! ## Complete settings -/

/-- The settings that hold are those that a layer gives, and none is missing. -/
structure Completes (own : ProfileSettings) (settings : EffectiveSettings) : Prop where
  rounds : own.rounds = some settings.rounds
  baseSeed : own.baseSeed.map seedOf = some settings.baseSeed
  cap : own.cap = some settings.cap
  simulateNonRetryable : own.simulateNonRetryable = some settings.simulateNonRetryable
  mode : own.mode = some settings.mode
  testNames : own.testNames = settings.testNames
  range : own.range = settings.range
  includeClasses : own.includeClasses = some settings.patterns.includeClasses
  includeAnnotations : own.includeAnnotations = some settings.patterns.includeAnnotations
  excludeClasses : own.excludeClasses = some settings.patterns.excludeClasses
  excludeAnnotations : own.excludeAnnotations = some settings.patterns.excludeAnnotations
  engine : own.engine = settings.engine
  instrumentation : own.instrumentation = settings.instrumentation
  junitPath : own.junitPath = settings.junitPath

theorem completes_of_complete? {settings : EffectiveSettings} (h : own.complete? = some settings) :
    Completes own settings := by
  unfold complete? at h
  simp only [Option.bind_eq_bind, Option.bind_eq_some_iff, Option.pure_def, Option.some.injEq] at h
  obtain ⟨a, ha, b, hb, c, hc, d, hd, e, he, f, hf, g, hg, i, hi, j, hj, rfl⟩ := h
  exact ⟨he, by rw [hf]; rfl, hg, hi, hj, rfl, rfl, ha, hb, hc, hd, rfl, rfl, rfl⟩

/-- A layer over complete settings gives what the settings laid over them are. -/
theorem Completes.atop {settings : EffectiveSettings} (h : Completes base settings)
    (own : ProfileSettings) : Completes (own.atop base) (settings.overlay own) := by
  have given : ∀ {α : Type} {mine other : Option α} {a : α}, other = some a →
      mine.or other = some (mine.getD a) := by
    rintro α mine other a rfl
    cases mine <;> rfl
  have optional : ∀ {α : Type} {mine other other' : Option α}, other = other' →
      mine.or other = (mine <|> other') := by
    rintro α mine other other' rfl
    cases mine <;> rfl
  exact {
    rounds := given h.rounds
    baseSeed := by
      rw [ProfileSettings.atop, Option.map_or]
      exact given h.baseSeed
    cap := given h.cap
    simulateNonRetryable := given h.simulateNonRetryable
    mode := given h.mode
    testNames := optional h.testNames
    range := optional h.range
    includeClasses := given h.includeClasses
    includeAnnotations := given h.includeAnnotations
    excludeClasses := given h.excludeClasses
    excludeAnnotations := given h.excludeAnnotations
    engine := optional h.engine
    instrumentation := optional h.instrumentation
    junitPath := optional h.junitPath }

/-- None of the settings is missing that the default profile must give. -/
structure Sufficient (own : ProfileSettings) : Prop where
  rounds : own.rounds.isSome
  baseSeed : own.baseSeed.isSome
  cap : own.cap.isSome
  simulateNonRetryable : own.simulateNonRetryable.isSome
  mode : own.mode.isSome
  includeClasses : own.includeClasses.isSome
  includeAnnotations : own.includeAnnotations.isSome
  excludeClasses : own.excludeClasses.isSome
  excludeAnnotations : own.excludeAnnotations.isSome

theorem complete?_isSome_iff : own.complete?.isSome ↔ Sufficient own := by
  constructor
  · intro h
    obtain ⟨settings, hsettings⟩ := Option.isSome_iff_exists.mp h
    have completes := completes_of_complete? hsettings
    refine ⟨by rw [completes.rounds]; rfl, ?_, by rw [completes.cap]; rfl,
      by rw [completes.simulateNonRetryable]; rfl, by rw [completes.mode]; rfl,
      by rw [completes.includeClasses]; rfl, by rw [completes.includeAnnotations]; rfl,
      by rw [completes.excludeClasses]; rfl, by rw [completes.excludeAnnotations]; rfl⟩
    obtain ⟨seed, hseed, -⟩ := Option.map_eq_some_iff.mp completes.baseSeed
    rw [hseed]
    rfl
  · rintro ⟨rounds, baseSeed, cap, simulate, mode, a, b, c, d⟩
    obtain ⟨rounds, hrounds⟩ := Option.isSome_iff_exists.mp rounds
    obtain ⟨baseSeed, hbaseSeed⟩ := Option.isSome_iff_exists.mp baseSeed
    obtain ⟨cap, hcap⟩ := Option.isSome_iff_exists.mp cap
    obtain ⟨simulate, hsimulate⟩ := Option.isSome_iff_exists.mp simulate
    obtain ⟨mode, hmode⟩ := Option.isSome_iff_exists.mp mode
    obtain ⟨a, ha⟩ := Option.isSome_iff_exists.mp a
    obtain ⟨b, hb⟩ := Option.isSome_iff_exists.mp b
    obtain ⟨c, hc⟩ := Option.isSome_iff_exists.mp c
    obtain ⟨d, hd⟩ := Option.isSome_iff_exists.mp d
    rw [complete?, hrounds, hbaseSeed, hcap, hsimulate, hmode, ha, hb, hc, hd]
    rfl

/-- A layer over a sufficient one is sufficient. -/
theorem Sufficient.atop (h : Sufficient base) (own : ProfileSettings) :
    Sufficient (own.atop base) := by
  have given : ∀ {α : Type} {mine other : Option α}, other.isSome → (mine.or other).isSome :=
    fun hother => by rw [Option.isSome_or, hother, Bool.or_true]
  exact ⟨given h.rounds, given h.baseSeed, given h.cap, given h.simulateNonRetryable, given h.mode,
    given h.includeClasses, given h.includeAnnotations, given h.excludeClasses,
    given h.excludeAnnotations⟩

/-! ## Lists in the place of tables -/

section

variable {items : List Datum} {key : String} {α : Type} {read : Datum → Reading α}
variable {value : Option α}

/-- A list gives the settings that have their place in it. -/
theorem optional_positional (proper : ∀ item ∈ items, item.Proper)
    (h : (RecordData.positional items).optional keys key read = .ok value) :
    value.isSome ↔ keys.idxOf key < items.length := by
  cases hitem : items[keys.idxOf key]? with
  | none =>
    rw [RecordData.optional, RecordData.field?, hitem] at h
    rw [← Except.ok.inj h]
    simpa using List.getElem?_eq_none_iff.mp hitem
  | some item =>
    have hne : item ≠ .null := by
      rintro rfl
      cases proper _ (List.mem_of_getElem? hitem)
    have hfield : (RecordData.positional items).field? keys key =
        some (.index (keys.idxOf key), item) := by
      rw [RecordData.field?, hitem]
      rfl
    rw [optional_of_field? hfield hne] at h
    obtain ⟨a, -, rfl⟩ := exists_of_map_eq_ok h
    exact iff_of_true rfl (List.getElem?_eq_some_iff.mp hitem).1

/-- A list is sufficient if it reaches to the last of the settings that must be there. -/
theorem sufficient_positional (proper : ∀ item ∈ items, item.Proper)
    (h : Tells (.positional items) own) : Sufficient own ↔ 11 ≤ items.length := by
  constructor
  · intro sufficient
    exact (optional_positional proper h.excludeAnnotations).mp sufficient.excludeAnnotations
  · intro hlength
    have place : ∀ {key : String}, keys.idxOf key < 11 → keys.idxOf key < items.length :=
      fun hkey => Nat.lt_of_lt_of_le hkey hlength
    exact {
      rounds := (optional_positional proper h.rounds).mpr (place (by decide))
      baseSeed := (optional_positional proper h.baseSeed).mpr (place (by decide))
      cap := (optional_positional proper h.cap).mpr (place (by decide))
      simulateNonRetryable :=
        (optional_positional proper h.simulateNonRetryable).mpr (place (by decide))
      mode := (optional_positional proper h.mode).mpr (place (by decide))
      includeClasses := (optional_positional proper h.includeClasses).mpr (place (by decide))
      includeAnnotations :=
        (optional_positional proper h.includeAnnotations).mpr (place (by decide))
      excludeClasses := (optional_positional proper h.excludeClasses).mpr (place (by decide))
      excludeAnnotations :=
        (optional_positional proper h.excludeAnnotations).mpr (place (by decide)) }

end

end ProfileSettings

end Flaky
