-- SUMMARY: A run summary is read back from its compact and its indented text, and so is whatever is read from any text.
import Flaky.Proofs.Json.Reading
import Flaky.Report.Summary

/-!
# Reading run summaries back

The text of a summary is read as the summary, if its numbers are such as the
reader takes: of 64 bits, and of 32 bits for the number of rounds. Whatever is read
from a text has such numbers, so the text that is written of it is read as the
same again.
-/

namespace Flaky

/-! ## Summaries that can be read -/

/-- The numbers of a round have 64 bits. -/
structure RoundSummary.Fits (round : RoundSummary) : Prop where
  index : ∀ n ∈ round.index, n < 2 ^ 64
  seed : ∀ n ∈ round.seed, n < 2 ^ 64
  passedCount : round.passedCount < 2 ^ 64

structure RunSummary.Fits (summary : RunSummary) : Prop where
  baseSeed : summary.baseSeed < 2 ^ 64
  maxRounds : summary.maxRounds < 2 ^ 32
  baseline : summary.baseline.Fits
  rounds : ∀ round ∈ summary.rounds, round.Fits

/-! ## Parts -/

open Json (Raw)

theorem OrderedSet.ofList_toList {α : Type} [Ord α] [Std.TransOrd α] [Std.LawfulEqOrd α]
    (s : OrderedSet α) : OrderedSet.ofList s.toList = s :=
  ext_mem fun a => by rw [mem_ofList, mem_toList]

theorem mapM_eq_some_iff {α β : Type} {f : α → Option β} {xs : List α} {ys : List β} :
    xs.mapM f = some ys ↔ xs.map f = ys.map some := by
  induction xs generalizing ys with
  | nil => cases ys <;> simp
  | cons x xs ih =>
    cases ys with
    | nil => simp [List.mapM_cons, Option.bind_eq_some_iff]
    | cons y ys => simp [List.mapM_cons, Option.bind_eq_some_iff, ih]

/-- Items that are each read as what they were written for are all read so. -/
theorem mapM_map_eq_some {α β : Type} {write : α → β} {read? : β → Option α} {xs : List α}
    (h : ∀ x ∈ xs, read? (write x) = some x) : (xs.map write).mapM read? = some xs := by
  rw [mapM_eq_some_iff, List.map_map]
  exact List.map_congr_left h

namespace Json

/-! ### What was written -/

theorem toRawItems_eq_map (items : List Json) : toRawItems items = items.map toRaw := by
  induction items with
  | nil => rfl
  | cons item rest ih => rw [toRawItems, ih, List.map_cons]

theorem unsigned?_ofInt {bits n : Nat} (h : n < 2 ^ bits) :
    Raw.unsigned? bits (.number (Decimal.ofInt n)) = some n := by
  have hint : (Decimal.ofInt n).int? = some (n : Int) := by simp [Decimal.int?, Decimal.ofInt]
  have hbits : (n : Int) < twoTo bits := by exact_mod_cast h
  simp [Raw.unsigned?, hint, hbits]

theorem optional?_unsigned?_ofInt {bits n : Nat} (h : n < 2 ^ bits) :
    Raw.optional? (Raw.unsigned? bits) (.number (Decimal.ofInt n)) = some (some n) := by
  rw [Raw.optional?, unsigned?_ofInt h, Option.map_some]
  exact nofun

section

variable {α : Type} {key : String} {read : Raw → Option α} {fields : List (String × Json)}

theorem valuesAt_toRawFields (key : String) (fields : List (String × Json)) :
    Raw.valuesAt key (toRawFields fields) =
      (fields.filter fun field => field.1 == key).map fun field => field.2.toRaw := by
  induction fields with
  | nil => rfl
  | cons field rest ih =>
    obtain ⟨name, value⟩ := field
    rw [Raw.valuesAt] at ih ⊢
    by_cases h : name = key <;> simp [toRawFields, h, ih]

/-- A field whose key no other field has. -/
theorem field?_toRawFields (value : Json)
    (h : fields.filter (fun field => field.1 == key) = [(key, value)]) :
    Raw.field? key read (toRawFields fields) = read value.toRaw := by
  simp [Raw.field?, valuesAt_toRawFields, h]

theorem fieldOr?_toRawFields {missing : α} (value : Json)
    (h : fields.filter (fun field => field.1 == key) = [(key, value)]) :
    Raw.fieldOr? key missing read (toRawFields fields) = read value.toRaw := by
  simp [Raw.fieldOr?, valuesAt_toRawFields, h]

theorem fieldOr?_toRawFields_missing {missing : α}
    (h : fields.filter (fun field => field.1 == key) = []) :
    Raw.fieldOr? key missing read (toRawFields fields) = some missing := by
  simp [Raw.fieldOr?, valuesAt_toRawFields, h]

end

/-! ### What was read -/

theorem lt_of_unsigned? {bits n : Nat} {raw : Raw} (h : raw.unsigned? bits = some n) :
    n < 2 ^ bits := by
  cases raw with
  | number d =>
    obtain ⟨m, -, hm⟩ := Option.bind_eq_some_iff.mp h
    split at hm
    · rename_i hfits
      cases hm
      have hlt : m.toNat < twoTo bits := by omega
      exact hlt
    · cases hm
  | null | bool b | string s | array items | object fields => cases h

theorem lt_of_optional? {bits m : Nat} {n : Option Nat} {raw : Raw}
    (h : Raw.optional? (Raw.unsigned? bits) raw = some n) (hm : m ∈ n) : m < 2 ^ bits := by
  unfold Raw.optional? at h
  split at h
  · cases h
    cases hm
  · obtain ⟨k, hk, rfl⟩ := Option.map_eq_some_iff.mp h
    cases hm
    exact lt_of_unsigned? hk

section

variable {α : Type} {key : String} {read : Raw → Option α} {value : α}
variable {fields : List (Option String × Raw)}

theorem exists_of_field? (h : Raw.field? key read fields = some value) :
    ∃ raw, read raw = some value := by
  rw [Raw.field?] at h
  split at h
  · exact ⟨_, h⟩
  · cases h

theorem exists_of_fieldOr? {missing : α}
    (h : Raw.fieldOr? key missing read fields = some value) :
    value = missing ∨ ∃ raw, read raw = some value := by
  rw [Raw.fieldOr?] at h
  split at h
  · exact .inl (Option.some.inj h).symm
  · exact .inr ⟨_, h⟩
  · cases h

end

theorem lt_of_fieldOr?_optional? {bits : Nat} {key : String} {n : Option Nat}
    {fields : List (Option String × Raw)}
    (h : Raw.fieldOr? key none (Raw.optional? (Raw.unsigned? bits)) fields = some n) :
    ∀ m ∈ n, m < 2 ^ bits := by
  intro m hm
  obtain rfl | ⟨raw, hraw⟩ := exists_of_fieldOr? h
  · cases hm
  · exact lt_of_optional? hraw hm

end Json

/-! ## What is written is read -/

namespace RunSummary

theorem recordFields?_toRaw {names : List String} {optional : Nat}
    (fields : List (String × Json)) :
    recordFields? names optional (Json.object fields).toRaw = some (Json.toRawFields fields) := by
  have hkeys : (Json.toRawFields fields).all (fun field => field.1.isSome) = true := by
    induction fields with
    | nil => rfl
    | cons field rest ih => simpa [Json.toRawFields] using ih
  rw [recordFields?, Json.toRaw, fieldsOf?, if_pos hkeys, Option.some_or]

theorem names?_namesJson (names : OrderedSet String) :
    names? (namesJson names).toRaw = some names := by
  have hread : Raw.strings? (namesJson names).toRaw = some names.toList := by
    rw [namesJson, Json.toRaw, Json.toRawItems_eq_map, Raw.strings?, List.map_map]
    exact mapM_map_eq_some fun _ _ => rfl
  rw [names?, hread, Option.map_some, OrderedSet.ofList_toList]

theorem status?_toJson (status : SummaryStatus) :
    status? (Raw.nestingLimit - 1) status.toJson.toRaw = some status := by
  cases status with
  | completed => rfl
  | aborted simulated => cases simulated <;> rfl

/-- A number that may be missing, where no other field has its key. -/
theorem fieldOr?_optionalField {bits : Nat} {key : String} {n : Option Nat}
    {fields : List (String × Json)} (hn : ∀ m ∈ n, m < 2 ^ bits)
    (hfields : fields.filter (fun field => field.1 == key) = optionalField key n) :
    Raw.fieldOr? key none (Raw.optional? (Raw.unsigned? bits)) (Json.toRawFields fields) =
      some n := by
  cases n with
  | none => exact Json.fieldOr?_toRawFields_missing hfields
  | some n =>
    rw [Json.fieldOr?_toRawFields _ hfields]
    exact Json.optional?_unsigned?_ofInt (hn n rfl)

theorem filter_optionalField {key other : String} {n : Option Nat} :
    (optionalField other n).filter (fun field => field.1 == key) =
      if other = key then optionalField other n else [] := by
  cases n <;> by_cases h : other = key <;> simp [optionalField, h]

theorem round?_roundJson {round : RoundSummary} (h : round.Fits) :
    round? (roundJson round).toRaw = some round := by
  rw [round?, roundJson, recordFields?_toRaw, Option.bind_eq_bind, Option.bind_some]
  rw [Json.field?_toRawFields (.string round.executionId)
      (by simp [filter_optionalField]),
    fieldOr?_optionalField h.index (by simp [filter_optionalField]),
    fieldOr?_optionalField h.seed (by simp [filter_optionalField]),
    Json.field?_toRawFields (namesJson round.failed) (by simp [filter_optionalField]),
    Json.field?_toRawFields (.number round.passedCount)
      (by simp [filter_optionalField]),
    names?_namesJson, Json.toRaw, Json.toRaw, Json.unsigned?_ofInt h.passedCount]
  rfl

theorem rounds?_map_roundJson {rounds : List RoundSummary} (h : ∀ round ∈ rounds, round.Fits) :
    rounds? (Json.array (rounds.map roundJson)).toRaw = some rounds := by
  rw [Json.toRaw, Json.toRawItems_eq_map, rounds?, List.map_map]
  exact mapM_map_eq_some fun round hround => round?_roundJson (h round hround)

theorem ofRaw?_toJson {summary : RunSummary} (h : summary.Fits) :
    ofRaw? summary.toJson.toRaw = some summary := by
  rw [ofRaw?, toJson, recordFields?_toRaw, Option.bind_eq_bind, Option.bind_some]
  -- no two keys are the same, which evaluation shows as the fields are all there
  rw [Json.field?_toRawFields (.string summary.runId) rfl,
    Json.field?_toRawFields (.number summary.baseSeed) rfl,
    Json.field?_toRawFields (.number summary.maxRounds) rfl,
    Json.field?_toRawFields summary.status.toJson rfl,
    Json.field?_toRawFields (roundJson summary.baseline) rfl,
    Json.field?_toRawFields (.array (summary.rounds.map roundJson)) rfl,
    Json.field?_toRawFields (namesJson summary.baselineFailures) rfl,
    Json.field?_toRawFields (namesJson summary.aggregateFailures) rfl,
    Json.fieldOr?_toRawFields (namesJson summary.nonRetried) rfl]
  rw [Json.toRaw, Json.toRaw, Json.toRaw, Json.unsigned?_ofInt h.baseSeed,
    Json.unsigned?_ofInt h.maxRounds, status?_toJson, round?_roundJson h.baseline,
    rounds?_map_roundJson h.rounds, names?_namesJson, names?_namesJson, names?_namesJson]
  rfl

/-! ## What is read fits -/

theorem fits_of_round? {raw : Raw} {round : RoundSummary} (h : round? raw = some round) :
    round.Fits := by
  simp only [round?, Option.bind_eq_bind, Option.bind_eq_some_iff] at h
  obtain ⟨fields, -, id, -, index, hindex, seed, hseed, failed, -, passed, hpassed, h⟩ := h
  cases h
  obtain ⟨count, hcount⟩ := Json.exists_of_field? hpassed
  exact ⟨Json.lt_of_fieldOr?_optional? hindex, Json.lt_of_fieldOr?_optional? hseed,
    Json.lt_of_unsigned? hcount⟩

theorem fits_of_rounds? {raw : Raw} {rounds : List RoundSummary} (h : rounds? raw = some rounds) :
    ∀ round ∈ rounds, round.Fits := by
  cases raw with
  | array items =>
    intro round hround
    have hitems : items.map round? = rounds.map some := mapM_eq_some_iff.mp h
    have hread : some round ∈ items.map round? := hitems ▸ List.mem_map_of_mem hround
    obtain ⟨item, -, hitem⟩ := List.mem_map.mp hread
    exact fits_of_round? hitem
  | null | bool b | number d | string s | object fields => cases h

theorem fits_of_ofRaw? {raw : Raw} {summary : RunSummary} (h : ofRaw? raw = some summary) :
    summary.Fits := by
  simp only [ofRaw?, Option.bind_eq_bind, Option.bind_eq_some_iff] at h
  obtain ⟨fields, -, id, -, seed, hseed, most, hmost, status, -, baseline, hbaseline, rounds,
    hrounds, failures, -, flaky, -, others, -, h⟩ := h
  cases h
  obtain ⟨seedRaw, hseed⟩ := Json.exists_of_field? hseed
  obtain ⟨mostRaw, hmost⟩ := Json.exists_of_field? hmost
  obtain ⟨baselineRaw, hbaseline⟩ := Json.exists_of_field? hbaseline
  obtain ⟨roundsRaw, hrounds⟩ := Json.exists_of_field? hrounds
  exact ⟨Json.lt_of_unsigned? hseed, Json.lt_of_unsigned? hmost, fits_of_round? hbaseline,
    fits_of_rounds? hrounds⟩

/-! ## Texts -/

theorem ofText_eq_ok_iff {text : String} {summary : RunSummary} :
    ofText text = .ok summary ↔ ∃ raw, Raw.ofText? text = some raw ∧ ofRaw? raw = some summary := by
  rw [← Option.bind_eq_some_iff, ofText]
  cases (Raw.ofText? text).bind ofRaw? <;> simp

theorem fits_of_ofText {text : String} {summary : RunSummary} (h : ofText text = .ok summary) :
    summary.Fits := by
  obtain ⟨raw, -, hraw⟩ := ofText_eq_ok_iff.mp h
  exact fits_of_ofRaw? hraw

/-- The compact and the indented text of the summary are each read as the summary. -/
def ReadBack (summary : RunSummary) : Prop :=
  ofText summary.toJson.compactText = .ok summary ∧
    ofText summary.toJson.indentedText = .ok summary

theorem Fits.readBack {summary : RunSummary} (h : summary.Fits) : summary.ReadBack :=
  ⟨ofText_eq_ok_iff.mpr ⟨_, Json.ofText?_compactText _, ofRaw?_toJson h⟩,
    ofText_eq_ok_iff.mpr ⟨_, Json.ofText?_indentedText _, ofRaw?_toJson h⟩⟩

end RunSummary

/-- A summary is read back from its texts if its numbers can be read; and so is every
    summary that was read, however the text that it was read from is put. -/
theorem summary_round_trip (summary : RunSummary) :
    (summary.Fits → summary.ReadBack) ∧
      ∀ text, RunSummary.ofText text = .ok summary → summary.Fits ∧ summary.ReadBack := by
  refine ⟨RunSummary.Fits.readBack, fun text h => ?_⟩
  have hfits := RunSummary.fits_of_ofText h
  exact ⟨hfits, hfits.readBack⟩

/-- An aborted run, with a round that has a seed and no index. -/
def RunSummary.odd : RunSummary :=
  { runId := "\"\\\n😀"
    baseSeed := 2 ^ 64 - 1
    maxRounds := 1
    status := .aborted true
    baseline := ⟨"baseline", none, none, .empty, 0⟩
    rounds := [⟨"", none, some 7, .ofList ["A#b"], 1⟩]
    baselineFailures := .empty
    aggregateFailures := .ofList ["A#b"]
    nonRetried := .empty }

/-- Its fields in another order, with a field more, one less, and no index as null. -/
def RunSummary.oddFields : List (String × Json) :=
  [("more", .array [.null]),
    ("status", .object [("simulated", .bool true), ("kind", .string "aborted")]),
    ("rounds", .array [.array [.string "", .null, .number 7,
      .array [.string "A#b", .string "A#b"], .number 1]]),
    ("baseline", .object [("seed", .null), ("passed-count", .number 0),
      ("execution-id", .string "baseline"), ("failed", .array [])]),
    ("run-id", .string "\"\\\n😀"), ("base-seed", .number (2 ^ 64 - 1)),
    ("max-rounds", .number 1), ("aggregate-failures", .array [.string "A#b"]),
    ("baseline-failures", .array [])]

theorem summary_round_trip_odd :
    RunSummary.ofText (Json.object RunSummary.oddFields).compactText = .ok .odd ∧
      RunSummary.odd.Fits ∧ RunSummary.odd.ReadBack := by
  have hread : RunSummary.ofText (Json.object RunSummary.oddFields).compactText = .ok .odd :=
    RunSummary.ofText_eq_ok_iff.mpr ⟨_, Json.ofText?_compactText _, by decide +kernel⟩
  exact ⟨hread, (summary_round_trip _).2 _ hread⟩

end Flaky
