-- SUMMARY: What the fields of an event line say does not depend on their order, nor on fields that no event has.
import Flaky.Proofs.EngineOutput
import Flaky.Proofs.Json.Members
import Mathlib.Data.List.Nodup

/-!
# Fields of events

An event is told by the values under its keys. Where no key repeats, these stay as they
are when fields change places and when fields with other keys are added. The text of an
event is that of its members, so these can be put in any order too, with others between.
-/

namespace Flaky.EngineEvent

open Json (Raw)

/-! ## Values under keys -/

section

variable {fields fields' more : List (Option String × Raw)} {key : String}

theorem length_valuesAt : (Raw.valuesAt key fields).length =
    (fields.map Prod.fst).count (some key) := by
  induction fields with
  | nil => rfl
  | cons field fields ih =>
    rw [Raw.valuesAt, List.filterMap_cons, List.map_cons, List.count_cons]
    by_cases h : field.1 = some key
    · simp [h, ← ih, Raw.valuesAt]
    · simp [h, ← ih, Raw.valuesAt]

theorem valuesAt_append :
    Raw.valuesAt key (fields ++ more) = Raw.valuesAt key fields ++ Raw.valuesAt key more :=
  List.filterMap_append

theorem valuesAt_eq_nil (h : some key ∉ fields.map Prod.fst) : Raw.valuesAt key fields = [] :=
  List.eq_nil_of_length_eq_zero (length_valuesAt.trans (List.count_eq_zero.mpr h))

/-- Where no key repeats, the order of fields does not matter. -/
theorem valuesAt_perm (distinct : (fields.map Prod.fst).Nodup) (h : fields'.Perm fields) :
    Raw.valuesAt key fields' = Raw.valuesAt key fields := by
  have hperm : (Raw.valuesAt key fields').Perm (Raw.valuesAt key fields) := h.filterMap _
  have hlength : (Raw.valuesAt key fields).length ≤ 1 :=
    length_valuesAt.trans_le (List.nodup_iff_count_le_one.mp distinct _)
  match hvalues : Raw.valuesAt key fields with
  | [] => exact List.perm_nil.mp (hvalues ▸ hperm)
  | [v] => exact List.perm_singleton.mp (hvalues ▸ hperm)
  | _ :: _ :: _ =>
    rw [hvalues] at hlength
    exact absurd hlength (by simp)

/-! ## Values that can be built -/

theorem buildableFields_iff {room : Nat} : Raw.buildableFields room fields = true ↔
    ∀ field ∈ fields, field.1.isSome = true ∧ Raw.buildable room field.2 = true := by
  induction fields with
  | nil => simp [Raw.buildableFields]
  | cons field fields ih =>
    rw [Raw.buildableFields, Bool.and_eq_true, Bool.and_eq_true, ih, List.forall_mem_cons]

theorem buildable_object_iff :
    (Raw.object fields).buildable Raw.nestingLimit = true ↔ ∀ field ∈ fields,
      field.1.isSome = true ∧ Raw.buildable (Raw.nestingLimit - 1) field.2 = true := by
  rw [Raw.buildable, Bool.and_eq_true, buildableFields_iff]
  exact and_iff_right rfl

end

/-! ## Added fields -/

/-- The keys that some event has. -/
def keys : List String := [tagKey, "class", "method", "annotations", "kind", "message", "reason"]

/-- Fields that can be added to others: each key is a new one, and no event has it. -/
structure Adds (fields more : List (Option String × Raw)) : Prop where
  distinct : (more.map Prod.fst).Nodup
  fresh : ∀ field ∈ more, field.1 ∉ fields.map Prod.fst
  unknown : ∀ field ∈ more, ∀ key ∈ keys, field.1 ≠ some key
  buildable : (Raw.object more).buildable Raw.nestingLimit = true

section

variable {fields fields' more : List (Option String × Raw)} {key : String} {event : EngineEvent}
variable {test : Test}

theorem Adds.nodup (adds : Adds fields more) (distinct : (fields.map Prod.fst).Nodup) :
    ((fields ++ more).map Prod.fst).Nodup := by
  rw [List.map_append]
  refine distinct.append adds.distinct fun name hfields hmore => ?_
  obtain ⟨field, hfield, rfl⟩ := List.mem_map.mp hmore
  exact adds.fresh field hfield hfields

theorem Adds.valuesAt (adds : Adds fields more) (hkey : key ∈ keys) :
    Raw.valuesAt key (fields ++ more) = Raw.valuesAt key fields := by
  have hnone : Raw.valuesAt key more = [] := valuesAt_eq_nil fun hmem => by
    obtain ⟨field, hfield, hname⟩ := List.mem_map.mp hmem
    exact adds.unknown field hfield key hkey hname
  rw [valuesAt_append, hnone, List.append_nil]

theorem field?_congr {α : Type} {read : Raw → Option α}
    (h : Raw.valuesAt key fields' = Raw.valuesAt key fields) :
    Raw.field? key read fields' = Raw.field? key read fields := by
  rw [Raw.field?, Raw.field?, h]

theorem fieldOr?_congr {α : Type} {missing : α} {read : Raw → Option α}
    (h : Raw.valuesAt key fields' = Raw.valuesAt key fields) :
    Raw.fieldOr? key missing read fields' = Raw.fieldOr? key missing read fields := by
  rw [Raw.fieldOr?, Raw.fieldOr?, h]

theorem fieldOr?_missing {α : Type} {missing : α} {read : Raw → Option α}
    (h : some key ∉ fields.map Prod.fst) : Raw.fieldOr? key missing read fields = some missing := by
  rw [Raw.fieldOr?, valuesAt_eq_nil h]

theorem TellsTest.congr (h : TellsTest fields test)
    (same : ∀ key ∈ keys, Raw.valuesAt key fields' = Raw.valuesAt key fields) :
    TellsTest fields' test where
  className := (field?_congr (same _ (by decide))).trans h.className
  method := (field?_congr (same _ (by decide))).trans h.method
  annotations := (fieldOr?_congr (same _ (by decide))).trans h.annotations

/-- Fields with the same values under the keys of events tell the same event. -/
theorem Tells.congr (h : Tells fields event)
    (same : ∀ key ∈ keys, Raw.valuesAt key fields' = Raw.valuesAt key fields) :
    Tells fields' event := by
  have htag := @field?_congr fields fields' tagKey _ Raw.string? (same _ (by decide))
  cases h with
  | passed tag about => exact .passed (htag.trans tag) (about.congr same)
  | failed tag about because saying =>
    exact .failed (htag.trans tag) (about.congr same)
      ((fieldOr?_congr (same _ (by decide))).trans because)
      ((fieldOr?_congr (same _ (by decide))).trans saying)
  | skipped tag about => exact .skipped (htag.trans tag) (about.congr same)
  | aborted tag because =>
    exact .aborted (htag.trans tag) ((field?_congr (same _ (by decide))).trans because)
  | finished tag => exact .finished (htag.trans tag)

theorem Tells.ne_nil (h : Tells fields event) : fields ≠ [] := by
  rintro rfl
  cases h <;> contradiction

/-- What an event says where a field that may be missing is. -/
structure Defaults (fields : List (Option String × Raw)) (event : EngineEvent) : Prop where
  annotations : some "annotations" ∉ fields.map Prod.fst →
    ∀ report, event = .report report → report.test.annotations = []
  kind : some "kind" ∉ fields.map Prod.fst →
    ∀ test cause message, event = .report (.failed test cause message) → cause = .assertion
  message : some "message" ∉ fields.map Prod.fst →
    ∀ test cause message, event = .report (.failed test cause message) → message = none

theorem TellsTest.annotations_eq_nil (h : TellsTest fields test)
    (missing : some "annotations" ∉ fields.map Prod.fst) : test.annotations = [] :=
  (Option.some.inj ((fieldOr?_missing missing).symm.trans h.annotations)).symm

theorem Tells.defaults (h : Tells fields event) : Defaults fields event where
  annotations := by
    rintro missing report rfl
    cases h with
    | passed _ about => exact about.annotations_eq_nil missing
    | failed _ about => exact about.annotations_eq_nil missing
    | skipped _ about => exact about.annotations_eq_nil missing
  kind := by
    rintro missing test cause message rfl
    cases h with
    | failed _ _ because =>
      exact (Option.some.inj ((fieldOr?_missing missing).symm.trans because)).symm
  message := by
    rintro missing test cause message rfl
    cases h with
    | failed _ _ _ saying =>
      exact (Option.some.inj ((fieldOr?_missing missing).symm.trans saying)).symm

/-- Fields with those of an event among them, in any order, mean the event. -/
theorem means_of_perm {line line' : List Char} (h : Means line event)
    (reads : Raw.ofChars? line = some (.object fields)) (distinct : (fields.map Prod.fst).Nodup)
    (adds : Adds fields more) (perm : fields'.Perm (fields ++ more))
    (reads' : Raw.ofChars? line' = some (.object fields')) : Means line' event := by
  obtain ⟨told, hread, buildable, tells⟩ := h
  obtain rfl : told = fields := Raw.object.inj (Option.some.inj (hread.symm.trans reads))
  have same : ∀ key ∈ keys, Raw.valuesAt key fields' = Raw.valuesAt key told := fun key hkey =>
    (valuesAt_perm (adds.nodup distinct) perm).trans (adds.valuesAt hkey)
  refine ⟨fields', reads', buildable_object_iff.mpr fun field hfield => ?_, tells.congr same⟩
  rcases List.mem_append.mp (perm.mem_iff.mp hfield) with hold | hnew
  · exact buildable_object_iff.mp buildable field hold
  · exact buildable_object_iff.mp adds.buildable field hnew

/-- A line is read as an event whatever the order of its fields and whatever fields are added: so is
    every line that has these fields, and the members of the line, which has them for its text, can
    be put together with others in any order. -/
structure Tolerant (line : List Char) (fields : List (Option String × Raw)) (event : EngineEvent) :
    Prop where
  reordered : ∀ more fields' line', Adds fields more → fields'.Perm (fields ++ more) →
    Raw.ofChars? line' = some (.object fields') → ofLine? line' = some event
  recomposed : ∃ members gap, line = Raw.objectText members ++ gap ∧ Json.Blank gap ∧
    members.map Raw.Member.field = fields ∧
    ∀ more members' gap', Adds fields (more.map Raw.Member.field) →
      members'.Perm (members ++ more) → Json.Blank gap' →
      ofLine? (Raw.objectText members' ++ gap') = some event
  defaults : Defaults fields event

/-- What an event line without repeated keys says depends neither on the order of its members nor on
    members that no event has. -/
theorem ofLine?_tolerant {line : List Char} (begins : EngineOutput.isEventLine line = true)
    (reads : Raw.ofChars? line = some (.object fields)) (distinct : (fields.map Prod.fst).Nodup)
    (decodes : ofLine? line = some event) : Tolerant line fields event := by
  have means := ofLine?_eq_some_iff.mp decodes
  obtain ⟨told, hread, -, tells⟩ := id means
  obtain rfl : told = fields := Raw.object.inj (Option.some.inj (hread.symm.trans reads))
  have reordered : ∀ more fields' line', Adds told more → fields'.Perm (told ++ more) →
      Raw.ofChars? line' = some (.object fields') → ofLine? line' = some event :=
    fun more fields' line' adds perm reads' =>
      ofLine?_eq_some_iff.mpr (means_of_perm means reads distinct adds perm reads')
  refine ⟨reordered, ?_, tells.defaults⟩
  obtain ⟨cs, rfl⟩ := List.head?_eq_some_iff.mp (beq_iff_eq.mp begins)
  obtain ⟨members, gap, hline, blank, rfl⟩ := Raw.exists_members tells.ne_nil reads
  refine ⟨members, gap, hline, blank, rfl, fun more members' gap' adds perm blank' => ?_⟩
  have hne : members' ≠ [] := by
    rintro rfl
    have hnil := List.append_eq_nil_iff.mp (List.nil_perm.mp perm)
    exact tells.ne_nil (List.map_eq_nil_iff.mpr hnil.1)
  refine reordered _ _ _ adds ?_ (Raw.ofChars?_objectText hne blank')
  rw [← List.map_append]
  exact perm.map Raw.Member.field

/-- A failure without kind, message and annotations, with a field that no event has. -/
theorem ofLine?_tolerant_failed :
    let line := "\x7b\"method\":\"m\",\"x\":[null],\"event\":\"failed\",\"class\":\"A\"\x7d".toList
    let fields : List (Option String × Raw) :=
      [(some "method", .string (some "m")), (some "x", .array [.null]),
        (some "event", .string (some "failed")), (some "class", .string (some "A"))]
    let event : EngineEvent := .report (.failed ⟨⟨"A", "m"⟩, []⟩ .assertion none)
    (EngineOutput.isEventLine line = true ∧ Raw.ofChars? line = some (.object fields) ∧
      (fields.map Prod.fst).Nodup ∧ ofLine? line = some event) ∧ Tolerant line fields event := by
  intro line fields event
  have begins : EngineOutput.isEventLine line = true := by decide
  have reads : Raw.ofChars? line = some (.object fields) := rfl
  have distinct : (fields.map Prod.fst).Nodup := by decide
  have decodes : ofLine? line = some event := by decide +kernel
  exact ⟨⟨begins, reads, distinct, decodes⟩, ofLine?_tolerant begins reads distinct decodes⟩

end

end Flaky.EngineEvent
