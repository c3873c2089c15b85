-- SUMMARY: Execution ids read and written: which texts are ids, that an id is read back from its text, and which texts ids are shown as.
import Flaky.ExecutionId
import Flaky.Proofs.Uuid

/-!
# Texts of execution ids

A text is an execution id if it is a UUID, with `clean_` in front or not. No UUID has an
`l` in it, so what is in front is never taken for a part of the UUID, nor the other way
round. Each id is shown as one of the texts that are read as it, the one with hyphens
and small letters, so ids that are shown alike are the same.
-/

namespace Flaky.ExecutionId

/-! ## Reading -/

/-- What stands in front of the UUID. -/
def opening (baseline : Bool) : List Char := if baseline then "clean_".toList else []

@[simp] theorem opening_true : opening true = baselineMark := rfl

@[simp] theorem opening_false : opening false = [] := rfl

theorem chars_eq (id : ExecutionId) : id.chars = opening id.baseline ++ id.uuid.chars := by
  cases h : id.baseline <;> simp [chars, h]

/-- A text of an id, with a UUID of some digits in any form. -/
structure Spelled (baseline : Bool) (digits cs : List Char) : Prop where
  isDigits : Uuid.IsDigits digits
  text : ∃ body, Uuid.Written digits body ∧ cs = opening baseline ++ body

/-- The text of an id with a UUID of some digits as it is shown. -/
structure Shown (baseline : Bool) (digits cs : List Char) : Prop where
  small : digits ⊆ Uuid.smallDigits
  text : ∃ body, Uuid.Hyphenated digits body ∧ cs = opening baseline ++ body

/-- The mark of a baseline is told from a UUID by the `l` in it. -/
theorem take_ne_baselineMark {digits body : List Char} (hdigits : Uuid.IsDigits digits)
    (written : Uuid.Written digits body) : body.take baselineMark.length ≠ baselineMark := by
  intro heq
  have hmem : 'l' ∈ body.take baselineMark.length := by
    rw [heq]
    decide
  rcases List.mem_append.mp (written.subset (List.mem_of_mem_take hmem)) with h | h
  · exact absurd h (by decide)
  · exact absurd (hdigits.subset h) (by decide)

section

variable {cs : List Char} {id : ExecutionId}

/-- The texts that are read as an id. -/
theorem ofChars?_eq_some_iff : ofChars? cs = some id ↔ ∃ digits,
    Spelled id.baseline digits cs ∧ Uuid.ofSimple? digits = some id.uuid := by
  constructor
  · intro h
    unfold ofChars? at h
    split at h
    case isTrue hmark =>
      obtain ⟨uuid, huuid, rfl⟩ := Option.map_eq_some_iff.mp h
      obtain ⟨digits, written, hread⟩ := Uuid.ofChars?_eq_some_iff.mp huuid
      refine ⟨digits, ⟨Uuid.isDigits_of_ofSimple? hread, _, written, ?_⟩, hread⟩
      calc cs = cs.take baselineMark.length ++ cs.drop baselineMark.length :=
            (List.take_append_drop _ _).symm
        _ = opening true ++ cs.drop baselineMark.length := by rw [hmark, opening_true]
    case isFalse =>
      obtain ⟨uuid, huuid, rfl⟩ := Option.map_eq_some_iff.mp h
      obtain ⟨digits, written, hread⟩ := Uuid.ofChars?_eq_some_iff.mp huuid
      exact ⟨digits, ⟨Uuid.isDigits_of_ofSimple? hread, cs, written, rfl⟩, hread⟩
  · rintro ⟨digits, ⟨hdigits, body, written, rfl⟩, hread⟩
    have hbody := Uuid.ofChars?_eq_some_iff.mpr ⟨digits, written, hread⟩
    obtain ⟨baseline, uuid⟩ := id
    cases baseline with
    | true => simp [ofChars?, hbody]
    | false => simp [ofChars?, take_ne_baselineMark hdigits written, hbody]

theorem baseline_iff (h : ofChars? cs = some id) :
    id.baseline = true ↔ "clean_".toList <+: cs := by
  obtain ⟨digits, ⟨hdigits, body, written, rfl⟩, -⟩ := ofChars?_eq_some_iff.mp h
  cases id.baseline with
  | true => exact iff_of_true rfl (List.prefix_append _ _)
  | false =>
    refine iff_of_false Bool.false_ne_true fun hprefix => take_ne_baselineMark hdigits written ?_
    exact (List.prefix_iff_eq_take.mp hprefix).symm

end

/-! ## Writing -/

/-- The text of an execution id is read as that id. -/
theorem ofChars?_chars (id : ExecutionId) : ofChars? id.chars = some id := by
  have hread := Uuid.ofSimple?_hexDigits id.uuid
  exact ofChars?_eq_some_iff.mpr ⟨_, ⟨Uuid.isDigits_of_ofSimple? hread,
    _, .hyphenated id.uuid.hyphenated_chars, id.chars_eq⟩, hread⟩

theorem shown_chars (id : ExecutionId) :
    Shown id.baseline (Uuid.hexDigits 32 id.uuid.bits.toNat) id.chars :=
  ⟨Uuid.hexDigits_subset _ _, _, id.uuid.hyphenated_chars, id.chars_eq⟩

section

variable {baseline : Bool} {digits cs : List Char} {id : ExecutionId}

/-- Digits of an id are shown with small letters, whatever they were and in whatever form. -/
theorem Spelled.shown (spelled : Spelled baseline digits cs) (h : ofChars? cs = some id) :
    id.baseline = baseline ∧ Shown baseline (digits.map Char.toLower) id.chars := by
  obtain ⟨uuid, huuid⟩ := spelled.isDigits.exists_uuid
  have hread := spelled.isDigits.ofSimple?_eq_some_iff.mpr huuid
  have hid : ofChars? cs = some ⟨baseline, uuid⟩ :=
    ofChars?_eq_some_iff.mpr ⟨digits, spelled, hread⟩
  obtain rfl := Option.some.inj (h.symm.trans hid)
  exact ⟨rfl, huuid ▸ shown_chars ⟨baseline, uuid⟩⟩

/-- The texts that ids are shown as. -/
theorem Shown.exists_chars (shown : Shown baseline digits cs) :
    ∃ id : ExecutionId, id.chars = cs := by
  have all : (Uuid.smallDigits.all fun c => c ∈ Uuid.anyDigits ∧ c.toLower = c) = true := by decide
  have small := fun c hc => of_decide_eq_true (List.all_eq_true.mp all c hc)
  obtain ⟨body, hyphenated, rfl⟩ := shown.text
  obtain ⟨hlength, rfl⟩ := Uuid.hyphenated_iff.mp hyphenated
  have hdigits : Uuid.IsDigits digits := ⟨hlength, fun c hc => (small c (shown.small hc)).1⟩
  obtain ⟨uuid, huuid⟩ := hdigits.exists_uuid
  have hlower : digits.map Char.toLower = digits :=
    (List.map_congr_left fun c hc => (small c (shown.small hc)).2).trans (List.map_id digits)
  refine ⟨⟨baseline, uuid⟩, ?_⟩
  rw [chars_eq, Uuid.chars, huuid, hlower]

end

/-- Ids and their texts. Each id is read back from the text that it is shown as, so no two ids are
    shown alike. A text is an id exactly if it is spelled as one; it is one of a baseline exactly
    if `clean_` is in front, and is shown with hyphens and small letters. The texts that are shown
    as they are read are those with hyphens and small letters. -/
theorem text_canonical :
    (∀ id : ExecutionId, ofText? id.text = some id) ∧
    (∀ id id' : ExecutionId, id.text = id'.text → id = id') ∧
    (∀ text, (∃ id, ofText? text = some id) ↔
      ∃ baseline digits, Spelled baseline digits text.toList) ∧
    (∀ text id, ofText? text = some id →
      (id.baseline = true ↔ "clean_".toList <+: text.toList)) ∧
    (∀ text id baseline digits, ofText? text = some id → Spelled baseline digits text.toList →
      id.baseline = baseline ∧ Shown baseline (digits.map Char.toLower) id.text.toList) ∧
    (∀ text, (∃ id, ofText? text = some id ∧ id.text = text) ↔
      ∃ baseline digits, Shown baseline digits text.toList) := by
  have htext : ∀ id : ExecutionId, id.text.toList = id.chars := fun _ => String.toList_ofList
  have back : ∀ id : ExecutionId, ofText? id.text = some id := by
    intro id
    rw [ofText?, htext, ofChars?_chars]
  refine ⟨back, ?_, ?_, fun _ _ => baseline_iff, ?_, ?_⟩
  · intro id id' h
    exact Option.some.inj ((back id).symm.trans (h ▸ back id'))
  · intro text
    constructor
    · rintro ⟨id, h⟩
      obtain ⟨digits, spelled, -⟩ := ofChars?_eq_some_iff.mp h
      exact ⟨id.baseline, digits, spelled⟩
    · rintro ⟨baseline, digits, spelled⟩
      obtain ⟨uuid, huuid⟩ := spelled.isDigits.exists_uuid
      exact ⟨⟨baseline, uuid⟩, ofChars?_eq_some_iff.mpr
        ⟨digits, spelled, spelled.isDigits.ofSimple?_eq_some_iff.mpr huuid⟩⟩
  · intro text id baseline digits h spelled
    rw [htext]
    exact spelled.shown h
  · intro text
    constructor
    · rintro ⟨id, -, rfl⟩
      exact ⟨_, _, htext id ▸ id.shown_chars⟩
    · rintro ⟨baseline, digits, shown⟩
      obtain ⟨id, hid⟩ := shown.exists_chars
      obtain rfl : id.text = text := by rw [ExecutionId.text, hid, String.ofList_toList]
      exact ⟨id, back id, rfl⟩

/-! ## Characters -/

theorem chars_subset (id : ExecutionId) : id.chars ⊆ baselineMark ++ Uuid.digits := by
  unfold chars
  split
  · exact List.append_subset.mpr ⟨List.subset_append_left _ _,
      List.Subset.trans id.uuid.chars_subset (List.subset_append_right _ _)⟩
  · exact List.Subset.trans id.uuid.chars_subset (List.subset_append_right _ _)

/-- The text of an execution id is on one line. -/
theorem newline_not_mem_chars (id : ExecutionId) : '\n' ∉ id.chars := by
  intro hmem
  have hdigit := id.chars_subset hmem
  revert hdigit
  decide

theorem chars_ascii (id : ExecutionId) : ∀ c ∈ id.chars, c.toNat < 0x80 := by
  have all : ((baselineMark ++ Uuid.digits).all fun c => c.toNat < 0x80) = true := by decide
  intro c hc
  exact of_decide_eq_true (List.all_eq_true.mp all c (id.chars_subset hc))

end Flaky.ExecutionId
