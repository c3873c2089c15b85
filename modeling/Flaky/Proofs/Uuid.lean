-- SUMMARY: UUIDs read and written: which texts are UUIDs, in what forms, and that writing one and reading it back undo each other.
import Flaky.Uuid
import Mathlib.Algebra.Group.Nat.Defs
import Mathlib.Data.List.Induction

/-!
# Texts of UUIDs

The four forms of a UUID are told apart by their length, so each is read as itself. All
of them come down to a run of 32 hexadecimal digits, which is read as the number that is
written with these digits, letters small.
-/

namespace Flaky

/-! ## Hexadecimal digits -/

theorem Text.valueOf?_append {radix : Nat} {digit : Char → Option Nat} (first rest : List Char)
    (value : Nat) : valueOf? radix digit (first ++ rest) value =
      (valueOf? radix digit first value).bind (valueOf? radix digit rest) := by
  induction first generalizing value with
  | nil => rfl
  | cons c first ih =>
    rw [List.cons_append, valueOf?, valueOf?]
    cases digit c with
    | none => rfl
    | some d =>
      by_cases hd : d < radix
      · simp only [hd, if_true, ih]
      · simp only [hd, if_false, Option.bind_none]

namespace Uuid

/-- The hexadecimal digits that are written. -/
def smallDigits : List Char := "0123456789abcdef".toList

/-- The hexadecimal digits that are read, letters small or capital. -/
def anyDigits : List Char := "0123456789abcdefABCDEF".toList

theorem hexDigit?_hexDigit {n : Nat} (h : n < 16) : Text.hexDigit? (hexDigit n) = some n := by
  have all : ∀ m : Fin 16, Text.hexDigit? (hexDigit m) = some m.val := by decide
  exact all ⟨n, h⟩

theorem mem_anyDigits {c : Char} {d : Nat} (h : Text.hexDigit? c = some d) : c ∈ anyDigits := by
  have all : ∀ n : Fin 103, Text.hexDigit? (Char.ofNat n) ≠ none → Char.ofNat n ∈ anyDigits := by
    decide
  -- no digit is greater than the small `f`
  have hsmall : c.toNat < 103 := by
    have greatest : ∀ last : Char, last ≤ 'f' → c ≤ last → c.toNat < 103 := fun last hlast hc =>
      Nat.lt_succ_of_le (Char.le_trans hc hlast)
    unfold Text.hexDigit? at h
    split at h
    case isTrue hc => exact greatest '9' (by decide) hc.2
    case isFalse =>
      split at h
      case isTrue hc => exact greatest 'f' (by decide) hc.2
      case isFalse =>
        split at h
        case isTrue hc => exact greatest 'F' (by decide) hc.2
        case isFalse => cases h
  have hmem := all ⟨c.toNat, hsmall⟩
  simp only [Char.ofNat_toNat, h] at hmem
  exact hmem (Option.some_ne_none d)

/-- A digit is read as the one that it is with its letter small. -/
theorem exists_hexDigit {c : Char} (h : c ∈ anyDigits) :
    ∃ d, Text.hexDigit? c = some d ∧ d < 16 ∧ hexDigit d = c.toLower := by
  have all : (anyDigits.all fun c =>
      (Text.hexDigit? c).any fun d => d < 16 ∧ hexDigit d = c.toLower) = true := by decide
  simpa only [Option.any_eq_true, decide_eq_true_eq] using List.all_eq_true.mp all c h

/-- The last digits of a number are read as what they stand for. -/
theorem valueOf?_hexDigits (width n value : Nat) :
    Text.valueOf? 16 Text.hexDigit? (hexDigits width n) value =
      some (value * 16 ^ width + n % 16 ^ width) := by
  induction width generalizing n with
  | zero => simp [hexDigits, Text.valueOf?, Nat.mod_one]
  | succ width ih =>
    have hlast : n % 16 < 16 := Nat.mod_lt n (by decide)
    rw [hexDigits, Text.valueOf?_append, ih, Option.bind_some, Text.valueOf?,
      hexDigit?_hexDigit hlast]
    simp only [hlast, if_true, Text.valueOf?]
    rw [Nat.pow_succ, Nat.mul_comm (16 ^ width) 16, Nat.mod_mul, Nat.mul_left_comm]
    congr 1
    omega

theorem length_hexDigits (width n : Nat) : (hexDigits width n).length = width := by
  induction width generalizing n with
  | zero => rfl
  | succ width ih => rw [hexDigits, List.length_append, ih, List.length_singleton]

theorem hexDigits_subset (width n : Nat) : hexDigits width n ⊆ smallDigits := by
  have all : ∀ d : Fin 16, hexDigit d ∈ smallDigits := by decide
  induction width generalizing n with
  | zero => exact List.nil_subset _
  | succ width ih =>
    rw [hexDigits, List.append_subset]
    refine ⟨ih (n / 16), ?_⟩
    rw [List.cons_subset]
    exact ⟨all ⟨n % 16, Nat.mod_lt n (by decide)⟩, List.nil_subset _⟩

section

variable {cs : List Char}

theorem subset_anyDigits {value n : Nat}
    (h : Text.valueOf? 16 Text.hexDigit? cs value = some n) : cs ⊆ anyDigits := by
  induction cs generalizing value with
  | nil => exact List.nil_subset _
  | cons c rest ih =>
    rw [Text.valueOf?] at h
    split at h
    case h_1 d hd =>
      split at h
      case isTrue => exact List.cons_subset.mpr ⟨mem_anyDigits hd, ih h⟩
      case isFalse => cases h
    case h_2 => cases h

/-- Digits are those of a number, letters small. -/
theorem exists_hexDigits (h : cs ⊆ anyDigits) :
    ∃ n < 16 ^ cs.length, hexDigits cs.length n = cs.map Char.toLower := by
  induction cs using List.reverseRecOn with
  | nil => exact ⟨0, by decide, rfl⟩
  | append_singleton rest c ih =>
    rw [List.append_subset, List.cons_subset] at h
    obtain ⟨n, hlt, hdigits⟩ := ih h.1
    obtain ⟨d, -, hd, hc⟩ := exists_hexDigit h.2.1
    refine ⟨n * 16 + d, ?_, ?_⟩
    · rw [List.length_append, List.length_singleton, Nat.pow_succ]
      omega
    · have hrest : (n * 16 + d) / 16 = n := by omega
      have hlast : (n * 16 + d) % 16 = d := by omega
      rw [List.length_append, List.length_singleton, hexDigits, hrest, hlast, hdigits, hc,
        List.map_append, List.map_singleton]

/-- It does not matter for the value whether letters are small or capital. -/
theorem valueOf?_toLower (h : cs ⊆ anyDigits) (value : Nat) :
    Text.valueOf? 16 Text.hexDigit? (cs.map Char.toLower) value =
      Text.valueOf? 16 Text.hexDigit? cs value := by
  induction cs generalizing value with
  | nil => rfl
  | cons c rest ih =>
    rw [List.cons_subset] at h
    obtain ⟨d, hc, hd, hlower⟩ := exists_hexDigit h.1
    rw [List.map_cons, Text.valueOf?, Text.valueOf?, ← hlower, hexDigit?_hexDigit hd, hc]
    simp only [hd, if_true, ih h.2]

/-! ## Runs of 32 digits -/

/-- 32 hexadecimal digits. -/
structure IsDigits (cs : List Char) : Prop where
  length_eq : cs.length = 32
  subset : cs ⊆ anyDigits

theorem isDigits_of_ofSimple? {id : Uuid} (h : ofSimple? cs = some id) : IsDigits cs := by
  unfold ofSimple? at h
  split at h
  case isTrue hlength =>
    obtain ⟨n, hn, -⟩ := Option.map_eq_some_iff.mp h
    exact ⟨hlength, subset_anyDigits hn⟩
  case isFalse => cases h

theorem ofSimple?_hexDigits (id : Uuid) :
    ofSimple? (hexDigits 32 id.bits.toNat) = some id := by
  have hlt : id.bits.toNat % 16 ^ 32 = id.bits.toNat := Nat.mod_eq_of_lt id.bits.isLt
  simp only [ofSimple?, length_hexDigits, if_true, valueOf?_hexDigits, hlt]
  simp

theorem IsDigits.exists_uuid (h : IsDigits cs) :
    ∃ id : Uuid, hexDigits 32 id.bits.toNat = cs.map Char.toLower := by
  obtain ⟨n, hlt, hn⟩ := exists_hexDigits h.subset
  rw [h.length_eq] at hlt hn
  refine ⟨⟨BitVec.ofNat 128 n⟩, ?_⟩
  rw [BitVec.toNat_ofNat, Nat.mod_eq_of_lt (by omega), hn]

/-- Digits are read as the UUID that is written with them, letters small. -/
theorem IsDigits.ofSimple?_eq_some_iff {id : Uuid} (h : IsDigits cs) :
    ofSimple? cs = some id ↔ hexDigits 32 id.bits.toNat = cs.map Char.toLower := by
  have lower : ofSimple? (cs.map Char.toLower) = ofSimple? cs := by
    simp only [ofSimple?, List.length_map, valueOf?_toLower h.subset]
  have written : ∀ id : Uuid, hexDigits 32 id.bits.toNat = cs.map Char.toLower →
      ofSimple? cs = some id := fun id heq => by rw [← lower, ← heq, ofSimple?_hexDigits]
  refine ⟨fun hread => ?_, written id⟩
  obtain ⟨id', hid'⟩ := h.exists_uuid
  rwa [Option.some.inj (hread.symm.trans (written id' hid'))]

/-! ## Hyphens -/

/-- The digits in groups of 8, 4, 4, 4 and 12, with hyphens between the groups. -/
def Hyphenated (digits cs : List Char) : Prop :=
  ∃ groups : List (List Char), groups.map List.length = [8, 4, 4, 4, 12] ∧
    groups.flatten = digits ∧ ['-'].intercalate groups = cs

/-- The groups of digits that hyphens come between. -/
theorem exists_groups (h : cs.length = 32) :
    ∃ a b c d e : List Char, cs = a ++ (b ++ (c ++ (d ++ e))) ∧
      a.length = 8 ∧ b.length = 4 ∧ c.length = 4 ∧ d.length = 4 := by
  have next : ∀ n, (cs.drop n).take 4 ++ cs.drop (n + 4) = cs.drop n := by
    intro n
    rw [← List.drop_drop, List.take_append_drop]
  refine ⟨cs.take 8, (cs.drop 8).take 4, (cs.drop 12).take 4, (cs.drop 16).take 4, cs.drop 20, ?_,
    by simp [h], by simp [h], by simp [h], by simp [h]⟩
  rw [next 16, next 12, next 8, List.take_append_drop]

theorem hyphenate_groups {a b c d e : List Char} (ha : a.length = 8) (hb : b.length = 4)
    (hc : c.length = 4) (hd : d.length = 4) : hyphenate (a ++ (b ++ (c ++ (d ++ e)))) =
      a ++ '-' :: (b ++ '-' :: (c ++ '-' :: (d ++ '-' :: e))) := by
  simp [hyphenate, List.drop_append, List.drop_eq_nil_of_le, ha, hb, hc, hd]

theorem hyphenate_length (h : cs.length = 32) : (hyphenate cs).length = 36 := by
  simp [hyphenate, h]

theorem hyphenate_subset : hyphenate cs ⊆ '-' :: cs := by
  intro c hc
  simp only [hyphenate, List.mem_append, List.mem_cons] at hc
  rw [List.mem_cons]
  rcases hc with (((hc | rfl | hc) | rfl | hc) | rfl | hc) | rfl | hc
  all_goals first
    | exact .inl rfl
    | exact .inr (List.mem_of_mem_take hc)
    | exact .inr (List.mem_of_mem_drop (List.mem_of_mem_take hc))
    | exact .inr (List.mem_of_mem_drop hc)

theorem flatten_groups (a b c d e : List Char) :
    [a, b, c, d, e].flatten = a ++ (b ++ (c ++ (d ++ e))) := by simp

theorem intercalate_groups (a b c d e : List Char) : ['-'].intercalate [a, b, c, d, e] =
    a ++ '-' :: (b ++ '-' :: (c ++ '-' :: (d ++ '-' :: e))) := by simp [List.intercalate]

theorem hyphenated_iff {digits : List Char} :
    Hyphenated digits cs ↔ digits.length = 32 ∧ cs = hyphenate digits := by
  constructor
  · rintro ⟨groups, hlengths, rfl, rfl⟩
    simp only [List.map_eq_cons_iff, List.map_eq_nil_iff] at hlengths
    obtain ⟨a, _, rfl, ha, b, _, rfl, hb, c, _, rfl, hc, d, _, rfl, hd, e, _, rfl, he, rfl⟩ :=
      hlengths
    rw [flatten_groups, intercalate_groups, hyphenate_groups ha hb hc hd]
    exact ⟨by simp [ha, hb, hc, hd, he], rfl⟩
  · rintro ⟨hlength, rfl⟩
    obtain ⟨a, b, c, d, e, rfl, ha, hb, hc, hd⟩ := exists_groups hlength
    simp only [List.length_append] at hlength
    have he : e.length = 12 := by omega
    refine ⟨[a, b, c, d, e], by simp [ha, hb, hc, hd, he], flatten_groups a b c d e, ?_⟩
    rw [intercalate_groups, hyphenate_groups ha hb hc hd]

/-- Hyphens are taken out again where they were put in. -/
theorem ofHyphenated?_hyphenate (h : cs.length = 32) :
    ofHyphenated? (hyphenate cs) = ofSimple? cs := by
  obtain ⟨a, b, c, d, e, rfl, ha, hb, hc, hd⟩ := exists_groups h
  rw [hyphenate_groups ha hb hc hd, ofHyphenated?]
  simp [List.drop_append, List.getElem?_append, List.drop_eq_nil_of_le, ha, hb, hc, hd]

/-- Up to a hyphen there is a group of digits. -/
theorem drop_eq_of_hyphen {n m : Nat} (h : cs[n + m]? = some '-') :
    ((cs.drop n).take m).length = m ∧
      cs.drop n = (cs.drop n).take m ++ '-' :: cs.drop (n + m + 1) := by
  obtain ⟨hlt, hget⟩ := List.getElem?_eq_some_iff.mp h
  constructor
  · rw [List.length_take, List.length_drop]
    omega
  · rw [← hget, ← List.drop_eq_getElem_cons hlt, ← List.drop_drop, List.take_append_drop]

variable {id : Uuid}

/-- A text with hyphens is read as the digits are without them. -/
theorem ofHyphenated?_eq_some_iff :
    ofHyphenated? cs = some id ↔ ∃ digits, Hyphenated digits cs ∧ ofSimple? digits = some id := by
  constructor
  · intro h
    unfold ofHyphenated? at h
    simp only at h
    split at h
    case isFalse => cases h
    case isTrue hhyphens =>
      refine ⟨_, hyphenated_iff.mpr ⟨(isDigits_of_ofSimple? h).length_eq, ?_⟩, h⟩
      obtain ⟨h₁, h₂, h₃, h₄⟩ := hhyphens
      obtain ⟨ha, hfirst⟩ : (cs.take 8).length = 8 ∧ cs = cs.take 8 ++ '-' :: cs.drop 9 :=
        drop_eq_of_hyphen (n := 0) h₁
      obtain ⟨hb, hsecond⟩ := drop_eq_of_hyphen (n := 9) (m := 4) h₂
      obtain ⟨hc, hthird⟩ := drop_eq_of_hyphen (n := 14) (m := 4) h₃
      obtain ⟨hd, hfourth⟩ := drop_eq_of_hyphen (n := 19) (m := 4) h₄
      rw [List.append_assoc, List.append_assoc, List.append_assoc, hyphenate_groups ha hb hc hd,
        ← hfourth, ← hthird, ← hsecond]
      exact hfirst
  · rintro ⟨digits, hform, hread⟩
    obtain ⟨hlength, rfl⟩ := hyphenated_iff.mp hform
    rw [ofHyphenated?_hyphenate hlength, hread]

theorem Hyphenated.length_eq {digits : List Char} (h : Hyphenated digits cs) : cs.length = 36 := by
  obtain ⟨hlength, rfl⟩ := hyphenated_iff.mp h
  exact hyphenate_length hlength

theorem length_of_ofHyphenated? (h : ofHyphenated? cs = some id) : cs.length = 36 := by
  obtain ⟨digits, hform, -⟩ := ofHyphenated?_eq_some_iff.mp h
  exact hform.length_eq

/-! ## Forms -/

/-- The forms in which a UUID of some digits is read: without hyphens, or with them, also in
    braces or after `urn:uuid:`. -/
inductive Written (digits : List Char) : List Char → Prop
  | simple : Written digits digits
  | hyphenated {cs : List Char} (h : Hyphenated digits cs) : Written digits cs
  | braced {cs : List Char} (h : Hyphenated digits cs) : Written digits ('{' :: cs ++ ['}'])
  | urn {cs : List Char} (h : Hyphenated digits cs) : Written digits ("urn:uuid:".toList ++ cs)

theorem unwrap?_eq_some_iff {opening closing inner : List Char} :
    unwrap? opening closing cs = some inner ↔ cs = opening ++ inner ++ closing := by
  constructor
  · intro h
    unfold unwrap? at h
    split at h
    case isFalse => cases h
    case isTrue hcs =>
      obtain ⟨hlength, hopening, hclosing⟩ := hcs
      have hend : opening.length + (cs.length - opening.length - closing.length) =
          cs.length - closing.length := by omega
      have hrest : (cs.drop opening.length).drop (cs.length - opening.length - closing.length) =
          closing := by rw [List.drop_drop, hend, hclosing]
      rw [← Option.some.inj h, List.append_assoc]
      calc cs = cs.take opening.length ++ cs.drop opening.length := (List.take_append_drop _ _).symm
        _ = opening ++ ((cs.drop opening.length).take (cs.length - opening.length - closing.length)
              ++ (cs.drop opening.length).drop (cs.length - opening.length - closing.length)) := by
          rw [hopening, List.take_append_drop]
        _ = _ := by rw [hrest]
  · rintro rfl
    have hinner : (opening ++ inner ++ closing).length - closing.length =
        (opening ++ inner).length := by
      rw [List.length_append, Nat.add_sub_cancel]
    rw [unwrap?, hinner]
    simp

/-- What is read within a wrapping is what stands there: no two wrappings are equally long. -/
theorem findSome?_wrappings_eq_some_iff :
    (wrappings.findSome? fun w => (unwrap? w.1 w.2 cs).bind ofHyphenated?) = some id ↔
      ∃ w ∈ wrappings, ∃ inner, cs = w.1 ++ inner ++ w.2 ∧ ofHyphenated? inner = some id := by
  have within : ∀ (w : List Char × List Char) id,
      (unwrap? w.1 w.2 cs).bind ofHyphenated? = some id ↔
        ∃ inner, cs = w.1 ++ inner ++ w.2 ∧ ofHyphenated? inner = some id := fun w id => by
    simp only [Option.bind_eq_some_iff, unwrap?_eq_some_iff]
  constructor
  · intro h
    obtain ⟨w, hw, hread⟩ := List.exists_of_findSome?_eq_some h
    exact ⟨w, hw, (within w id).mp hread⟩
  · rintro ⟨w, hw, hinner⟩
    have hsome : (wrappings.findSome? fun w => (unwrap? w.1 w.2 cs).bind ofHyphenated?).isSome :=
      List.findSome?_isSome_iff.mpr ⟨w, hw, by rw [(within w id).mpr hinner, Option.isSome_some]⟩
    obtain ⟨id', hid'⟩ := Option.isSome_iff_exists.mp hsome
    obtain ⟨w', hw', hread'⟩ := List.exists_of_findSome?_eq_some hid'
    have apart : ∀ w ∈ wrappings, ∀ w' ∈ wrappings,
        w.1.length + w.2.length = w'.1.length + w'.2.length → w = w' := by decide
    obtain rfl : w = w' := by
      obtain ⟨inner, hcs, hread⟩ := hinner
      obtain ⟨inner', hcs', hread'⟩ := (within w' id').mp hread'
      have hlength := congrArg List.length (hcs.symm.trans hcs')
      simp only [List.length_append, length_of_ofHyphenated? hread,
        length_of_ofHyphenated? hread'] at hlength
      exact apart w hw w' hw' (by omega)
    rw [hid', ← hread', (within w id).mpr hinner]

/-- The texts that are read as a UUID. -/
theorem ofChars?_eq_some_iff :
    ofChars? cs = some id ↔ ∃ digits, Written digits cs ∧ ofSimple? digits = some id := by
  constructor
  · intro h
    rcases Option.or_eq_some_iff.mp h with hsimple | ⟨-, hwrapped⟩
    · exact ⟨cs, .simple, hsimple⟩
    · obtain ⟨w, hw, inner, rfl, hhyphenated⟩ := findSome?_wrappings_eq_some_iff.mp hwrapped
      obtain ⟨digits, hform, hread⟩ := ofHyphenated?_eq_some_iff.mp hhyphenated
      refine ⟨digits, ?_, hread⟩
      simp only [wrappings, List.mem_cons, List.not_mem_nil, or_false] at hw
      rcases hw with rfl | rfl | rfl
      · simpa using Written.hyphenated hform
      · exact .braced hform
      · simpa using Written.urn hform
  · rintro ⟨digits, written, hread⟩
    have wrapped : ∀ w ∈ wrappings, ∀ inner, Hyphenated digits inner →
        ofChars? (w.1 ++ inner ++ w.2) = some id := by
      intro w hw inner hform
      refine Option.or_eq_some_iff.mpr (.inr ⟨if_neg ?_, findSome?_wrappings_eq_some_iff.mpr
        ⟨w, hw, inner, rfl, ofHyphenated?_eq_some_iff.mpr ⟨digits, hform, hread⟩⟩⟩)
      simp only [List.length_append, hform.length_eq]
      omega
    cases written with
    | simple => rw [ofChars?, hread, Option.some_or]
    | hyphenated h => simpa using wrapped ([], []) (by decide) _ h
    | braced h => exact wrapped (['{'], ['}']) (by decide) _ h
    | urn h => simpa using wrapped ("urn:uuid:".toList, []) (by decide) _ h

/-- A UUID without braces or `urn:` is 32 or 36 characters long. -/
theorem length_of_ofChars? (h : ofChars? cs = some id) (hbrace : '{' ∉ cs) (hurn : 'u' ∉ cs) :
    cs.length = 32 ∨ cs.length = 36 := by
  obtain ⟨digits, written, hread⟩ := ofChars?_eq_some_iff.mp h
  cases written with
  | simple => exact .inl (isDigits_of_ofSimple? hread).length_eq
  | hyphenated h => exact .inr h.length_eq
  | braced => exact absurd List.mem_cons_self hbrace
  | urn => exact absurd (List.mem_append_left _ (by decide)) hurn

/-- A UUID is written with its digits and a few other characters, in whatever form. -/
theorem Written.subset {digits : List Char} (h : Written digits cs) :
    cs ⊆ "-{}urn:id".toList ++ digits := by
  have within : ∀ {inner}, Hyphenated digits inner → inner ⊆ "-{}urn:id".toList ++ digits := by
    intro inner hform
    obtain ⟨-, rfl⟩ := hyphenated_iff.mp hform
    exact List.Subset.trans hyphenate_subset (List.cons_subset.mpr
      ⟨List.mem_append_left _ (by decide), List.subset_append_right _ _⟩)
  have around : ∀ {other : List Char}, other ⊆ "-{}urn:id".toList →
      other ⊆ "-{}urn:id".toList ++ digits := fun h =>
    List.Subset.trans h (List.subset_append_left _ _)
  cases h with
  | simple => exact List.subset_append_right _ _
  | hyphenated h => exact within h
  | braced h =>
    exact List.append_subset.mpr
      ⟨List.cons_subset.mpr ⟨List.mem_append_left _ (by decide), within h⟩, around (by decide)⟩
  | urn h => exact List.append_subset.mpr ⟨around (by decide), within h⟩

/-! ## Texts that are written -/

theorem hyphenated_chars (id : Uuid) : Hyphenated (hexDigits 32 id.bits.toNat) id.chars :=
  hyphenated_iff.mpr ⟨length_hexDigits _ _, rfl⟩

/-- The text of a UUID is read as that UUID. -/
theorem ofChars?_chars (id : Uuid) : ofChars? id.chars = some id :=
  ofChars?_eq_some_iff.mpr ⟨_, .hyphenated id.hyphenated_chars, ofSimple?_hexDigits id⟩

theorem length_chars (id : Uuid) : id.chars.length = 36 := id.hyphenated_chars.length_eq

/-- The digits of which the text of a UUID is made, with the hyphen. -/
def digits : List Char := (List.range 16).map hexDigit ++ ['-']

theorem chars_subset (id : Uuid) : id.chars ⊆ digits := by
  have hdigits : '-' :: smallDigits ⊆ digits := by decide
  exact List.Subset.trans hyphenate_subset
    (List.Subset.trans (List.cons_subset_cons _ (hexDigits_subset _ _)) hdigits)

end

end Uuid

end Flaky
