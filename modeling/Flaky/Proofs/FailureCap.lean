-- SUMMARY: Failure caps on the command line and in configuration files: which texts and which data are caps, and that both ways of giving one agree.
import Flaky.Proofs.Decimal
import Flaky.Settings.Values
import Mathlib.Algebra.Group.Int.Defs
import Mathlib.Algebra.Group.Nat.Defs
import Mathlib.Data.List.Forall2

/-!
# Failure caps read two ways

A configuration file gives a cap as an integer, the command line as a text. The text is
read as a 64-bit integer first and narrowed afterwards, while the integer is narrowed at
once; both let through the positive 32-bit counts and no other number. Only the command
line takes the number as a text, and `unlimited` in other letters than small ones.
-/

namespace Flaky.FailureCap

/-! ## Counts -/

/-- The cap is one that can be read. -/
def InRange : FailureCap → Prop
  | .count n => 1 ≤ n ∧ n ≤ 2 ^ 32 - 1
  | .unlimited => True

theorem ofInt?_eq_some_iff {m : Int} {cap : FailureCap} :
    ofInt? m = some cap ↔ ∃ n : Nat, m = n ∧ cap = .count n ∧ cap.InRange := by
  have hlargest : largest = 2 ^ 32 - 1 := rfl
  unfold ofInt?
  split
  case isTrue h =>
    obtain ⟨n, rfl⟩ := Int.eq_ofNat_of_zero_le (Int.le_of_lt h.1)
    rw [hlargest] at h
    constructor
    · intro hcap
      obtain rfl : .count n = cap := Option.some.inj hcap
      exact ⟨n, rfl, rfl, by omega, by omega⟩
    · rintro ⟨n', hn, rfl, -⟩
      rw [Int.toNat_natCast, Int.ofNat_inj.mp hn]
  case isFalse h =>
    refine iff_of_false (fun h => by cases h) ?_
    rintro ⟨n, rfl, rfl, hpos, hmax⟩
    exact h ⟨by omega, by omega⟩

/-! ## Texts -/

/-- A capital letter is 32 places before its small one. -/
theorem toNat_toLower (c : Char) :
    c.toLower.toNat = if 65 ≤ c.toNat ∧ c.toNat ≤ 90 then c.toNat + 32 else c.toNat := by
  have capital : (c.val ≥ 'A'.val ∧ c.val ≤ 'Z'.val) ↔ 65 ≤ c.toNat ∧ c.toNat ≤ 90 := Iff.rfl
  unfold Char.toLower
  simp only [capital]
  split
  case isTrue h =>
    have hsum : (c.val + ('a'.val - 'A'.val)).toNat = (c.toNat + 32) % 2 ^ 32 := UInt32.toNat_add _ _
    exact hsum.trans (Nat.mod_eq_of_lt (by omega))
  case isFalse h => rfl

theorem toNat_toUpper (c : Char) :
    c.toUpper.toNat = if 97 ≤ c.toNat ∧ c.toNat ≤ 122 then c.toNat - 32 else c.toNat := by
  have small : ('a'.val ≤ c.val ∧ c.val ≤ 'z'.val) ↔ 97 ≤ c.toNat ∧ c.toNat ≤ 122 := Iff.rfl
  unfold Char.toUpper
  simp only [small]
  split
  case isTrue h =>
    have hsum : (c.val + ('A'.val - 'a'.val)).toNat = (c.toNat + (2 ^ 32 - 32)) % 2 ^ 32 :=
      UInt32.toNat_add _ _
    refine hsum.trans ?_
    omega
  case isFalse h => rfl

/-- A small letter is the lower case of itself and of its capital only. -/
theorem toLower_eq_iff {c letter : Char} (h : letter.isLower) :
    c.toLower = letter ↔ c = letter ∨ c = letter.toUpper := by
  have bounds : (decide (letter.val ≥ 'a'.val) && decide (letter.val ≤ 'z'.val)) = true := h
  have small : 97 ≤ letter.toNat ∧ letter.toNat ≤ 122 := by
    simpa [UInt32.le_iff_toNat_le] using bounds
  rw [← Char.toNat_inj, ← Char.toNat_inj, ← Char.toNat_inj, toNat_toLower, toNat_toUpper,
    if_pos small]
  split <;> omega

theorem map_toLower_eq_iff {cs letters : List Char} (h : ∀ letter ∈ letters, letter.isLower) :
    cs.map Char.toLower = letters ↔
      List.Forall₂ (fun c letter => c = letter ∨ c = letter.toUpper) cs letters := by
  induction letters generalizing cs with
  | nil => simp
  | cons letter letters ih =>
    rw [List.forall_mem_cons] at h
    cases cs with
    | nil => simp
    | cons c cs => simp [toLower_eq_iff h.1, ih h.2]

/-- A text that says `unlimited`, each letter small or capital. -/
def SaysUnlimited (cs : List Char) : Prop :=
  List.Forall₂ (fun c letter => c = letter ∨ c = letter.toUpper) cs "unlimited".toList

theorem lowered_eq_iff {s : String} :
    lowered s = "unlimited".toList ↔ SaysUnlimited s.toList := by
  have small : "unlimited".toList.all Char.isLower = true := by decide
  exact map_toLower_eq_iff (List.all_eq_true.mp small)

/-- No integer says `unlimited`: it begins with a digit or a sign. -/
theorem not_saysUnlimited {cs : List Char} {m : Int} (h : Text.IsInteger cs m) :
    ¬ SaysUnlimited cs := by
  rintro (_ | ⟨hfirst, -⟩)
  cases h with
  | plain h =>
    have hdigit := h.isDigit _ List.mem_cons_self
    rcases hfirst with rfl | rfl <;> exact absurd hdigit (by decide)
  | plus h => exact absurd hfirst (by decide)
  | minus h => exact absurd hfirst (by decide)

/-- A text is a cap if it says `unlimited` or is an integer that is one. -/
theorem ofText_eq_ok_iff {s : String} {cap : FailureCap} : ofText s = .ok cap ↔
    SaysUnlimited s.toList ∧ cap = .unlimited ∨
    ∃ m, Text.IsInteger s.toList m ∧ ofInt? m = some cap := by
  unfold ofText
  split
  case isTrue h =>
    have hsays := lowered_eq_iff.mp h
    simp only [Except.ok.injEq, hsays, true_and, eq_comm (a := FailureCap.unlimited)]
    refine (or_iff_left ?_).symm
    rintro ⟨m, integer, -⟩
    exact not_saysUnlimited integer hsays
  case isFalse h =>
    rw [lowered_eq_iff] at h
    simp only [h, false_and, false_or]
    cases hread : Text.signed 64 s.toList with
    | error e =>
      -- a cap is within 64 bits, so it would have been read
      refine iff_of_false (fun h => by cases h) ?_
      rintro ⟨m, integer, hcap⟩
      obtain ⟨n, rfl, rfl, hpos, hmax⟩ := ofInt?_eq_some_iff.mp hcap
      have hbits : twoTo (64 - 1) = 2 ^ 63 := rfl
      rw [Text.signed_eq_ok_iff.mpr ⟨integer, by omega, by omega⟩] at hread
      cases hread
    | ok m =>
      obtain ⟨integer, -⟩ := Text.signed_eq_ok_iff.mp hread
      rw [integer.exists_and_iff, ofInt?]
      by_cases hpos : m ≤ 0 <;> by_cases hmax : m ≤ largest <;> simp [hpos, hmax, ← Int.not_le]

theorem ofText_eq_unlimited_iff {s : String} :
    ofText s = .ok .unlimited ↔ SaysUnlimited s.toList := by
  simp [ofText_eq_ok_iff, ofInt?_eq_some_iff]

/-- A count is written as its digits, with a plus in front or not. -/
theorem ofText_eq_count_iff {s : String} {n : Nat} : ofText s = .ok (.count n) ↔
    ∃ digits, (s.toList = digits ∨ s.toList = '+' :: digits) ∧ Text.IsNumeral digits n ∧
      1 ≤ n ∧ n ≤ 2 ^ 32 - 1 := by
  have counts : ∀ m, ofInt? m = some (.count n) ↔ m = n ∧ 1 ≤ n ∧ n ≤ 2 ^ 32 - 1 := by
    intro m
    rw [ofInt?_eq_some_iff]
    constructor
    · rintro ⟨n', rfl, hn, hrange⟩
      cases hn
      exact ⟨rfl, hrange⟩
    · rintro ⟨rfl, hrange⟩
      exact ⟨n, rfl, rfl, hrange⟩
  simp only [ofText_eq_ok_iff, reduceCtorEq, and_false, false_or, counts]
  constructor
  · rintro ⟨m, integer, hm, hrange⟩
    generalize s.toList = cs at integer
    cases integer with
    | plain h =>
      obtain rfl := Int.ofNat_inj.mp hm
      exact ⟨_, .inl rfl, h, hrange⟩
    | plus h =>
      obtain rfl := Int.ofNat_inj.mp hm
      exact ⟨_, .inr rfl, h, hrange⟩
    | minus => omega
  · rintro ⟨digits, hs | hs, numeral, hrange⟩
    · exact ⟨n, hs ▸ .plain numeral, rfl, hrange⟩
    · exact ⟨n, hs ▸ .plus numeral, rfl, hrange⟩

/-- The text of a number is a cap exactly if the number is, and the same one. -/
theorem ofText_toString {m : Int} {cap : FailureCap} :
    ofText (toString m) = .ok cap ↔ ofInt? m = some cap := by
  have integer := Text.isInteger_toString m
  rw [ofText_eq_ok_iff, or_iff_right fun h => not_saysUnlimited integer h.1,
    integer.exists_and_iff]

theorem inRange_of_ofText {s : String} {cap : FailureCap} (h : ofText s = .ok cap) :
    cap.InRange := by
  obtain ⟨-, rfl⟩ | ⟨m, -, hcap⟩ := ofText_eq_ok_iff.mp h
  · trivial
  · obtain ⟨n, -, -, hrange⟩ := ofInt?_eq_some_iff.mp hcap
    exact hrange

/-- The text of a cap that can be read is read as that cap. -/
theorem ofText_text {cap : FailureCap} (h : cap.InRange) : ofText cap.text = .ok cap := by
  cases cap with
  | count n =>
    have htext : (count n).text = toString (n : Int) := rfl
    rw [htext, ofText_toString]
    exact ofInt?_eq_some_iff.mpr ⟨n, rfl, rfl, h⟩
  | unlimited => rfl

/-! ## Data -/

section

variable {dialect : Dialect} {cap : FailureCap}

theorem read_integer_eq_ok_iff {m : Int} :
    read dialect (.integer m) = .ok cap ↔ ofInt? m = some cap := by
  rw [read]
  cases ofInt? m <;> simp

/-- No number in quotes is a cap. -/
theorem read_text_eq_ok_iff {s : String} :
    read dialect (.text s) = .ok cap ↔ s = "unlimited" ∧ cap = .unlimited := by
  rw [read]
  split
  case isTrue h => simp [h, eq_comm]
  case isFalse h =>
    refine iff_of_false (fun hread => ?_) fun hread => h hread.1
    split at hread <;> cases hread

theorem inRange_of_read {datum : Datum} (h : read dialect datum = .ok cap) : cap.InRange := by
  cases datum with
  | integer m =>
    obtain ⟨n, -, -, hrange⟩ := ofInt?_eq_some_iff.mp (read_integer_eq_ok_iff.mp h)
    exact hrange
  | text s =>
    rw [(read_text_eq_ok_iff.mp h).2]
    trivial
  | _ => cases h

end

/-! ## Both ways -/

/-- A configuration file and the command line let the same numbers through, the positive
    32-bit counts. A text is a count if it is the digits of one, whatever zeros and plus are in
    front, and no limit if it says `unlimited`; in quotes, only `unlimited` itself is a cap.
    The text of a cap read either way is read as that cap. -/
theorem read_agrees_ofText :
    (∀ dialect m cap, read dialect (.integer m) = .ok cap ↔ ofText (toString m) = .ok cap) ∧
    (∀ dialect m cap, read dialect (.integer m) = .ok cap ↔
      (1 ≤ m ∧ m ≤ 2 ^ 32 - 1) ∧ cap = .count m.toNat) ∧
    (∀ s n, ofText s = .ok (.count n) ↔
      ∃ digits, (s.toList = digits ∨ s.toList = '+' :: digits) ∧ Text.IsNumeral digits n ∧
        1 ≤ n ∧ n ≤ 2 ^ 32 - 1) ∧
    (∀ s, ofText s = .ok .unlimited ↔ SaysUnlimited s.toList) ∧
    (∀ dialect s cap, read dialect (.text s) = .ok cap ↔ s = "unlimited" ∧ cap = .unlimited) ∧
    (∀ cap, ((∃ s, ofText s = .ok cap) ∨ ∃ dialect datum, read dialect datum = .ok cap) →
      ofText cap.text = .ok cap) := by
  refine ⟨?_, ?_, fun _ _ => ofText_eq_count_iff, fun _ => ofText_eq_unlimited_iff,
    fun _ _ _ => read_text_eq_ok_iff, ?_⟩
  · intro dialect m cap
    rw [read_integer_eq_ok_iff, ofText_toString]
  · intro dialect m cap
    rw [read_integer_eq_ok_iff, ofInt?_eq_some_iff]
    constructor
    · rintro ⟨n, rfl, rfl, hpos, hmax⟩
      exact ⟨⟨by omega, by omega⟩, rfl⟩
    · rintro ⟨⟨hpos, hmax⟩, rfl⟩
      obtain ⟨n, rfl⟩ := Int.eq_ofNat_of_zero_le (by omega : 0 ≤ m)
      exact ⟨n, rfl, rfl, show 1 ≤ n by omega, show n ≤ 2 ^ 32 - 1 by omega⟩
  · rintro cap (⟨s, h⟩ | ⟨dialect, datum, h⟩)
    · exact ofText_text (inRange_of_ofText h)
    · exact ofText_text (inRange_of_read h)

end Flaky.FailureCap
