-- SUMMARY: Decimal texts read as the numbers that they stand for, back and forth: runs of digits, and signed integers of some bits.
import Flaky.Text.Decimal

/-!
# Reading decimal numbers

A numeral is a run of decimal digits, of any length and with zeros in front or not.
Reading one against a bound succeeds exactly if the number that it stands for is
within the bound: digits that follow never make a number smaller, so it does not
matter that the bound is looked at after each digit.
-/

namespace Flaky.Text

/-! ## Digits -/

theorem digit?_of_isDigit {c : Char} (h : c.isDigit) : digit? c = some (c.toNat - '0'.toNat) := by
  rw [Char.isDigit_iff_toNat] at h
  have hrange : '0' ≤ c ∧ c ≤ '9' := by
    simp only [Char.le_def, UInt32.le_iff_toNat_le]
    exact h
  rw [digit?, if_pos hrange]

theorem digit?_eq_none {c : Char} (h : ¬ c.isDigit) : digit? c = none := by
  refine if_neg fun hrange => h (Char.isDigit_iff_toNat.mpr ?_)
  simp only [Char.le_def, UInt32.le_iff_toNat_le] at hrange
  exact hrange

/-- Digits are read as the number that they stand for after those already read. -/
theorem valueOf?_eq_ofDigitChars {cs : List Char} (h : ∀ c ∈ cs, c.isDigit) (value : Nat) :
    valueOf? 10 digit? cs value = some (Nat.ofDigitChars 10 cs value) := by
  induction cs generalizing value with
  | nil => rfl
  | cons c rest ih =>
    rw [List.forall_mem_cons] at h
    have hsmall : c.toNat - '0'.toNat < 10 := by
      have hc := Char.isDigit_iff_toNat.mp h.1
      have hzero : '0'.toNat = 48 := rfl
      have hnine : '9'.toNat = 57 := rfl
      omega
    simp only [valueOf?, digit?_of_isDigit h.1, hsmall, if_true]
    rw [ih h.2, Nat.ofDigitChars_cons, Nat.mul_comm 10]

theorem toList_toString (n : Nat) : (toString n).toList = Nat.toDigits 10 n := by
  rw [Nat.toString_eq_ofList_toDigits, String.toList_ofList]

theorem toList_toString_negSucc (n : Nat) :
    (toString (Int.negSucc n)).toList = '-' :: Nat.toDigits 10 (n + 1) := by
  have hsign : toString (Int.negSucc n) = "-" ++ toString (n + 1) := rfl
  rw [hsign, String.toList_append, toList_toString]
  rfl

/-! ## Numerals -/

/-- A run of decimal digits, with the number that it stands for. -/
structure IsNumeral (digits : List Char) (n : Nat) : Prop where
  ne_nil : digits ≠ []
  isDigit : ∀ c ∈ digits, c.isDigit
  value : Nat.ofDigitChars 10 digits 0 = n

theorem isNumeral_toDigits (n : Nat) : IsNumeral (Nat.toDigits 10 n) n where
  ne_nil := Nat.toDigits_ne_nil
  isDigit _ := Nat.isDigit_of_mem_toDigits (by decide) (by decide)
  value := Nat.ofDigitChars_ten_toDigits

theorem nat?_toString (n : Nat) : nat? (toString n).toList = some n := by
  have numeral := isNumeral_toDigits n
  obtain ⟨c, rest, hcs⟩ := List.exists_cons_of_ne_nil numeral.ne_nil
  rw [toList_toString, hcs, nat?, ← hcs, valueOf?_eq_ofDigitChars numeral.isDigit, numeral.value]
  exact List.cons_ne_nil _ _

/-! ## Bounded integers -/

section

variable {digits : List Char} {n bits : Nat}

theorem IsNumeral.ne_sign (h : IsNumeral digits n) {c : Char} (hc : c.isDigit = false)
    (rest : List Char) : digits ≠ c :: rest := by
  rintro rfl
  rw [h.isDigit c List.mem_cons_self] at hc
  cases hc

theorem magnitude_eq_ok_iff {bound value : Nat} {overflow : IntegerError}
    (hvalue : value ≤ bound) : magnitude bound overflow digits value = .ok n ↔
      (∀ c ∈ digits, c.isDigit) ∧ Nat.ofDigitChars 10 digits value = n ∧ n ≤ bound := by
  induction digits generalizing value with
  | nil =>
    rw [magnitude, Except.ok.injEq, Nat.ofDigitChars_nil]
    exact ⟨fun h => ⟨fun _ hc => absurd hc List.not_mem_nil, h, h ▸ hvalue⟩, fun h => h.2.1⟩
  | cons c rest ih =>
    rw [magnitude, List.forall_mem_cons, Nat.ofDigitChars_cons, Nat.mul_comm 10]
    by_cases hc : c.isDigit
    · simp only [digit?_of_isDigit hc, hc, true_and]
      split
      case isTrue hfits => exact ih hfits
      case isFalse hover =>
        refine iff_of_false (fun h => by cases h) ?_
        rintro ⟨-, rfl, hle⟩
        refine hover (Nat.le_trans ?_ hle)
        -- the digits that follow multiply by ten and add
        rw [Nat.ofDigitChars_eq_ofDigitChars_zero]
        exact Nat.le_add_right_of_le (Nat.le_mul_of_pos_left _ (Nat.pow_pos (by decide)))
    · rw [digit?_eq_none hc]
      exact iff_of_false (fun h => by cases h) fun h => hc h.1.1

/-- Digits are read against a bound exactly if what is made of their number is within the bounds that
    stand for it. -/
theorem map_magnitude_eq_ok_iff {bound : Nat} {overflow : IntegerError} {f : Nat → Int}
    {m lower upper : Int} (h : digits ≠ [])
    (hbound : ∀ n, n ≤ bound ↔ lower ≤ f n ∧ f n < upper) :
    (do return f (← magnitude bound overflow digits 0) : Except IntegerError Int) = .ok m ↔
      (∃ n, IsNumeral digits n ∧ m = f n) ∧ lower ≤ m ∧ m < upper := by
  have read := fun n => @magnitude_eq_ok_iff digits n bound 0 overflow (Nat.zero_le bound)
  cases hread : magnitude bound overflow digits 0 with
  | error e =>
    refine iff_of_false (fun h => by cases h) ?_
    rintro ⟨⟨n, numeral, rfl⟩, hwithin⟩
    rw [(read n).mpr ⟨numeral.isDigit, numeral.value, (hbound n).mpr hwithin⟩] at hread
    cases hread
  | ok n =>
    obtain ⟨isDigit, value, hle⟩ := (read n).mp hread
    constructor
    · intro hm
      obtain rfl : f n = m := Except.ok.inj hm
      exact ⟨⟨n, ⟨h, isDigit, value⟩, rfl⟩, (hbound n).mp hle⟩
    · rintro ⟨⟨n', numeral, rfl⟩, -⟩
      rw [← numeral.value, value]
      rfl

/-- A numeral, with a sign or not, with the integer that it stands for. -/
inductive IsInteger : List Char → Int → Prop
  | plain {digits : List Char} {n : Nat} (h : IsNumeral digits n) : IsInteger digits n
  | plus {digits : List Char} {n : Nat} (h : IsNumeral digits n) : IsInteger ('+' :: digits) n
  | minus {digits : List Char} {n : Nat} (h : IsNumeral digits n) : IsInteger ('-' :: digits) (-n)

theorem isInteger_plus {m : Int} :
    IsInteger ('+' :: digits) m ↔ ∃ n : Nat, IsNumeral digits n ∧ m = n := by
  constructor
  · rintro (h | h)
    · exact absurd rfl (h.ne_sign rfl digits)
    · exact ⟨_, h, rfl⟩
  · rintro ⟨n, h, rfl⟩
    exact .plus h

theorem isInteger_minus {m : Int} :
    IsInteger ('-' :: digits) m ↔ ∃ n : Nat, IsNumeral digits n ∧ m = -n := by
  constructor
  · rintro (h | _ | h)
    · exact absurd rfl (h.ne_sign rfl digits)
    · exact ⟨_, h, rfl⟩
  · rintro ⟨n, h, rfl⟩
    exact .minus h

theorem isInteger_plain {m : Int} (hplus : ∀ rest, digits ≠ '+' :: rest)
    (hminus : ∀ rest, digits ≠ '-' :: rest) :
    IsInteger digits m ↔ ∃ n : Nat, IsNumeral digits n ∧ m = n := by
  constructor
  · rintro (h | h | h)
    · exact ⟨_, h, rfl⟩
    · exact absurd rfl (hplus _)
    · exact absurd rfl (hminus _)
  · rintro ⟨n, h, rfl⟩
    exact .plain h

/-- A text stands for one integer only. -/
theorem IsInteger.unique {m m' : Int} (h : IsInteger digits m) (h' : IsInteger digits m') :
    m = m' := by
  cases h with
  | plain h =>
    obtain ⟨n, hn, rfl⟩ := (isInteger_plain (h.ne_sign rfl) (h.ne_sign rfl)).mp h'
    rw [← h.value, hn.value]
  | plus h =>
    obtain ⟨n, hn, rfl⟩ := isInteger_plus.mp h'
    rw [← h.value, hn.value]
  | minus h =>
    obtain ⟨n, hn, rfl⟩ := isInteger_minus.mp h'
    rw [← h.value, hn.value]

theorem IsInteger.exists_and_iff {m : Int} {p : Int → Prop} (h : IsInteger digits m) :
    (∃ m', IsInteger digits m' ∧ p m') ↔ p m :=
  ⟨fun ⟨_, h', hp⟩ => h.unique h' ▸ hp, fun hp => ⟨m, h, hp⟩⟩

theorem isInteger_toString (m : Int) : IsInteger (toString m).toList m := by
  cases m with
  | ofNat n =>
    have htext : (toString (Int.ofNat n)).toList = Nat.toDigits 10 n := toList_toString n
    rw [htext]
    exact .plain (isNumeral_toDigits n)
  | negSucc n =>
    rw [toList_toString_negSucc]
    exact .minus (isNumeral_toDigits (n + 1))

/-- A text is read as a signed integer exactly if it is one and is within the bounds. -/
theorem signed_eq_ok_iff {m : Int} : signed bits digits = .ok m ↔
    IsInteger digits m ∧ -(twoTo (bits - 1) : Int) ≤ m ∧ m < twoTo (bits - 1) := by
  have hpos : 0 < twoTo (bits - 1) := Nat.pow_pos (by decide)
  have empty : ∀ n, ¬ IsNumeral [] n := fun _ h => h.ne_nil rfl
  unfold signed
  split
  case h_1 =>
    refine iff_of_false (fun h => by cases h) ?_
    rintro ⟨h | _ | _, -⟩
    exact empty _ h
  case h_2 =>
    rw [isInteger_plus]
    exact iff_of_false (fun h => by cases h) fun ⟨⟨n, h, _⟩, _⟩ => empty n h
  case h_3 =>
    rw [isInteger_minus]
    exact iff_of_false (fun h => by cases h) fun ⟨⟨n, h, _⟩, _⟩ => empty n h
  case h_4 digits hne =>
    rw [isInteger_minus]
    exact map_magnitude_eq_ok_iff hne (by omega)
  case h_5 digits hne =>
    rw [isInteger_plus]
    exact map_magnitude_eq_ok_iff hne (by omega)
  case h_6 _ hne _ _ hminus hplus =>
    rw [isInteger_plain hplus hminus]
    exact map_magnitude_eq_ok_iff hne (by omega)

end

end Flaky.Text
