-- SUMMARY: What trimming a text leaves of it, and of a part of it that was cut off at the end.
import Flaky.Text.Blank
import Flaky.Text.Lines
import Mathlib.Data.List.DropRight

/-!
# Trimmed texts

White space around a text does not count once the text is trimmed, so neither does the
carriage return of a line break. If a text is cut, trimming leaves the same of what is
before the cut as of the whole exactly if only white space was cut off.
-/

namespace Flaky.Text

/-- White space throughout. -/
def IsBlank (cs : List Char) : Prop := ∀ c ∈ cs, isBlank c = true

/-- A text without the white space at its end. -/
def trimEnd (cs : List Char) : List Char := cs.rdropWhile isBlank

theorem trim_eq (cs : List Char) : trim cs = trimEnd (trimStart cs) := rfl

variable {c : Char} {cs rest : List Char}

/-! ## White space around a text -/

@[simp] theorem trim_nil : trim [] = [] := rfl

theorem trimStart_eq_nil : trimStart cs = [] ↔ IsBlank cs := List.dropWhile_eq_nil_iff

theorem trimEnd_eq_nil : trimEnd cs = [] ↔ IsBlank cs := List.rdropWhile_eq_nil_iff

theorem trimStart_append (rest : List Char) (h : trimStart cs ≠ []) :
    trimStart (cs ++ rest) = trimStart cs ++ rest := by
  rw [trimStart, List.dropWhile_append, if_neg]
  · rfl
  · rwa [List.isEmpty_iff]

theorem trimStart_blank_append (h : IsBlank cs) : trimStart (cs ++ rest) = trimStart rest := by
  rw [trimStart, List.dropWhile_append, if_pos]
  · rfl
  · exact List.isEmpty_iff.mpr (trimStart_eq_nil.mpr h)

theorem trimEnd_append_blank (h : IsBlank rest) : trimEnd (cs ++ rest) = trimEnd cs := by
  have hrest : IsBlank rest.reverse := fun c hc => h c (List.mem_reverse.mp hc)
  rw [trimEnd, List.rdropWhile, List.reverse_append]
  exact congrArg List.reverse (trimStart_blank_append hrest)

theorem trimEnd_append (h : trimEnd rest ≠ []) : trimEnd (cs ++ rest) = cs ++ trimEnd rest := by
  have hrest : trimStart rest.reverse ≠ [] := fun hnil => h (List.reverse_eq_nil_iff.mpr hnil)
  rw [trimEnd, List.rdropWhile, List.reverse_append]
  have happend := congrArg List.reverse (trimStart_append cs.reverse hrest)
  rwa [List.reverse_append, List.reverse_reverse] at happend

theorem trim_of_blank (h : IsBlank cs) : trim cs = [] := by
  rw [trim_eq, trimStart_eq_nil.mpr h]
  rfl

theorem trim_blank_append (h : IsBlank cs) : trim (cs ++ rest) = trim rest := by
  rw [trim_eq, trimStart_blank_append h, trim_eq]

theorem trim_append_blank (h : IsBlank rest) : trim (cs ++ rest) = trim cs := by
  by_cases hcs : trimStart cs = []
  · rw [trim_blank_append (trimStart_eq_nil.mp hcs), trim_of_blank h,
      trim_of_blank (trimStart_eq_nil.mp hcs)]
  · rw [trim_eq, trimStart_append rest hcs, trimEnd_append_blank h, trim_eq]

/-- The carriage return of a line break is white space. -/
theorem trim_dropReturn (line : List Char) : trim (dropReturn line) = trim line := by
  unfold dropReturn
  split
  case isTrue h =>
    rw [← List.dropLast_append_getLast? '\r' h, List.dropLast_concat,
      trim_append_blank (List.forall_mem_singleton.mpr rfl)]
  case isFalse => rfl

theorem trim_getLast (h : (trim cs).getLast? = some c) : isBlank c = false := by
  have hne : trim cs ≠ [] := by
    rintro hnil
    rw [hnil] at h
    cases h
  have hlast := List.rdropWhile_last_not isBlank (trimStart cs) hne
  rw [List.getLast?_eq_some_getLast hne, Option.some.injEq] at h
  rw [← h]
  exact Bool.eq_false_iff.mpr hlast

/-- Trimming at the end leaves what trimming leaves, and the white space before it. -/
theorem trimEnd_eq_append (cs : List Char) : ∃ gap, IsBlank gap ∧ trimEnd cs = gap ++ trim cs := by
  by_cases hcs : IsBlank cs
  · refine ⟨[], List.forall_mem_nil _, ?_⟩
    rw [trimEnd_eq_nil.mpr hcs, trim_of_blank hcs]
    rfl
  · have hgap : IsBlank (cs.takeWhile isBlank) := fun c hc => List.mem_takeWhile_imp hc
    have hsplit : cs.takeWhile isBlank ++ trimStart cs = cs := List.takeWhile_append_dropWhile
    have hend : trimEnd (trimStart cs) ≠ [] := by
      intro hnil
      refine hcs ?_
      rw [← hsplit]
      exact List.forall_mem_append.mpr ⟨hgap, trimEnd_eq_nil.mp hnil⟩
    have happend := @trimEnd_append (cs.takeWhile isBlank) _ hend
    rw [hsplit] at happend
    exact ⟨_, hgap, happend⟩

/-! ## Texts that are cut -/

theorem trim_prefix (cs rest : List Char) : trim cs <+: trim (cs ++ rest) := by
  by_cases hcs : trimStart cs = []
  · rw [trim_of_blank (trimStart_eq_nil.mp hcs)]
    exact List.nil_prefix
  · rw [trim_eq, trim_eq, trimStart_append rest hcs]
    by_cases hrest : trimEnd rest = []
    · exact trimEnd_append_blank (trimEnd_eq_nil.mp hrest) ▸ List.prefix_rfl
    · rw [trimEnd_append hrest]
      exact (List.rdropWhile_prefix isBlank _).trans (List.prefix_append _ _)

/-- A cut reaches to the end of the trimmed text exactly if what is cut off is white space. -/
theorem trimEnd_prefix_iff : trimEnd (cs ++ rest) <+: cs ↔ IsBlank rest := by
  constructor
  · intro h
    by_contra hrest
    have hne : trimEnd rest ≠ [] := fun hnil => hrest (trimEnd_eq_nil.mp hnil)
    rw [trimEnd_append hne] at h
    have hlength := h.length_le
    rw [List.length_append] at hlength
    exact hne (List.eq_nil_of_length_eq_zero (by omega))
  · intro h
    rw [trimEnd_append_blank h]
    exact List.rdropWhile_prefix isBlank cs

theorem trim_append_eq_iff (hcs : trimStart cs ≠ []) :
    trim cs = trim (cs ++ rest) ↔ IsBlank rest := by
  constructor
  · intro h
    rw [trim_eq, trim_eq, trimStart_append rest hcs] at h
    refine trimEnd_prefix_iff.mp (?_ : trimEnd (trimStart cs ++ rest) <+: trimStart cs)
    rw [← h]
    exact List.rdropWhile_prefix isBlank _
  · exact fun h => (trim_append_blank h).symm

end Flaky.Text
