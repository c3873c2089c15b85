-- SUMMARY: Paths that are joined: their parts come one after the other, and an absolute path stays as it is.
import Flaky.Path
import Flaky.Proofs.Lines

/-!
# Joined paths

A relative path that is joined to another is put after it, with one slash between
them. So the parts of the whole are those of the first path and then those of the
second, but for empty parts, and the whole is absolute if the first path is.
-/

namespace Flaky.Path

variable {base relative path : String}

theorem isAbsolute_iff : isAbsolute path = true ↔ ∃ rest, path.toList = '/' :: rest := by
  simp [isAbsolute, List.head?_eq_some_iff]

theorem join_empty : join "" path = path := by
  simp [join]

/-- An absolute path is the same from everywhere. -/
theorem join_of_isAbsolute (h : isAbsolute path = true) : join base path = path := by
  simp [join, h]

/-- A relative path is put at the end, after a slash that may have been there. -/
theorem exists_join (h : isAbsolute relative = false) (hbase : base ≠ "") :
    ∃ init : List Char, (join base relative).toList = init ++ '/' :: relative.toList ∧
      (base.toList = init ∨ base.toList = init ++ ['/']) := by
  have hempty : base.isEmpty = false := by simpa [String.isEmpty_iff] using hbase
  unfold join
  rw [h, hempty]
  by_cases hslash : base.toList.getLast? = some '/'
  · obtain ⟨init, hinit⟩ := List.getLast?_eq_some_iff.mp hslash
    exact ⟨init, by simp [hinit], .inr hinit⟩
  · exact ⟨base.toList, by simp [hslash], .inl rfl⟩

theorem isAbsolute_join : isAbsolute (join base relative) =
    (isAbsolute base || isAbsolute relative) := by
  cases h : isAbsolute relative with
  | true => rw [join_of_isAbsolute h, h, Bool.or_true]
  | false =>
    rw [Bool.or_false]
    by_cases hbase : base = ""
    · rw [hbase, join_empty, h]
      rfl
    · obtain ⟨init, hjoin, hinit⟩ := exists_join h hbase
      rw [isAbsolute, isAbsolute, hjoin]
      cases init with
      | nil =>
        rcases hinit with hinit | hinit
        · exact absurd (String.toList_eq_nil_iff.mp hinit) hbase
        · rw [hinit]
          rfl
      | cons first rest => rcases hinit with hinit | hinit <;> rw [hinit] <;> rfl

/-! ## Parts -/

section

variable {keep : String → Bool}

/-- Where empty parts do not count, the one in front of an absolute path does not either. -/
theorem filter_parts (hkeep : keep "" = false) (path : String) :
    (parts path).filter keep =
      ((Text.splitAt '/' path.toList).map String.ofList).filter keep := by
  unfold parts
  split
  case isTrue habsolute =>
    obtain ⟨rest, hpath⟩ := isAbsolute_iff.mp habsolute
    simp [hpath, Text.splitAt, hkeep]
  case isFalse => rfl

/-- The parts of two paths come one after the other, but for empty ones. -/
theorem filter_parts_join (hkeep : keep "" = false) (h : isAbsolute relative = false) :
    (parts (join base relative)).filter keep =
      (parts base).filter keep ++ (parts relative).filter keep := by
  by_cases hbase : base = ""
  · rw [hbase, join_empty, filter_parts hkeep ""]
    simp [Text.splitAt, hkeep]
  · obtain ⟨init, hjoin, hinit⟩ := exists_join h hbase
    simp only [filter_parts hkeep, hjoin, Text.splitAt_append, List.map_append,
      List.filter_append]
    rcases hinit with hinit | hinit <;> rw [hinit]
    rw [Text.splitAt_append]
    simp [Text.splitAt, hkeep]

end

/-! ## Components -/

/-- The parts that count, wherever they stand. -/
def inner (path : String) : List String := (parts path).filter fun part => !isVoid part

theorem components_of_isAbsolute (h : isAbsolute path = true) :
    components path = "/" :: inner path := by
  unfold components inner
  rw [h]
  cases parts path with
  | nil => rfl
  | cons first rest => cases hvoid : isVoid first <;> simp [hvoid]

theorem inner_join (h : isAbsolute relative = false) :
    inner (join base relative) = inner base ++ inner relative :=
  filter_parts_join rfl h

/-- From an absolute path, every path is absolute; what it leads through depends on whether it was. -/
theorem components_join (hbase : isAbsolute base = true) :
    components (join base path) =
      "/" :: if isAbsolute path then inner path else inner base ++ inner path := by
  rw [components_of_isAbsolute (by rw [isAbsolute_join, hbase, Bool.true_or])]
  cases h : isAbsolute path with
  | true => rw [join_of_isAbsolute h, if_pos rfl]
  | false => rw [inner_join h, if_neg Bool.false_ne_true]

end Flaky.Path
