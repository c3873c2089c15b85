-- SUMMARY: When two tests have the same text, and when a set of tests has as many texts as members.
import Flaky.Proofs.Suites
import Flaky.Report.Summary
import Mathlib.Data.List.Perm.Subperm

/-!
# Texts of tests

The text of a test puts `#` between the class and the method, and neither of them
is kept from holding a `#` itself. So a text may be cut at any `#` in it, and two
tests that are cut from one text at different places have that text in common.
-/

namespace Flaky

/-! ## Tests with the same text -/

namespace TestId

variable {a b : TestId}

/-- The class of `b` goes further into the text of both than the class of `a`: what lies between is
    the end of the one and the start of the method of the other. -/
def Blurs (a b : TestId) : Prop :=
  ∃ middle, b.className = a.className ++ "#" ++ middle ∧ a.method = middle ++ "#" ++ b.method

theorem Blurs.ne (h : a.Blurs b) : a ≠ b := by
  rintro rfl
  obtain ⟨middle, hclass, -⟩ := h
  have hlength := congrArg String.length hclass
  simp only [String.length_append] at hlength
  have hmark : "#".length = 1 := rfl
  omega

theorem Blurs.text_eq (h : a.Blurs b) : a.text = b.text := by
  obtain ⟨middle, hclass, hmethod⟩ := h
  simp only [text, hclass, hmethod, String.append_assoc]

/-- Two tests have the same text only if the text can be cut in two places. -/
theorem text_eq_iff : a.text = b.text ↔ a = b ∨ a.Blurs b ∨ b.Blurs a := by
  -- if the class of one is longer, it is longer by a `#` and a middle
  have longer : ∀ {a b : TestId} (more : List Char),
      b.className.toList = a.className.toList ++ more →
      '#' :: a.method.toList = more ++ '#' :: b.method.toList → a = b ∨ a.Blurs b := by
    intro a b more hclass hmethod
    cases more with
    | nil =>
      rw [List.nil_append, List.cons.injEq] at hmethod
      obtain ⟨-, hmethod⟩ := hmethod
      rw [List.append_nil, String.toList_inj] at hclass
      rw [String.toList_inj] at hmethod
      obtain ⟨className, method⟩ := a
      obtain ⟨className', method'⟩ := b
      exact .inl (by rw [TestId.mk.injEq]; exact ⟨hclass.symm, hmethod⟩)
    | cons mark middle =>
      rw [List.cons_append, List.cons.injEq] at hmethod
      obtain ⟨rfl, hmethod⟩ := hmethod
      refine .inr ⟨String.ofList middle, ?_, ?_⟩
      · rw [← String.toList_inj, hclass]
        simp
      · rw [← String.toList_inj]
        simpa using hmethod
  constructor
  · intro h
    have hchars := congrArg String.toList h
    simp only [text, String.toList_append, List.append_assoc] at hchars
    rcases List.append_eq_append_iff.mp hchars with
      ⟨more, hclass, hmethod⟩ | ⟨more, hclass, hmethod⟩
    · exact (longer more hclass hmethod).imp_right .inl
    · exact (longer more hclass hmethod).imp Eq.symm .inr
  · rintro (rfl | h | h)
    · rfl
    · exact h.text_eq
    · exact h.text_eq.symm

end TestId

/-! ## Sets of texts -/

/-- Collecting a list loses nothing exactly if no element is repeated. -/
theorem OrderedSet.size_ofList_iff {α : Type} [Ord α] [Std.TransOrd α] [Std.LawfulEqOrd α]
    {xs : List α} : (OrderedSet.ofList xs).size = xs.length ↔ xs.Nodup := by
  have distinct : (OrderedSet.ofList xs).toList.Nodup := OrderedSet.nodup _
  constructor
  · intro h
    have sub : (OrderedSet.ofList xs).toList.Subperm xs :=
      distinct.subperm fun x hx => OrderedSet.mem_ofList.mp hx
    exact (sub.perm_of_length_le (Nat.le_of_eq h.symm)).nodup_iff.mp distinct
  · intro h
    have same : (OrderedSet.ofList xs).toList.Perm xs :=
      (List.perm_ext_iff_of_nodup distinct h).mpr fun x => OrderedSet.mem_ofList
    exact same.length_eq

namespace RunSummary

variable {ids : List TestId}

theorem mem_namesOf {name : String} : name ∈ namesOf ids ↔ ∃ id ∈ ids, id.text = name := by
  rw [namesOf, OrderedSet.mem_ofList, List.mem_map]

/-- Tests that differ have as many texts exactly if these differ too. -/
theorem size_namesOf_iff (distinct : ids.Nodup) :
    (namesOf ids).size = ids.length ↔ ∀ a ∈ ids, ∀ b ∈ ids, a.text = b.text → a = b := by
  rw [namesOf, ← List.nodup_map_iff_inj_on distinct, ← OrderedSet.size_ofList_iff, List.length_map]

end RunSummary

end Flaky
