-- SUMMARY: The suite of a round: one case for each test that was reported passed or failed, in the order of the tests, with the counts of the round's record.
import Flaky.Proofs.Reports
import Flaky.Report.Junit
import Mathlib.Data.List.Nodup

/-!
# Suites and records

A suite is put together from three groups of a record and then sorted. That no test
has two cases, and that the counts of a suite are those of the record, rests on the
groups having no test in common. Finishing a round makes them so, and subtracting
the baseline keeps them so: it moves tests from one group to another.
-/

namespace Flaky

/-- No member is listed twice. -/
theorem OrderedSet.nodup {α : Type} [Ord α] [Std.LawfulEqOrd α] (s : OrderedSet α) :
    s.toList.Nodup := by
  refine s.increasing.imp ?_
  rintro a _ hlt rfl
  have heq : compare a a = .eq := Std.ReflCmp.compare_self
  rw [heq] at hlt
  cases hlt

/-! ## Groups of a record -/

/-- The groups of a record share out the tests that were reported passed or failed. -/
structure RoundRecord.Covers (record : RoundRecord) (reports : List Report) : Prop where
  failed : ∀ id, id ∈ record.failed ∨ id ∈ record.alsoFailedInBaseline ↔ ReportedFailed reports id
  apart : ∀ id ∈ record.failed, id ∉ record.alsoFailedInBaseline
  passed : ∀ id, id ∈ record.passed ↔ ReportedPassed reports id ∧ ¬ ReportedFailed reports id

section

variable {record : RoundRecord} {reports : List Report}

/-- The record of a round that has just finished has no failure moved. -/
theorem Round.shows_covers {round : Round} {past : List (List Report)} :
    (round.shows past reports).Covers reports := by
  constructor <;> simp [shows, mem_failedTests, mem_passedTests]

/-- Subtracting failures moves tests between two groups. -/
theorem RoundRecord.Covers.subtract (h : record.Covers reports) (failures : OrderedSet TestId) :
    (record.subtractBaseline failures).1.Covers reports := by
  unfold subtractBaseline
  split
  case isTrue => exact h
  case isFalse =>
    refine ⟨fun id => ?_, fun id hid => ?_, h.passed⟩
    · rw [← h.failed id]
      by_cases hshared : id ∈ failures <;> simp [hshared, or_comm]
    · obtain ⟨hfailed, hfresh⟩ := OrderedSet.mem_diff.mp hid
      simp [h.apart id hfailed, hfresh]

namespace RoundRecord

/-- The tests of a record, group by group. -/
def grouped (record : RoundRecord) : List TestId :=
  record.failed.toList ++ record.alsoFailedInBaseline.toList ++ record.passed.toList

theorem length_grouped : record.grouped.length = record.executed := by
  simp [grouped, executed, OrderedSet.size, Nat.add_assoc]

namespace Covers

theorem mem_grouped (h : record.Covers reports) {id : TestId} :
    id ∈ record.grouped ↔ ReportedFailed reports id ∨ ReportedPassed reports id := by
  simp only [grouped, List.mem_append, OrderedSet.mem_toList, h.failed, h.passed]
  by_cases hfailed : ReportedFailed reports id <;> simp [hfailed]

/-- No test is in two groups. -/
theorem nodup_grouped (h : record.Covers reports) : record.grouped.Nodup := by
  have unmoved : record.failed.toList.Disjoint record.alsoFailedInBaseline.toList :=
    fun id hfailed => h.apart id hfailed
  have unpassed : (record.failed.toList ++ record.alsoFailedInBaseline.toList).Disjoint
      record.passed.toList := by
    intro id hfailed hpassed
    exact ((h.passed id).mp hpassed).2 ((h.failed id).mp (List.mem_append.mp hfailed))
  exact (List.Nodup.append record.failed.nodup record.alsoFailedInBaseline.nodup unmoved).append
    record.passed.nodup unpassed

/-- The tests that a record counts are those that were reported passed or failed. -/
theorem executed (h : record.Covers reports) :
    record.executed = ((failedTests reports).union (passedTests reports)).size := by
  have same : record.grouped.Perm ((failedTests reports).union (passedTests reports)).toList := by
    refine (List.perm_ext_iff_of_nodup h.nodup_grouped (OrderedSet.nodup _)).mpr fun id => ?_
    rw [h.mem_grouped, OrderedSet.mem_toList, OrderedSet.mem_union, mem_failedTests,
      mem_passedTests]
  rw [← length_grouped, same.length_eq]
  rfl

end Covers

/-! ## Cases of a suite -/

/-- The cases of a record, group by group. -/
def groupedCases (record : RoundRecord) : List JunitCase :=
  record.failed.toList.map (⟨·, .failure record.failureMessage⟩) ++
    record.alsoFailedInBaseline.toList.map
      (⟨·, .failure (some "also failed without perturbation")⟩) ++
    record.passed.toList.map (⟨·, .success⟩)

theorem junitCases_eq (record : RoundRecord) : record.junitCases =
    record.groupedCases.mergeSort fun a b => (compare a.test b.test).isLE := rfl

theorem junitCases_perm (record : RoundRecord) : record.junitCases.Perm record.groupedCases := by
  rw [junitCases_eq]
  exact List.mergeSort_perm _ _

theorem groupedCases_tests : record.groupedCases.map (·.test) = record.grouped := by
  simp [groupedCases, grouped, Function.comp_def]

theorem junitCases_tests (record : RoundRecord) :
    (record.junitCases.map (·.test)).Perm record.grouped :=
  groupedCases_tests ▸ record.junitCases_perm.map _

theorem length_junitCases : record.junitCases.length = record.executed := by
  rw [← length_grouped, ← record.junitCases_tests.length_eq, List.length_map]

/-- The cases that succeeded are the passes. -/
theorem length_passing :
    (record.junitCases.filter fun c => !c.isFailure).length = record.passed.size := by
  rw [(record.junitCases_perm.filter _).length_eq]
  simp [groupedCases, JunitCase.isFailure, List.filter_map, Function.comp_def, OrderedSet.size]

/-- The cases that failed are the failures, moved or not. -/
theorem junitSuite_failures :
    record.junitSuite.failures = record.failed.size + record.alsoFailedInBaseline.size := by
  rw [JunitSuite.failures, junitSuite, (record.junitCases_perm.filter _).length_eq]
  simp [groupedCases, JunitCase.isFailure, List.filter_map, Function.comp_def, OrderedSet.size]

theorem junitCases_sorted (record : RoundRecord) :
    record.junitCases.Pairwise fun a b => (compare a.test b.test).isLE = true := by
  rw [junitCases_eq]
  refine List.pairwise_mergeSort (fun a b c hab hbc => ?_) (fun a b => ?_) _
  · exact Std.TransCmp.isLE_trans hab hbc
  · have hswap : compare b.test a.test = (compare a.test b.test).swap := Std.OrientedCmp.eq_swap
    rw [hswap]
    cases compare a.test b.test <;> rfl

/-- The cases are strictly in the order of their tests. -/
theorem Covers.increasing (h : record.Covers reports) :
    Increasing (record.junitCases.map (·.test)) := by
  -- sorting leaves equal tests side by side, so it is the groups that make the order strict
  have distinct : (record.junitCases.map (·.test)).Nodup :=
    record.junitCases_tests.nodup_iff.mpr h.nodup_grouped
  have sorted : (record.junitCases.map (·.test)).Pairwise fun a b => (compare a b).isLE = true :=
    List.pairwise_map.mpr record.junitCases_sorted
  refine (sorted.and distinct).imp ?_
  rintro a b ⟨hle, hne⟩
  cases hcompare : compare a b with
  | lt => rfl
  | eq => exact absurd (Std.LawfulEqOrd.eq_of_compare hcompare) hne
  | gt => simp [hcompare] at hle

/-- A case fails if its test was reported failed. -/
theorem Covers.isFailure (h : record.Covers reports) {c : JunitCase} (hc : c ∈ record.junitCases) :
    c.isFailure = true ↔ ReportedFailed reports c.test := by
  have hgrouped := record.junitCases_perm.mem_iff.mp hc
  simp only [groupedCases, List.mem_append, List.mem_map, OrderedSet.mem_toList] at hgrouped
  rcases hgrouped with (⟨id, hid, rfl⟩ | ⟨id, hid, rfl⟩) | ⟨id, hid, rfl⟩
  · exact iff_of_true rfl ((h.failed id).mp (.inl hid))
  · exact iff_of_true rfl ((h.failed id).mp (.inr hid))
  · exact iff_of_false Bool.false_ne_true ((h.passed id).mp hid).2

end RoundRecord

end

end Flaky
