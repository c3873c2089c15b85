-- SUMMARY: Grouped tests as a set of test identities: membership after insertion and after collection, and emptiness.
import Flaky.GroupedTests
import Mathlib.Data.List.Basic

/-!
# Grouped tests as a set

Grouping tests by class neither adds nor loses a test: `GroupedTests.ofList`
followed by `GroupedTests.testIds` lists the tests that were put in.
-/

namespace Flaky.GroupedTests

/-! ## Membership -/

theorem mem_testIds {x : TestId} {tests : GroupedTests} :
    x ∈ tests.testIds ↔ ∃ methods, (x.className, methods) ∈ tests.groups ∧ x.method ∈ methods := by
  simp only [testIds, List.mem_flatMap, List.mem_map]
  constructor
  · rintro ⟨⟨c, methods⟩, hgroup, m, hm, rfl⟩
    exact ⟨methods, hgroup, hm⟩
  · rintro ⟨methods, hgroup, hm⟩
    exact ⟨(x.className, methods), hgroup, x.method, hm, rfl⟩

theorem mem_testIds_cons {x : TestId} {c : String} {methods : OrderedSet String}
    {rest : List ClassGroup} :
    x ∈ (mk ((c, methods) :: rest)).testIds ↔
      x.className = c ∧ x.method ∈ methods ∨ x ∈ (mk rest).testIds := by
  simp only [mem_testIds, List.mem_cons, Prod.mk.injEq]
  constructor
  · rintro ⟨ms, ⟨hc, rfl⟩ | hrest, hm⟩
    · exact .inl ⟨hc, hm⟩
    · exact .inr ⟨ms, hrest, hm⟩
  · rintro (⟨hc, hm⟩ | ⟨ms, hrest, hm⟩)
    · exact ⟨methods, .inl ⟨hc, rfl⟩, hm⟩
    · exact ⟨ms, .inr hrest, hm⟩

theorem mem_testIds_insert {x id : TestId} {tests : GroupedTests} :
    x ∈ (tests.insert id).1.testIds ↔ x = id ∨ x ∈ tests.testIds := by
  obtain ⟨groups⟩ := tests
  have hid : x = id ↔ x.className = id.className ∧ x.method = id.method := by
    cases x; cases id; simp
  have fresh : x.method ∈ OrderedSet.empty.insert id.method ↔ x.method = id.method := by simp
  simp only [insert]
  induction groups with
  | nil =>
    rw [insertGrouped, mem_testIds_cons, fresh, hid]
  | cons group rest ih =>
    obtain ⟨c, methods⟩ := group
    simp only [insertGrouped]
    split
    case h_1 => rw [mem_testIds_cons, fresh, hid]
    case h_2 heq =>
      have hc : id.className = c := Std.LawfulEqOrd.eq_of_compare heq
      subst hc
      simp only [mem_testIds_cons, OrderedSet.mem_insert, hid]
      grind
    case h_3 =>
      simp only [mem_testIds_cons, ih]
      grind

theorem mem_testIds_ofList {x : TestId} {ids : List TestId} :
    x ∈ (ofList ids).testIds ↔ x ∈ ids := by
  have collect : ∀ tests : GroupedTests,
      x ∈ (ids.foldl (fun tests id => (tests.insert id).1) tests).testIds ↔
        x ∈ tests.testIds ∨ x ∈ ids := by
    induction ids with
    | nil => simp
    | cons id ids ih =>
      intro tests
      simp only [List.foldl_cons, ih, mem_testIds_insert, List.mem_cons]
      grind
  simpa [ofList, empty, testIds] using collect empty

/-- Collecting a set of tests into groups and listing them gives the set back. -/
@[simp] theorem ofList_testIds_ofList {ids : OrderedSet TestId} :
    OrderedSet.ofList (ofList ids.toList).testIds = ids := by
  apply OrderedSet.ext_mem
  intro id
  rw [OrderedSet.mem_ofList, mem_testIds_ofList, OrderedSet.mem_toList]

/-! ## Emptiness -/

theorem isEmpty_insert {id : TestId} {tests : GroupedTests} :
    (tests.insert id).1.isEmpty = false := by
  obtain ⟨groups⟩ := tests
  cases groups with
  | nil => rfl
  | cons group rest =>
    simp only [insert, isEmpty, insertGrouped]
    split <;> rfl

@[simp] theorem isEmpty_ofList {ids : List TestId} : (ofList ids).isEmpty = ids.isEmpty := by
  rcases List.eq_nil_or_concat ids with rfl | ⟨init, id, rfl⟩
  · rfl
  · simp [ofList, List.foldl_append, isEmpty_insert]

end Flaky.GroupedTests
