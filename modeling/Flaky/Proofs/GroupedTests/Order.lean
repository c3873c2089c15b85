-- SUMMARY: Grouped tests as an ordered set: no class is empty, the listing is in order, and the same tests make the same groups.
import Flaky.Proofs.GroupedTests
import Flaky.Round.Record
import Mathlib.Data.List.Nodup

/-!
# Grouped tests in order

Whatever is inserted, classes come in order and none is without methods. So the listing
of the groups is in the order of tests, and the groups are told by the listing: a class
is there exactly if a test of it is listed, and its methods are those that are listed
with it.
-/

namespace Flaky.GroupedTests

/-! ## Sound groups -/

/-- Classes come in order, and none is without methods. -/
structure Sound (groups : List ClassGroup) : Prop where
  ordered : groups.Pairwise fun g h => compare g.1 h.1 = .lt
  opened : ∀ group ∈ groups, ∃ method, method ∈ group.2

variable {groups rest : List ClassGroup} {c : String} {methods : OrderedSet String}
variable {id : TestId} {tests others : GroupedTests}

theorem Sound.nil : Sound [] := ⟨.nil, List.forall_mem_nil _⟩

theorem sound_cons : Sound ((c, methods) :: rest) ↔
    (∃ method, method ∈ methods) ∧ (∀ group ∈ rest, compare c group.1 = .lt) ∧ Sound rest := by
  constructor
  · rintro ⟨ordered, opened⟩
    obtain ⟨before, hrest⟩ := List.pairwise_cons.mp ordered
    obtain ⟨first, later⟩ := List.forall_mem_cons.mp opened
    exact ⟨first, before, hrest, later⟩
  · rintro ⟨first, before, hrest, later⟩
    exact ⟨List.pairwise_cons.mpr ⟨before, hrest⟩, List.forall_mem_cons.mpr ⟨first, later⟩⟩

/-- Only the class of the inserted test can be new. -/
theorem class_of_mem_insertGrouped {group : ClassGroup} (h : group ∈ insertGrouped id groups) :
    group.1 = id.className ∨ ∃ found ∈ groups, found.1 = group.1 := by
  induction groups with
  | nil => exact .inl (List.mem_singleton.mp h ▸ rfl)
  | cons first rest ih =>
    obtain ⟨c, methods⟩ := first
    rw [insertGrouped] at h
    split at h
    case h_1 =>
      rcases List.mem_cons.mp h with rfl | hmem
      · exact .inl rfl
      · exact .inr ⟨group, hmem, rfl⟩
    case h_2 =>
      rcases List.mem_cons.mp h with rfl | hmem
      · exact .inr ⟨(c, methods), List.mem_cons_self, rfl⟩
      · exact .inr ⟨group, List.mem_cons_of_mem _ hmem, rfl⟩
    case h_3 =>
      rcases List.mem_cons.mp h with rfl | hmem
      · exact .inr ⟨(c, methods), List.mem_cons_self, rfl⟩
      · refine (ih hmem).imp_right ?_
        rintro ⟨found, hfound, hclass⟩
        exact ⟨found, List.mem_cons_of_mem _ hfound, hclass⟩

/-- Inserting a test keeps the groups sound. -/
theorem Sound.insertGrouped (h : Sound groups) (id : TestId) : Sound (insertGrouped id groups) := by
  have opening : ∀ methods : OrderedSet String, ∃ method, method ∈ methods.insert id.method :=
    fun methods => ⟨id.method, OrderedSet.mem_insert.mpr (.inl rfl)⟩
  induction groups with
  | nil => exact sound_cons.mpr ⟨opening _, List.forall_mem_nil _, .nil⟩
  | cons first rest ih =>
    obtain ⟨c, methods⟩ := first
    obtain ⟨opened, before, hrest⟩ := sound_cons.mp h
    rw [Flaky.insertGrouped]
    split
    case h_1 hlt =>
      refine sound_cons.mpr ⟨opening _, List.forall_mem_cons.mpr ⟨hlt, ?_⟩, h⟩
      exact fun group hgroup => Std.TransCmp.lt_trans hlt (before group hgroup)
    case h_2 => exact sound_cons.mpr ⟨opening _, before, hrest⟩
    case h_3 hgt =>
      refine sound_cons.mpr ⟨opened, fun group hgroup => ?_, ih hrest⟩
      rcases class_of_mem_insertGrouped hgroup with hclass | ⟨found, hfound, hclass⟩
      · rw [hclass]
        exact Std.OrientedCmp.lt_of_gt hgt
      · rw [← hclass]
        exact before found hfound

theorem sound_ofList (ids : List TestId) : Sound (ofList ids).groups := by
  have step : ∀ tests : GroupedTests, Sound tests.groups →
      Sound (ids.foldl (fun tests id => (tests.insert id).1) tests).groups := by
    induction ids with
    | nil => exact fun tests h => h
    | cons id ids ih => exact fun tests h => ih _ (h.insertGrouped id)
  exact step empty .nil

/-! ## The listing -/

/-- The order of classes, and of methods within them, is the order of tests. -/
theorem Sound.increasing_testIds (h : Sound tests.groups) : Increasing tests.testIds := by
  rw [Increasing, testIds, List.pairwise_flatMap]
  constructor
  case left =>
    rintro ⟨c, methods⟩ -
    rw [List.pairwise_map]
    refine methods.increasing.imp fun {m m'} hlt => ?_
    simpa [TestId.compare_eq, Std.ReflCmp.compare_self] using hlt
  case right =>
    refine h.ordered.imp fun {g g'} hlt id hid id' hid' => ?_
    obtain ⟨m, -, rfl⟩ := List.mem_map.mp hid
    obtain ⟨m', -, rfl⟩ := List.mem_map.mp hid'
    rw [TestId.compare_eq, hlt]
    rfl

theorem length_testIds (tests : GroupedTests) : tests.testIds.length = tests.size := by
  simp [testIds, size, OrderedSet.size, List.length_flatMap, List.sum]

theorem contains_iff : tests.contains id = true ↔ id ∈ tests.testIds := by
  rw [mem_testIds, contains, List.any_eq_true]
  constructor
  · rintro ⟨⟨c, methods⟩, hgroup, htest⟩
    obtain ⟨hclass, hmethod⟩ := Bool.and_eq_true_iff.mp htest
    obtain rfl := beq_iff_eq.mp hclass
    exact ⟨methods, hgroup, OrderedSet.contains_eq_true.mp hmethod⟩
  · rintro ⟨methods, hgroup, hmethod⟩
    exact ⟨_, hgroup, Bool.and_eq_true_iff.mpr
      ⟨beq_self_eq_true _, OrderedSet.contains_eq_true.mpr hmethod⟩⟩

/-- A class that is open has a test. -/
theorem Sound.isEmpty_iff (h : Sound tests.groups) : tests.isEmpty = true ↔ tests.size = 0 := by
  obtain ⟨groups⟩ := tests
  rw [← length_testIds, List.length_eq_zero_iff]
  cases groups with
  | nil => exact iff_of_true rfl rfl
  | cons first rest =>
    obtain ⟨c, methods⟩ := first
    obtain ⟨⟨method, hmethod⟩, -⟩ := sound_cons.mp h
    have listed : ⟨c, method⟩ ∈ (GroupedTests.mk ((c, methods) :: rest)).testIds :=
      mem_testIds_cons.mpr (.inl ⟨rfl, hmethod⟩)
    exact iff_of_false Bool.false_ne_true (List.ne_nil_of_mem listed)

/-- The search for a place where a test is new misses none of its group: no later class is its. -/
theorem Sound.isNewGrouped_iff (h : Sound groups) :
    isNewGrouped id groups = true ↔ id ∉ (GroupedTests.mk groups).testIds := by
  induction groups with
  | nil => exact iff_of_true rfl List.not_mem_nil
  | cons first rest ih =>
    obtain ⟨c, methods⟩ := first
    obtain ⟨-, before, hrest⟩ := sound_cons.mp h
    have behind : compare id.className c ≠ .gt → id ∉ (GroupedTests.mk rest).testIds := by
      intro hle hid
      obtain ⟨found, hfound, -⟩ := mem_testIds.mp hid
      exact hle (Std.OrientedCmp.gt_of_lt (before _ hfound))
    rw [isNewGrouped, mem_testIds_cons]
    split
    case h_1 hlt =>
      refine iff_of_true rfl ?_
      rintro (⟨rfl, -⟩ | hid)
      · simp [Std.ReflCmp.compare_self] at hlt
      · exact behind (by rw [hlt]; decide) hid
    case h_2 heq =>
      obtain rfl : id.className = c := Std.LawfulEqOrd.eq_of_compare heq
      have hbehind := behind (by rw [heq]; decide)
      simp [hbehind, ← OrderedSet.contains_eq_true]
    case h_3 hgt =>
      have hclass : id.className ≠ c := by
        rintro rfl
        simp [Std.ReflCmp.compare_self] at hgt
      simp [ih hrest, hclass]

/-! ## Groups told by the listing -/

theorem Sound.nodup_classes (h : Sound groups) : (groups.map Prod.fst).Nodup := by
  rw [List.nodup_iff_pairwise_ne, List.pairwise_map]
  refine h.ordered.imp fun {g g'} hlt heq => ?_
  simp [heq, Std.ReflCmp.compare_self] at hlt

/-- A class is there if a test of it is listed, with the methods that are listed with it. -/
theorem Sound.mem_groups_iff (h : Sound tests.groups) : (c, methods) ∈ tests.groups ↔
    (∃ method, method ∈ methods) ∧ ∀ method, method ∈ methods ↔ ⟨c, method⟩ ∈ tests.testIds := by
  have told : ∀ {found : OrderedSet String}, (c, found) ∈ tests.groups →
      ∀ method, method ∈ found ↔ ⟨c, method⟩ ∈ tests.testIds := by
    intro found hfound method
    rw [mem_testIds]
    constructor
    · exact fun hmethod => ⟨found, hfound, hmethod⟩
    · rintro ⟨found', hfound', hmethod⟩
      obtain ⟨-, rfl⟩ := Prod.mk.inj
        (List.inj_on_of_nodup_map h.nodup_classes hfound hfound' rfl)
      exact hmethod
  constructor
  · exact fun hgroup => ⟨h.opened _ hgroup, told hgroup⟩
  · rintro ⟨⟨method, hmethod⟩, hmethods⟩
    obtain ⟨found, hfound, -⟩ := mem_testIds.mp ((hmethods method).mp hmethod)
    obtain rfl : methods = found :=
      OrderedSet.ext_mem fun m => (hmethods m).trans (told hfound m).symm
    exact hfound

/-- Sound groups that list the same tests are equal. -/
theorem Sound.ext (h : Sound tests.groups) (h' : Sound others.groups)
    (same : ∀ id, id ∈ tests.testIds ↔ id ∈ others.testIds) : tests = others := by
  have members : ∀ group, group ∈ tests.groups ↔ group ∈ others.groups := by
    rintro ⟨c, methods⟩
    rw [h.mem_groups_iff, h'.mem_groups_iff]
    simp only [same]
  have perm : tests.groups.Perm others.groups :=
    (List.perm_ext_iff_of_nodup h.nodup_classes.of_map h'.nodup_classes.of_map).mpr members
  have groups : tests.groups = others.groups := by
    refine perm.eq_of_pairwise (fun g g' _ _ hlt hgt => ?_) h.ordered h'.ordered
    rw [Std.OrientedCmp.gt_of_lt hlt] at hgt
    cases hgt
  cases tests
  cases others
  exact congrArg GroupedTests.mk groups

/-! ## Insertions from none -/

/-- The groups are the ordered set of some tests: what they say of themselves, they say of it. -/
structure IsSetOf (tests : GroupedTests) (ids : List TestId) : Prop where
  opened : ∀ group ∈ tests.groups, group.2.isEmpty = false
  isEmpty : tests.isEmpty = true ↔ tests.size = 0
  insert : ∀ id, (tests.insert id).2 = true ↔ tests.contains id = false
  contains : ∀ id, tests.contains id = true ↔ id ∈ ids
  increasing : Increasing tests.testIds
  listed : ∀ id, id ∈ tests.testIds ↔ id ∈ ids
  size : tests.testIds.length = tests.size

theorem Sound.isSetOf {ids : List TestId} (h : Sound tests.groups)
    (listed : ∀ id, id ∈ tests.testIds ↔ id ∈ ids) : tests.IsSetOf ids where
  opened group hgroup := by
    obtain ⟨method, hmethod⟩ := h.opened group hgroup
    exact List.isEmpty_eq_false_iff_exists_mem.mpr ⟨method, hmethod⟩
  isEmpty := h.isEmpty_iff
  insert id := by
    rw [← Bool.not_eq_true, contains_iff]
    exact h.isNewGrouped_iff
  contains id := contains_iff.trans (listed id)
  increasing := h.increasing_testIds
  listed := listed
  size := length_testIds tests

/-- Tests inserted one after the other, from none, are held as the ordered set of them, in which
neither their order nor repeating one counts. A set that is collected is listed as it was; so the
failures that a tally has for a round are those that the round's record is given. -/
theorem ofList_isSetOf (ids : List TestId) :
    (ofList ids).IsSetOf ids ∧
      (∀ others, ofList ids = ofList others ↔ ∀ id, id ∈ ids ↔ id ∈ others) ∧
      (∀ set : OrderedSet TestId, (ofList set.toList).testIds = set.toList) ∧
      ∀ (tally : Tally) (round : Round),
        tally.snapshot.failed.testIds = tally.current.failed.toList ∧
          (round.complete tally.snapshot).failed = tally.current.failed := by
  have collected : ∀ set : OrderedSet TestId, (ofList set.toList).testIds = set.toList :=
    fun set => (sound_ofList _).increasing_testIds.ext set.increasing fun _ => mem_testIds_ofList
  refine ⟨(sound_ofList ids).isSetOf fun _ => mem_testIds_ofList, fun others => ?_, collected,
    fun tally round => ⟨collected _, ofList_testIds_ofList⟩⟩
  constructor
  · intro heq id
    rw [← mem_testIds_ofList, heq, mem_testIds_ofList]
  · intro same
    refine (sound_ofList ids).ext (sound_ofList others) fun id => ?_
    rw [mem_testIds_ofList, mem_testIds_ofList]
    exact same id

end Flaky.GroupedTests
