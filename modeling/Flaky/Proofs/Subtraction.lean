-- SUMMARY: Failures subtracted from a record, set after set: what is moved, what stays, and that neither the order of the sets nor repeating one counts.
import Flaky.Proofs.Suites
import Flaky.Proofs.TallyCalls
import Mathlib.Algebra.GroupWithZero.Nat

/-!
# Subtracting failures

A subtraction moves tests from the failures of a record to those that the baseline
has too. How many it says it moved is how many the second group gains only because
the groups of a record have no test in common, which the tally sees to and every
subtraction keeps. What is left after some sets depends on their union alone.
-/

namespace Flaky

/-! ## Sizes -/

namespace OrderedSet

variable {α : Type} [Ord α]

/-- Taking a set apart keeps its size. -/
theorem size_diff_add_size_inter [DecidableEq α] (s t : OrderedSet α) :
    (s.diff t).size + (s.inter t).size = s.size := by
  have parts := s.toList.length_eq_length_filter_add t.contains
  rw [Nat.add_comm] at parts
  exact parts.symm

/-- Sets without a common member are put together size by size. -/
theorem size_union [Std.TransOrd α] [Std.LawfulEqOrd α] {s t : OrderedSet α}
    (h : ∀ a ∈ s, a ∉ t) : (s.union t).size = s.size + t.size := by
  have distinct : (s.toList ++ t.toList).Nodup := s.nodup.append t.nodup fun a => h a
  have same : (s.union t).toList.Perm (s.toList ++ t.toList) := by
    refine (List.perm_ext_iff_of_nodup (s.union t).nodup distinct).mpr fun a => ?_
    rw [mem_toList, mem_union, List.mem_append, mem_toList, mem_toList]
  exact same.length_eq.trans List.length_append

theorem size_eq_zero_iff {s : OrderedSet α} : s.size = 0 ↔ ∀ a, a ∉ s := by
  rw [size, List.length_eq_zero_iff, List.eq_nil_iff_forall_not_mem]
  exact Iff.rfl

end OrderedSet

namespace RoundRecord

/-! ## One subtraction -/

/-- No test is in two groups of the record. -/
structure Apart (record : RoundRecord) : Prop where
  moved : ∀ id ∈ record.failed, id ∉ record.alsoFailedInBaseline
  failed : ∀ id ∈ record.failed, id ∉ record.passed
  alsoFailed : ∀ id ∈ record.alsoFailedInBaseline, id ∉ record.passed

section

variable {record : RoundRecord}

theorem subtractBaseline_of_isBaseline (h : record.round.isBaseline = true)
    (failures : OrderedSet TestId) : record.subtractBaseline failures = (record, 0) := by
  rw [subtractBaseline, if_pos h]

/-- Failures that the record no longer has are not moved. -/
theorem subtractBaseline_of_disjoint {failures : OrderedSet TestId}
    (h : ∀ id ∈ record.failed, id ∉ failures) :
    record.subtractBaseline failures = (record, 0) := by
  have kept : record.failed.diff failures = record.failed := by
    apply OrderedSet.ext_mem
    intro id
    rw [OrderedSet.mem_diff]
    exact ⟨And.left, fun hid => ⟨hid, h id hid⟩⟩
  have shared : ∀ id, id ∉ record.failed.inter failures := by
    intro id hid
    rw [OrderedSet.mem_inter] at hid
    exact h id hid.1 hid.2
  have unmoved : record.alsoFailedInBaseline.union (record.failed.inter failures) =
      record.alsoFailedInBaseline := by
    apply OrderedSet.ext_mem
    intro id
    rw [OrderedSet.mem_union]
    exact or_iff_left (shared id)
  unfold subtractBaseline
  split
  case isTrue => rfl
  case isFalse => simp only [kept, unmoved, OrderedSet.size_eq_zero_iff.mpr shared]

/-- What some sets leave of a record, and how many failures they moved. -/
structure Leaves (record : RoundRecord) (sets : List (OrderedSet TestId)) (left : RoundRecord)
    (moved : List Nat) : Prop where
  round : left.round = record.round
  passed : left.passed = record.passed
  recovered : left.recovered = record.recovered
  failed : ∀ id, id ∈ left.failed ↔ id ∈ record.failed ∧ ¬ ∃ failures ∈ sets, id ∈ failures
  alsoFailed : ∀ id, id ∈ left.alsoFailedInBaseline ↔ id ∈ record.alsoFailedInBaseline ∨
    id ∈ record.failed ∧ ∃ failures ∈ sets, id ∈ failures
  moved : left.alsoFailedInBaseline.size = record.alsoFailedInBaseline.size + moved.sum
  executed : left.executed = record.executed

theorem Leaves.refl (record : RoundRecord) : record.Leaves [] record [] := by
  constructor <;> simp

/-- A subtraction of one set. -/
theorem Apart.subtract (h : record.Apart) (hseeded : record.round.isBaseline = false)
    (failures : OrderedSet TestId) :
    record.Leaves [failures] (record.subtractBaseline failures).1
      [(record.subtractBaseline failures).2] := by
  have fresh : ∀ id ∈ record.alsoFailedInBaseline, id ∉ record.failed.inter failures := by
    intro id hid hshared
    rw [OrderedSet.mem_inter] at hshared
    exact h.moved id hshared.1 hid
  have hmoved := OrderedSet.size_union fresh
  have hparts := record.failed.size_diff_add_size_inter failures
  simp only [subtractBaseline, hseeded, Bool.false_eq_true, if_false]
  refine ⟨rfl, rfl, rfl, ?_, ?_, ?_, ?_⟩
  · simp
  · simp
  · simpa using hmoved
  · simp only [executed, hmoved]
    omega

/-- Moving tests between two groups keeps the groups apart. -/
theorem Leaves.apart {sets : List (OrderedSet TestId)} {left : RoundRecord} {moved : List Nat}
    (leaves : record.Leaves sets left moved) (h : record.Apart) : left.Apart := by
  refine ⟨fun id hid => ?_, fun id hid => ?_, fun id hid => ?_⟩
  · obtain ⟨hfailed, hnone⟩ := (leaves.failed id).mp hid
    rw [leaves.alsoFailed]
    rintro (halso | ⟨-, hsome⟩)
    · exact h.moved id hfailed halso
    · exact hnone hsome
  · rw [leaves.passed]
    exact h.failed id ((leaves.failed id).mp hid).1
  · rw [leaves.passed]
    rcases (leaves.alsoFailed id).mp hid with halso | ⟨hfailed, -⟩
    · exact h.alsoFailed id halso
    · exact h.failed id hfailed

theorem Leaves.trans {sets more : List (OrderedSet TestId)} {middle last : RoundRecord}
    {moved moved' : List Nat} (first : record.Leaves sets middle moved)
    (later : middle.Leaves more last moved') :
    record.Leaves (sets ++ more) last (moved ++ moved') where
  round := later.round.trans first.round
  passed := later.passed.trans first.passed
  recovered := later.recovered.trans first.recovered
  failed id := by
    simp only [later.failed, first.failed, List.mem_append, or_and_right, exists_or, not_or,
      and_assoc]
  alsoFailed id := by
    simp only [later.alsoFailed, first.alsoFailed, first.failed, List.mem_append, or_and_right,
      exists_or]
    -- a test that an earlier set has was moved by that set
    by_cases hsets : ∃ failures, failures ∈ sets ∧ id ∈ failures <;> simp [hsets]
  moved := by rw [later.moved, first.moved, List.sum_append, Nat.add_assoc]
  executed := later.executed.trans first.executed

/-- What some sets leave is told by the tests that are in one of them. -/
theorem Leaves.unique {sets sets' : List (OrderedSet TestId)} {left left' : RoundRecord}
    {moved moved' : List Nat} (h : record.Leaves sets left moved)
    (h' : record.Leaves sets' left' moved')
    (same : ∀ id, (∃ failures ∈ sets, id ∈ failures) ↔ ∃ failures ∈ sets', id ∈ failures) :
    left = left' := by
  have hfailed : left.failed = left'.failed := by
    apply OrderedSet.ext_mem
    intro id
    rw [h.failed, h'.failed, same]
  have halso : left.alsoFailedInBaseline = left'.alsoFailedInBaseline := by
    apply OrderedSet.ext_mem
    intro id
    rw [h.alsoFailed, h'.alsoFailed, same]
  have hround := h.round.trans h'.round.symm
  have hpassed := h.passed.trans h'.passed.symm
  have hrecovered := h.recovered.trans h'.recovered.symm
  cases left
  cases left'
  simp_all

end

/-! ## Many subtractions -/

/-- Subtract some sets one after the other, and say how many failures each of them moved. -/
def subtractEach (record : RoundRecord) : List (OrderedSet TestId) → RoundRecord × List Nat
  | [] => (record, [])
  | failures :: rest =>
    let (next, moved) := record.subtractBaseline failures
    let (last, more) := next.subtractEach rest
    (last, moved :: more)

theorem subtractEach_of_isBaseline {record : RoundRecord} (h : record.round.isBaseline = true)
    (sets : List (OrderedSet TestId)) :
    record.subtractEach sets = (record, List.replicate sets.length 0) := by
  induction sets with
  | nil => rfl
  | cons failures rest ih =>
    rw [subtractEach, subtractBaseline_of_isBaseline h]
    simp only [ih, List.length_cons, List.replicate_succ]

theorem subtractEach_leaves {record : RoundRecord} (apart : record.Apart)
    (hseeded : record.round.isBaseline = false) (sets : List (OrderedSet TestId)) :
    record.Leaves sets (record.subtractEach sets).1 (record.subtractEach sets).2 := by
  induction sets generalizing record with
  | nil => exact .refl record
  | cons failures rest ih =>
    have first := apart.subtract hseeded failures
    have later := ih (first.apart apart) (by rw [first.round, hseeded])
    exact first.trans later

/-- What subtracting some sets one after the other comes to. -/
structure Subtracts (record : RoundRecord) (sets : List (OrderedSet TestId)) : Prop where
  failed : ∀ id, id ∈ (record.subtractEach sets).1.failed ↔
    id ∈ record.failed ∧ ¬ ∃ failures ∈ sets, id ∈ failures
  alsoFailed : ∀ id, id ∈ (record.subtractEach sets).1.alsoFailedInBaseline ↔
    id ∈ record.failed ∧ ∃ failures ∈ sets, id ∈ failures
  apart : (record.subtractEach sets).1.Apart
  moved : (record.subtractEach sets).2.sum = (record.subtractEach sets).1.alsoFailedInBaseline.size
  executed : (record.subtractEach sets).1.executed = record.executed
  passed : (record.subtractEach sets).1.passed = record.passed
  recovered : (record.subtractEach sets).1.recovered = record.recovered
  round : (record.subtractEach sets).1.round = record.round
  /-- The order of the sets does not count. -/
  reordered : ∀ sets', sets'.Perm sets →
    (record.subtractEach sets').1 = (record.subtractEach sets).1
  /-- A set that was subtracted has nothing left to move. -/
  repeated : ∀ failures ∈ sets, (record.subtractEach sets).1.subtractBaseline failures =
    ((record.subtractEach sets).1, 0)

theorem Apart.subtracts {record : RoundRecord} (apart : record.Apart)
    (hseeded : record.round.isBaseline = false) (hunmoved : record.alsoFailedInBaseline = .empty)
    (sets : List (OrderedSet TestId)) : record.Subtracts sets := by
  have leaves := subtractEach_leaves apart hseeded
  refine ⟨(leaves sets).failed, fun id => ?_, (leaves sets).apart apart, ?_,
    (leaves sets).executed, (leaves sets).passed, (leaves sets).recovered, (leaves sets).round,
    fun sets' hperm => ?_, fun failures hmem => ?_⟩
  · rw [(leaves sets).alsoFailed, hunmoved]
    exact or_iff_right OrderedSet.not_mem_empty
  · rw [(leaves sets).moved, hunmoved]
    exact (Nat.zero_add _).symm
  · exact (leaves sets').unique (leaves sets) fun id =>
      exists_congr fun failures => and_congr_left fun _ => hperm.mem_iff
  · exact subtractBaseline_of_disjoint fun id hid hin =>
      (((leaves sets).failed id).mp hid).2 ⟨failures, hmem, hin⟩

end RoundRecord

/-! ## Records of a tally -/

/-- The record of a round that finishes with a result of a tally has its groups apart. -/
theorem complete_apart (filter : Filter) (cap : FailureCap) (calls : List TallyCall)
    (round : Round) : (round.complete (Tally.after filter cap calls).result).Apart := by
  obtain ⟨past, now, -, called⟩ := Tally.after_called filter cap calls
  have tells := called.holds.snapshot_tells
  rw [called.result]
  refine ⟨fun id _ => OrderedSet.not_mem_empty, fun id hfailed hpassed => ?_, fun id halso => ?_⟩
  · exact tells.disjoint id hpassed (OrderedSet.mem_ofList.mp hfailed)
  · exact absurd halso OrderedSet.not_mem_empty

/-- Whatever a tally was told, subtracting sets from the record of a seeded round moves exactly the
    failures that are in one of the sets, in any order, and each of them once. The record of a
    baseline stays as it is. -/
theorem complete_subtractEach (filter : Filter) (cap : FailureCap) (calls : List TallyCall)
    (uuid : Uuid) (runDirectory artifactDirectory : String) (sets : List (OrderedSet TestId)) :
    (∀ seeding, ((Round.seeded uuid seeding runDirectory artifactDirectory).complete
        (Tally.after filter cap calls).result).Subtracts sets) ∧
    ((Round.baseline uuid runDirectory artifactDirectory).complete
        (Tally.after filter cap calls).result).subtractEach sets =
      ((Round.baseline uuid runDirectory artifactDirectory).complete
        (Tally.after filter cap calls).result, List.replicate sets.length 0) := by
  constructor
  · intro seeding
    exact (complete_apart filter cap calls _).subtracts rfl rfl sets
  · exact RoundRecord.subtractEach_of_isBaseline rfl sets

end Flaky
