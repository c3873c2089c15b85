-- SUMMARY: The derivation of a round's seed is a bijection of the index, for a fixed base seed, and of the base seed, for a fixed index.
import Flaky.Seed
import Mathlib.Data.BitVec
import Mathlib.Data.Finite.Defs

/-!
# Seed derivation

Every step of the derivation can be undone: xor with a shift to the right
leaves the high bits as they are, from which the others can be told one shift
at a time, and an odd factor has an inverse. So two rounds of a run never share
a seed.
-/

namespace Flaky.Seed

/-! ## Xor with a shift -/

theorem eq_zero_of_eq_shift {w k : Nat} {d : BitVec w} (hk : 0 < k) (h : d = d >>> k) :
    d = 0#w := by
  have shifts : ∀ n : Nat, d = d >>> (k * n) := by
    intro n
    induction n with
    | zero => simp
    | succ n ih =>
      calc d = d >>> k := h
        _ = d >>> (k * n) >>> k := by rw [← ih]
        _ = d >>> (k * (n + 1)) := by rw [← BitVec.shiftRight_add, Nat.mul_succ]
  have hw : w ≤ k * w := Nat.le_mul_of_pos_left w hk
  rw [shifts w]
  exact BitVec.ushiftRight_eq_zero hw

theorem xorShift_injective_bitVec {w k : Nat} (hk : 0 < k) :
    Function.Injective fun x : BitVec w => x ^^^ (x >>> k) := by
  intro x y h
  -- What two words differ in is its own shift.
  have hd : x ^^^ y = (x ^^^ y) >>> k := by
    rw [BitVec.ushiftRight_xor_distrib, ← BitVec.xor_eq_zero_iff]
    calc x ^^^ y ^^^ (x >>> k ^^^ y >>> k)
        = (x ^^^ x >>> k) ^^^ (y ^^^ y >>> k) := by ac_rfl
      _ = 0#w := BitVec.xor_eq_zero_iff.mpr h
  exact BitVec.xor_eq_zero_iff.mp (eq_zero_of_eq_shift hk hd)

theorem xorShift_injective {k : UInt64} (hk : 0 < k.toBitVec.toNat % 64) :
    Function.Injective fun x : UInt64 => x ^^^ (x >>> k) := by
  intro x y h
  have hbits := congrArg UInt64.toBitVec h
  simp only [UInt64.toBitVec_xor, UInt64.toBitVec_shiftRight] at hbits
  exact UInt64.toBitVec_inj.mp (xorShift_injective_bitVec (by simpa using hk) hbits)

/-! ## Odd factors -/

theorem mul_injective {c : UInt64} (inverse : UInt64) (h : c * inverse = 1) :
    Function.Injective (· * c) := by
  intro x y hxy
  calc x = x * c * inverse := by rw [UInt64.mul_assoc, h, UInt64.mul_one]
    _ = y * c * inverse := congrArg (· * inverse) hxy
    _ = y := by rw [UInt64.mul_assoc, h, UInt64.mul_one]

theorem mul_increment_injective : Function.Injective (· * increment) :=
  mul_injective 0xf1de83e19937733d (by decide)

/-! ## The derivation -/

instance : Finite UInt64 :=
  have : Finite (BitVec 64) := Finite.of_equiv _ BitVec.equivFin.symm.toEquiv
  Finite.of_injective UInt64.toBitVec fun _ _ => UInt64.toBitVec_inj.mp

theorem mix_injective : Function.Injective mix := by
  have first := xorShift_injective (k := 30) (by decide)
  have second := xorShift_injective (k := 27) (by decide)
  have third := xorShift_injective (k := 31) (by decide)
  have firstFactor := mul_injective (c := 0xbf58476d1ce4e5b9) 0x96de1b173f119089 (by decide)
  have secondFactor := mul_injective (c := 0x94d049bb133111eb) 0x319642b2d24d8ec3 (by decide)
  exact third.comp (secondFactor.comp (second.comp (firstFactor.comp first)))

theorem mix_bijective : Function.Bijective mix := Finite.injective_iff_bijective.mp mix_injective

theorem mk_bijective : Function.Bijective Seed.mk :=
  ⟨fun _ _ h => congrArg Seed.word h, fun seed => ⟨seed.word, rfl⟩⟩

/-- The state of a round that is mixed into its seed. -/
theorem state_bijective (base : Seed) :
    Function.Bijective fun index : UInt64 => base.word + (index + 1) * increment := by
  refine Finite.injective_iff_bijective.mp fun i j h => ?_
  have hstep : (i + 1) * increment = (j + 1) * increment := (UInt64.add_right_inj _).mp h
  exact (UInt64.add_left_inj 1).mp (mul_increment_injective hstep)

/-- The step of a round can be taken back from its state. -/
theorem step_bijective (index : UInt64) :
    Function.Bijective fun base : Seed => base.word + (index + 1) * increment := by
  refine ⟨fun b b' h => ?_, fun state => ⟨⟨state - (index + 1) * increment⟩, ?_⟩⟩
  · have hword : b.word = b'.word := (UInt64.add_left_inj _).mp h
    exact congrArg Seed.mk hword
  · exact UInt64.sub_add_cancel state _

/-- Seeds never collide: under one base seed different indexes have different seeds, over the whole
    word, the index at which the count of rounds wraps included; and at one index different base
    seeds have different seeds. -/
theorem forRound_bijective :
    (∀ base : Seed, Function.Bijective base.forRound) ∧
    (∀ base : Seed, base.forRound (.ofNat (2 ^ 64 - 1)) = ⟨mix base.word⟩) ∧
    ∀ index : UInt64, Function.Bijective fun base : Seed => base.forRound index := by
  refine ⟨fun base => ?_, fun base => ?_, fun index => ?_⟩
  · exact mk_bijective.comp (mix_bijective.comp (state_bijective base))
  · have hwrap : UInt64.ofNat (2 ^ 64 - 1) + 1 = 0 := by decide
    rw [forRound, hwrap, UInt64.zero_mul, UInt64.add_zero]
  · exact mk_bijective.comp (mix_bijective.comp (step_bijective index))

end Flaky.Seed
