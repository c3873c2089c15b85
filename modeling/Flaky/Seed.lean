-- SUMMARY: 64-bit seeds and the derivation of a round's seed from a base seed.

/-!
# Seeds

Every seeded round runs under its own 64-bit seed, derived from one base seed
and the round's index. The derivation is a bijection of words: a Weyl step of
fixed odd increment, then a mixer made of invertible steps only.
-/

namespace Flaky

structure Seed where
  word : UInt64
deriving DecidableEq

namespace Seed

/-- The base seed of a run that is given none. -/
def standard : Seed := ⟨933178⟩

/-- The odd distance between the states of two consecutive rounds. -/
def increment : UInt64 := 0x9e3779b97f4a7c15

/-- Spread every bit of a state over the whole word. -/
def mix (state : UInt64) : UInt64 :=
  let z := (state ^^^ (state >>> 30)) * 0xbf58476d1ce4e5b9
  let z := (z ^^^ (z >>> 27)) * 0x94d049bb133111eb
  z ^^^ (z >>> 31)

/-- The seed of the seeded round at `index`; `index + 1` wraps at the word's end. -/
def forRound (base : Seed) (index : UInt64) : Seed :=
  ⟨mix (base.word + (index + 1) * increment)⟩

def toNat (seed : Seed) : Nat := seed.word.toNat

def text (seed : Seed) : String := toString seed.toNat

end Seed

end Flaky
