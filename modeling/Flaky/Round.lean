-- SUMMARY: Rounds: the baseline and the seeded rounds, what identifies them and where they write.
import Flaky.ExecutionId
import Flaky.Path
import Flaky.Perturbation
import Flaky.Seed

/-!
# Rounds

A round is one execution of the tests: the baseline, which is not perturbed, or
a seeded round with its index, its seed and the settings of the perturbation.
Each has an id of its own and writes below the run's directory, under that id.
-/

namespace Flaky

/-- What sets a seeded round apart. -/
structure Seeding where
  index : Nat
  seed : Seed
  perturbation : Perturbation
deriving DecidableEq

structure Round where
  uuid : Uuid
  /-- `none` for the baseline. -/
  seeding : Option Seeding
  runDirectory : String
  artifactDirectory : String
deriving DecidableEq

namespace Round

def baseline (uuid : Uuid) (runDirectory artifactDirectory : String) : Round :=
  ⟨uuid, none, runDirectory, artifactDirectory⟩

def seeded (uuid : Uuid) (seeding : Seeding) (runDirectory artifactDirectory : String) : Round :=
  ⟨uuid, some seeding, runDirectory, artifactDirectory⟩

def isBaseline (round : Round) : Bool := round.seeding.isNone

def index? (round : Round) : Option Nat := round.seeding.map (·.index)

def seed? (round : Round) : Option Seed := round.seeding.map (·.seed)

def id (round : Round) : ExecutionId := ⟨round.isBaseline, round.uuid⟩

/-- Where the round's own output goes. -/
def outputDirectory (round : Round) : String := Path.join round.runDirectory round.id.text

/-- The round's name: `baseline`, or the index and the seed. -/
def name (round : Round) : String :=
  match round.seeding with
  | none => "baseline"
  | some seeding => s!"seed {seeding.index} ({seeding.seed.text})"

end Round

end Flaky
