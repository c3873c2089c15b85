-- SUMMARY: The phases of a run and the transitions between them.

/-!
# Phases

A run goes from its start to the baseline, then through the seeded rounds in
order, and ends done or aborted.
-/

namespace Flaky

inductive Phase
  | init
  | baseline
  | seeded (index : Nat)
  | done
  | aborted
deriving DecidableEq

namespace Phase

def canTransition : Phase → Phase → Bool
  | .init, .baseline => true
  | .baseline, .seeded index => index == 0
  | .baseline, .done => true
  | .seeded index, .seeded next => next == index + 1
  | .seeded _, .done | .seeded _, .aborted => true
  | _, _ => false

def isTerminal : Phase → Bool
  | .done | .aborted => true
  | .init | .baseline | .seeded _ => false

def text : Phase → String
  | .init => "Init"
  | .baseline => "Baseline"
  | .seeded index => s!"Seeded({index})"
  | .done => "Done"
  | .aborted => "Aborted"

end Phase

end Flaky
