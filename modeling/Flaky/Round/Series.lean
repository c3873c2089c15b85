-- SUMMARY: Rounds in a row: the records that their reports make, and subtracting failures from many records.
import Flaky.Round.Record

/-!
# Series of rounds
-/

namespace Flaky

/-- The records of rounds with their reports, and what is logged. The tally is reset between two
    rounds. -/
def Tally.series : Tally → List (Round × List Report) → List RoundRecord × List LogEntry
  | _, [] => ([], [])
  | tally, (round, reports) :: rest =>
    let done := tally.addAll reports
    let (records, notes) := (done.freeze.reset false).series rest
    (round.complete done.result :: records, tally.allNotes [] reports ++ notes)

namespace RoundRecord

/-- Subtract some failures from every record, and say how many were moved in each. -/
def subtractAll (failures : OrderedSet TestId) (records : List RoundRecord) :
    List RoundRecord × List Nat :=
  (records.map fun r => r.subtractBaseline failures).unzip

/-- Subtract some failures from every record a number of times. -/
def subtractTimes (failures : OrderedSet TestId) : (times : Nat) → List RoundRecord →
    List RoundRecord × List (List Nat)
  | 0, records => (records, [])
  | times + 1, records =>
    let (records, moved) := subtractAll failures records
    let (records, more) := subtractTimes failures times records
    (records, moved :: more)

end RoundRecord

end Flaky
