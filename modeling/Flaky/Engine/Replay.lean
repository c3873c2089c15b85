-- SUMMARY: Engines that replay prepared rounds, and remember with what they were called.
import Flaky.Engine

/-!
# Replaying engines

A prepared round is a list of reports and perhaps the error that it ends with. A
replaying engine takes the rounds in turn. It leaves out the reports on tests
that are not selected if it is to respect the selection.
-/

namespace Flaky

/-- What an engine is to deliver in a round. -/
structure PreparedRound where
  reports : List Report
  failure : Option EngineError

namespace PreparedRound

def empty : PreparedRound := ⟨[], none⟩

/-- What an engine does that replays the round for a selection. -/
def play (respectSelection : Bool) (prepared : PreparedRound) (selection : Selection) :
    EngineRun where
  reports := prepared.reports.filter fun report =>
    !respectSelection || selection.includes report.test
  failure := prepared.failure
  notesBefore := []
  notesEach := []
  notesAfter := []

end PreparedRound

/-- With what an engine was called, and whether the output directory was there. -/
structure EngineCall where
  selection : Selection
  hadDirectory : Bool

namespace Engine

def replay (respectSelection : Bool) (rounds : List PreparedRound) : Engine (List EngineCall) :=
  fun selection calls disk =>
    let call : EngineCall := ⟨selection, disk.isDirectory selection.round.outputDirectory⟩
    ((rounds.getD calls.length .empty).play respectSelection selection, calls ++ [call], disk)

end Engine

end Flaky
