-- SUMMARY: Execution ids of rounds, their text, their order, and reading them back.
import Flaky.Uuid

/-!
# Execution ids

Every round has its own id: a UUID, and whether the round is the baseline. A
baseline id is written with `clean_` in front. Seeded ids come before baseline
ids, and within each kind the UUID decides.
-/

namespace Flaky

structure ExecutionId where
  baseline : Bool
  uuid : Uuid
deriving DecidableEq

namespace ExecutionId

instance : Ord ExecutionId :=
  ⟨compareLex (compareOn ExecutionId.baseline) (compareOn ExecutionId.uuid)⟩

instance : Std.TransOrd ExecutionId :=
  inferInstanceAs (Std.TransCmp
    (compareLex (compareOn ExecutionId.baseline) (compareOn ExecutionId.uuid)))

theorem compare_eq (a b : ExecutionId) :
    compare a b = (compare a.baseline b.baseline).then (compare a.uuid b.uuid) := rfl

instance : Std.LawfulEqOrd ExecutionId where
  compare_self := Std.ReflCmp.compare_self
  eq_of_compare {a b} h := by
    rw [compare_eq, Ordering.then_eq_eq] at h
    cases a; cases b
    simp_all

/-- What stands before the UUID of a baseline round. -/
def baselineMark : List Char := "clean_".toList

def chars (id : ExecutionId) : List Char :=
  if id.baseline then baselineMark ++ id.uuid.chars else id.uuid.chars

def text (id : ExecutionId) : String := String.ofList id.chars

def ofChars? (cs : List Char) : Option ExecutionId :=
  if cs.take baselineMark.length = baselineMark then
    (Uuid.ofChars? (cs.drop baselineMark.length)).map (⟨true, ·⟩)
  else (Uuid.ofChars? cs).map (⟨false, ·⟩)

def ofText? (text : String) : Option ExecutionId := ofChars? text.toList

/-- What is said of a text that is no execution id. -/
def invalidMessage (text : String) : String := s!"invalid execution id `{text}`"

end ExecutionId

end Flaky
