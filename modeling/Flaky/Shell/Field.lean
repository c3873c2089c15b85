-- SUMMARY: Fields: what the words of a shell command become once their pieces have values.
import Flaky.Shell.Token

/-!
# Fields

The value of a piece that is not quoted is split at separators. Separators that
are blanks make no empty fields; any other separator ends a field, even an empty
one. Quoted values stay whole, and a quoted part makes a field even where it is
empty.
-/

namespace Flaky.Shell

inductive Segment
  /-- Text that is not split. -/
  | whole (text : List Char) (quoted : Bool)
  /-- Text that is split at separators. -/
  | loose (text : List Char)
  /-- The end of a field. -/
  | cut
deriving DecidableEq

/-! ## Separators -/

abbrev Separators := List Char

namespace Separators

def isBlank (c : Char) : Bool := c == ' ' || c == '\t' || c == '\n'

def standard : Separators := [' ', '\t', '\n']

def isSoft (separators : Separators) (c : Char) : Bool := separators.contains c && isBlank c

def isHard (separators : Separators) (c : Char) : Bool := separators.contains c && !isBlank c

/-- A text without the soft separators at its ends. -/
def trim (separators : Separators) (cs : List Char) : List Char :=
  ((cs.dropWhile separators.isSoft).reverse.dropWhile separators.isSoft).reverse

end Separators

/-! ## Splitting -/

/-- The fields that are complete, and the one that is not. -/
structure Split where
  fields : List Marked
  current : Option Marked
  /-- Soft separators have just ended a field; a hard one that follows belongs to them. -/
  ended : Bool

namespace Split

def empty : Split := ⟨[], none, false⟩

def extend (s : Split) (text : Marked) : Split :=
  { s with current := some (s.current.getD [] ++ text), ended := false }

/-- End the current field, if there is one. -/
def close (s : Split) : Split :=
  match s.current with
  | none => s
  | some field => ⟨s.fields ++ [field], none, true⟩

/-- End the current field, even if it is empty. -/
def finish (s : Split) : Split :=
  if s.ended then { s with ended := false }
  else ⟨s.fields ++ [s.current.getD []], none, false⟩

def addLoose (separators : Separators) (s : Split) (c : Char) : Split :=
  if separators.isSoft c then s.close
  else if separators.isHard c then s.finish
  else s.extend [(c, false)]

def add (separators : Separators) (s : Split) : Segment → Split
  | .whole text quoted => s.extend (Marked.of quoted text)
  | .loose text => text.foldl (addLoose separators) s
  | .cut => { s.close with ended := false }

end Split

namespace Segment

/-- The fields that some segments make. -/
def fields (separators : Separators) (segments : List Segment) : List Marked :=
  (segments.foldl (Split.add separators) .empty).close.fields

/-- The characters of segments where nothing is split. -/
def marked (segments : List Segment) : Marked :=
  segments.flatMap fun
    | .whole text quoted => Marked.of quoted text
    | .loose text => Marked.of false text
    | .cut => [(' ', true)]

def text (segments : List Segment) : List Char := (marked segments).text

end Segment

end Flaky.Shell
