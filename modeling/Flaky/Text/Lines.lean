-- SUMMARY: Cutting a text at a separator and into lines.

/-!
# Lines

A text is cut at every line feed; a carriage return right before it belongs to
the break. A break at the very end begins no further line.
-/

namespace Flaky.Text

/-- The parts between occurrences of `sep`: one more than there are occurrences. -/
def splitAt (sep : Char) : List Char → List (List Char)
  | [] => [[]]
  | c :: rest =>
    if c = sep then [] :: splitAt sep rest
    else
      match splitAt sep rest with
      | [] => [[c]]
      | part :: parts => (c :: part) :: parts

/-- The line that ends at a line feed, without the carriage return of the break. -/
def dropReturn (line : List Char) : List Char :=
  if line.getLast? = some '\r' then line.dropLast else line

/-- The lines among the parts of a text; the last part has no break after it. -/
def linesOf : List (List Char) → List (List Char)
  | [] => []
  | [last] => if last.isEmpty then [] else [last]
  | part :: parts => dropReturn part :: linesOf parts

def lines (cs : List Char) : List (List Char) := linesOf (splitAt '\n' cs)

end Flaky.Text
