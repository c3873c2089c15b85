-- SUMMARY: Basic regular expressions, and whether a line holds a match.
import Flaky.Shell.Pattern

/-!
# Searches

An expression is a row of items, each for one character, of which a star allows
any number. It may be bound to the start or to the end of the line.
-/

namespace Flaky.Shell

structure Search where
  atStart : Bool
  /-- The items, each with whether it may be repeated. -/
  items : List (PatternItem × Bool)
  atEnd : Bool

namespace Search

/-- The search for a text as it stands. -/
def literal (text : List Char) : Search := ⟨false, text.map fun c => (.char c, false), false⟩

/-- Read items; `skip` characters belong to the item read last. The second result says whether the
    end of the line is asked for. -/
def itemsFrom : (skip : Nat) → List Char → List (PatternItem × Bool) × Bool
  | _, [] => ([], false)
  | skip + 1, _ :: rest => itemsFrom skip rest
  | 0, ['$'] => ([], true)
  | 0, '\\' :: c :: rest => item (.char c) 1 (c :: rest)
  | 0, '.' :: rest => item .any 0 rest
  | 0, '[' :: rest =>
    match Pattern.class? (caret rest) with
    | some (found, n) => item found n rest
    | none => item (.char '[') 0 rest
  | 0, c :: rest => item (.char c) 0 rest
where
  /-- An item that takes `n` of the characters that follow, and a star if there is one. -/
  item (found : PatternItem) (n : Nat) (rest : List Char) : List (PatternItem × Bool) × Bool :=
    let starred := (rest.drop n).head? = some '*'
    let (more, atEnd) := itemsFrom (if starred then n + 1 else n) rest
    ((found, starred) :: more, atEnd)
  /-- Classes are negated by a caret. -/
  caret : List Char → Marked
    | '^' :: rest => ('!', false) :: Marked.of false rest
    | rest => Marked.of false rest

def ofChars (cs : List Char) : Search :=
  match cs with
  | '^' :: rest =>
    let (items, atEnd) := itemsFrom 0 rest
    ⟨true, items, atEnd⟩
  | cs =>
    let (items, atEnd) := itemsFrom 0 cs
    ⟨false, items, atEnd⟩

/-- Whether items match a text from its start on, up to its end if they must. -/
def fits (atEnd : Bool) : List (PatternItem × Bool) → List Char → Bool
  | [], cs => !atEnd || cs.isEmpty
  | (item, true) :: items, cs =>
    (List.range (cs.length + 1)).any fun n =>
      (cs.take n).all (fun c => Pattern.accepts [item] [c]) && fits atEnd items (cs.drop n)
  | (_, false) :: _, [] => false
  | (item, false) :: items, c :: cs => Pattern.accepts [item] [c] && fits atEnd items cs

def accepts (search : Search) (line : List Char) : Bool :=
  if search.atStart then fits search.atEnd search.items line
  else (List.range (line.length + 1)).any fun n => fits search.atEnd search.items (line.drop n)

def acceptsWhole (search : Search) (line : List Char) : Bool := fits true search.items line

end Search

end Flaky.Shell
