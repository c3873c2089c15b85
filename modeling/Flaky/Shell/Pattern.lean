-- SUMMARY: Shell patterns: wildcards and classes, which texts they match, and cutting a match off a text.

/-!
# Shell patterns

A pattern is a row of characters of which some are quoted. Outside of quotes `*`
stands for any text, `?` for any character, and brackets for one of the
characters between them.
-/

namespace Flaky.Shell

/-- Characters, each with whether it is quoted. -/
abbrev Marked := List (Char × Bool)

namespace Marked

def text (marked : Marked) : List Char := marked.map (·.1)

/-- Characters that are all quoted, or all not. -/
def of (quoted : Bool) (chars : List Char) : Marked := chars.map (·, quoted)

def isWild (marked : Marked) : Bool :=
  marked.any fun (c, quoted) => !quoted && (c == '*' || c == '?' || c == '[')

end Marked

inductive PatternItem
  | char (c : Char)
  | any
  | run
  | class (negated : Bool) (ranges : List (Char × Char))
deriving DecidableEq

abbrev Pattern := List PatternItem

namespace Pattern

/-! ## Reading -/

/-- The members of a class up to the bracket that closes it, and how many characters they take.
    A bracket that comes `first` is a member. -/
def classFrom? : (first : Bool) → Marked → Option (List (Char × Char) × Nat)
  | _, [] => none
  | first, (c, quoted) :: rest =>
    if c = ']' && !quoted && !first then some ([], 1)
    else
      match rest with
      | ('-', false) :: (d, q) :: rest =>
        if d = ']' && !q then (classFrom? false (('-', false) :: (d, q) :: rest)).map (more (c, c) 1)
        else (classFrom? false rest).map (more (c, d) 3)
      | rest => (classFrom? false rest).map (more (c, c) 1)
where
  more (range : Char × Char) (taken : Nat) (r : List (Char × Char) × Nat) :
      List (Char × Char) × Nat :=
    (range :: r.1, r.2 + taken)

/-- A class after its opening bracket, and how many characters it takes. -/
def class? : Marked → Option (PatternItem × Nat)
  | ('!', false) :: rest => (classFrom? true rest).map fun (ranges, n) => (.class true ranges, n + 1)
  | rest => (classFrom? true rest).map fun (ranges, n) => (.class false ranges, n)

/-- Read a pattern; `skip` characters belong to the item read last. -/
def readFrom : (skip : Nat) → Marked → Pattern
  | _, [] => []
  | skip + 1, _ :: rest => readFrom skip rest
  | 0, (c, quoted) :: rest =>
    if quoted then .char c :: readFrom 0 rest
    else if c = '*' then .run :: readFrom 0 rest
    else if c = '?' then .any :: readFrom 0 rest
    else if c = '[' then
      match class? rest with
      | some (item, n) => item :: readFrom n rest
      | none => .char c :: readFrom 0 rest
    else .char c :: readFrom 0 rest

def ofMarked (marked : Marked) : Pattern := readFrom 0 marked

/-! ## Matching -/

def inRanges (ranges : List (Char × Char)) (c : Char) : Bool :=
  ranges.any fun (first, last) => first ≤ c && c ≤ last

/-- Whether a pattern matches the whole of a text. -/
def accepts : Pattern → List Char → Bool
  | [], cs => cs.isEmpty
  | .run :: items, cs => (List.range (cs.length + 1)).any fun n => accepts items (cs.drop n)
  | _ :: _, [] => false
  | .char c :: items, d :: cs => c == d && accepts items cs
  | .any :: items, _ :: cs => accepts items cs
  | .class negated ranges :: items, d :: cs => inRanges ranges d != negated && accepts items cs

/-! ## Cutting -/

/-- Which end of a text is cut, and whether as much of it as can be. -/
structure Cut where
  atEnd : Bool
  longest : Bool
deriving DecidableEq

/-- A text without the part at one end that a pattern matches. -/
def cut (pattern : Pattern) (c : Cut) (text : List Char) : List Char :=
  let lengths := List.range (text.length + 1)
  let part := fun n => if c.atEnd then text.drop (text.length - n) else text.take n
  match (if c.longest then lengths.reverse else lengths).find? fun n => accepts pattern (part n) with
  | none => text
  | some n => if c.atEnd then text.take (text.length - n) else text.drop n

end Pattern

end Flaky.Shell
