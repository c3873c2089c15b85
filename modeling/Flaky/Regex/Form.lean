-- SUMMARY: The form of a regular expression: how deep it is nested, and how large the automaton is that it stands for.

/-!
# Forms of regular expressions

Of an expression that is only accepted or refused, the form is enough. It has
limits of its own: on its depth, and on the size of its automaton, in bytes.
-/

namespace Flaky

inductive Regex
  | empty
  /-- A change of flags for what follows. -/
  | setting
  /-- A character of so many bytes. -/
  | literal (bytes : Nat)
  | assertion
  /-- A class of characters, with the depth of its brackets and its size. -/
  | characters (depth size : Nat)
  | group (captures : Bool) (inner : Regex)
  /-- At least `least` and, if there is a bound, at most `most` times. -/
  | repeated (least : Nat) (most : Option Nat) (inner : Regex)
  | sequence (items : List Regex)
  | choice (branches : List Regex)

namespace Regex

instance : Inhabited Regex := ⟨.empty⟩

/-! ## Depth -/

mutual

def depth : Regex → Nat
  | .empty | .setting | .literal _ | .assertion => 0
  | .characters depth _ => depth
  | .group _ inner | .repeated _ _ inner => inner.depth + 1
  | .sequence items | .choice items => depthOfAll items + 1

def depthOfAll : List Regex → Nat
  | [] => 0
  | item :: rest => max item.depth (depthOfAll rest)

end

def depthLimit : Nat := 250

/-! ## Size -/

/-- The size of one state of the automaton. -/
def stateSize : Nat := 32

mutual

/-- The size of the automaton, which holds a repeated part as often as it may be needed. -/
def size : Regex → Nat
  | .empty | .setting | .assertion => stateSize
  | .literal bytes => stateSize * bytes
  | .characters _ size => size
  | .group captures inner => (if captures then 2 * stateSize else 0) + inner.size
  | .repeated least none inner => max least 1 * inner.size + stateSize
  | .repeated least (some most) inner =>
    most * inner.size + (most - least + 1) * stateSize
  | .sequence items => sizeOfAll items
  | .choice branches => 2 * stateSize + sizeOfAll branches

def sizeOfAll : List Regex → Nat
  | [] => 0
  | item :: rest => item.size + sizeOfAll rest

end

def sizeLimit : Nat := 10 * 1024 * 1024

/-- Whether an expression keeps within the limits. -/
def isModerate (regex : Regex) : Bool := regex.depth ≤ depthLimit && regex.size ≤ sizeLimit

/-! ## Sequences and choices -/

/-- The expression of some items in a row. -/
def ofItems : List Regex → Regex
  | [] => .empty
  | [item] => item
  | items => .sequence items

/-- The expression of some branches, of which there is at least one. -/
def ofBranches : List Regex → Regex
  | [branch] => branch
  | branches => .choice branches

/-- Whether an item can be repeated. -/
def isRepeatable : Regex → Bool
  | .empty | .setting => false
  | _ => true

end Regex

end Flaky
