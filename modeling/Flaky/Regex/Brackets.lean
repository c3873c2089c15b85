-- SUMMARY: Character classes in brackets: members, ranges, nested classes and their combinations.
import Flaky.Regex.Lexeme

/-!
# Classes in brackets

Members stand in a row. Two signs of one kind, `&&`, `--` or `~~`, combine what
is before them with what is after them. A class may stand inside another.
-/

namespace Flaky.Regex

/-! ## Members -/

/-- The members read so far: how many, how deep the deepest of them is, and their size. -/
structure Members where
  count : Nat
  deepest : Nat
  size : Nat

namespace Members

def none : Members := ⟨0, 0, 0⟩

def add (members : Members) (depth size : Nat) : Members :=
  ⟨members.count + 1, max members.deepest depth, members.size + size⟩

/-- Several members are one level deeper than one. -/
def depth (members : Members) : Nat :=
  if members.count ≤ 1 then members.deepest else members.deepest + 1

end Members

/-- The depth of members that a sign combines with those before it. -/
def combinedDepth (left : Option Nat) (members : Members) : Nat :=
  match left with
  | .none => members.depth
  | some left => max left members.depth + 1

/-! ## Named ASCII classes -/

def asciiClasses : List String :=
  ["alnum", "alpha", "ascii", "blank", "cntrl", "digit", "graph", "lower", "print", "punct",
    "space", "upper", "word", "xdigit"]

/-- A named class such as `[:alpha:]`, after its bracket, and whether it is negated. -/
def asciiClass? : List Char → Read Bool
  | ':' :: rest =>
    let (negated, rest) := match rest with
      | '^' :: rest => (true, rest)
      | rest => (false, rest)
    let name := rest.takeWhile (· != ':')
    match rest.drop name.length with
    | ':' :: ']' :: rest =>
      if asciiClasses.contains (String.ofList name) then some (negated, rest) else none
    | _ => none
  | _ => none

/-! ## Openings -/

/-- Hyphens in front of a class are members. -/
def leadingHyphens (flags : Flags) : (fuel : Nat) → Members → List Char → Members × List Char
  | 0, members, cs => (members, cs)
  | fuel + 1, members, cs =>
    match cs with
    | '-' :: rest => leadingHyphens flags fuel (members.add 0 8) (flags.skip rest)
    | cs => (members, cs)

/-- What follows an opening bracket: a sign of negation, hyphens, or a bracket that is a member. -/
def opening (flags : Flags) (cs : List Char) : Bool × Members × List Char :=
  let (negated, cs) := match flags.skip cs with
    | '^' :: rest => (true, flags.skip rest)
    | cs => (false, cs)
  let (members, cs) := leadingHyphens flags cs.length .none cs
  match members.count, cs with
  | 0, ']' :: rest => (negated, members.add 0 8, flags.skip rest)
  | _, cs => (negated, members, cs)

/-! ## Items -/

def item? (flags : Flags) : List Char → Read Atom
  | [] => none
  | '\\' :: rest => escape? flags rest
  | c :: rest => some (.literal c false, rest)

/-- The size of an atom as a member of a class. -/
def memberSize (flags : Flags) : Atom → Option Nat
  | .literal c _ => if c.toNat < 0x80 then some 8 else if flags.unicode then some 64 else none
  | .assertion | .any => none
  | .shorthand negated size => if flags.unicode || !negated then some size else none
  | .property => if flags.unicode then some propertyClassSize else none

/-- A range ends in a character after or at its first one. -/
def rangeSize (flags : Flags) : Atom → Atom → Option Nat
  | .literal a x, .literal b y =>
    if a ≤ b then
      (memberSize flags (.literal a x)).bind fun _ => memberSize flags (.literal b y)
    else none
  | _, _ => none

/-- Whether a hyphen follows that joins the ends of a range, and the text after it. -/
def rangeEnd? (flags : Flags) (cs : List Char) : Option (List Char) :=
  match cs with
  | '-' :: rest =>
    match flags.skip rest with
    | ']' :: _ | '-' :: _ => none
    | cs => some cs
  | _ => none

/-- A member or a range, and its size. -/
def member? (flags : Flags) (cs : List Char) : Read Nat :=
  match item? flags cs with
  | none => none
  | some (first, rest) =>
    let rest := flags.skip rest
    match rangeEnd? flags rest with
    | none => (memberSize flags first).map (·, rest)
    | some rest =>
      match item? flags rest with
      | none => none
      | some (last, rest) => (rangeSize flags first last).map (·, rest)

/-! ## Classes -/

/-- The two signs that combine members, if they follow. -/
def combination? : List Char → Option (List Char)
  | '&' :: '&' :: rest | '-' :: '-' :: rest | '~' :: '~' :: rest => some rest
  | _ => none

/-- A class up to its closing bracket, after some of its members: its depth and size. -/
def classFrom? (flags : Flags) : (fuel : Nat) → (left : Option Nat) → Members → List Char →
    Read (Nat × Nat)
  | 0, _, _, _ => none
  | fuel + 1, left, members, cs =>
    match flags.skip cs with
    | [] => none
    | ']' :: rest => some ((combinedDepth left members, members.size), rest)
    | '[' :: rest =>
      match asciiClass? rest with
      | some (negated, rest) =>
        if negated && !flags.unicode then none
        else classFrom? flags fuel left (members.add 0 16) rest
      | none =>
        let (negated, inside, rest) := opening flags rest
        if negated && !flags.unicode then none
        else
          match classFrom? flags fuel none inside rest with
          | some ((depth, size), rest) =>
            classFrom? flags fuel left (members.add (depth + 1) (size + anySize)) rest
          | none => none
    | cs =>
      match combination? cs with
      | some rest =>
        classFrom? flags fuel (some (combinedDepth left members)) { Members.none with size := members.size }
          rest
      | none =>
        match member? flags cs with
        | some (size, rest) => classFrom? flags fuel left (members.add 0 size) rest
        | none => none

/-- A class, after its opening bracket: its depth and size. -/
def class? (flags : Flags) (cs : List Char) : Read (Nat × Nat) :=
  let (negated, members, rest) := opening flags cs
  if negated && !flags.unicode then none
  else
    (classFrom? flags (cs.length + 1) none members rest).map fun ((depth, size), rest) =>
      ((depth + 1, size + 32 + if negated then anySize else 0), rest)

end Flaky.Regex
