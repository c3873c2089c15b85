-- SUMMARY: Glob patterns: their tokens and how a pattern is read, with the ways in which it can be malformed.

/-!
# Glob patterns

A pattern is read into tokens. `?` stands for one element, `*` for any run of
them, `[…]` for a class and `{…,…}` for alternates, which nest and may be
empty. A backslash is an ordinary character. Two adjacent stars that stand as a
whole component between slashes are recursive; elsewhere they are two stars.
-/

namespace Flaky

inductive GlobToken
  | literal (c : Char)
  | any
  | star
  /-- Leading components, as in `**/x`. -/
  | recursiveStart
  /-- Everything below, as in `x/**`. -/
  | recursiveEnd
  /-- Components in between, as in `x/**/y`. -/
  | recursiveMiddle
  | class (negated : Bool) (ranges : List (Char × Char))
  | alternates (branches : List (List GlobToken))

namespace Glob

inductive ReadError
  | unclosedClass
  | invalidRange (first last : Char)
  | unclosedAlternates
  | unopenedAlternates
deriving DecidableEq

def ReadError.message : ReadError → String
  | .unclosedClass => "unclosed character class; missing ']'"
  | .invalidRange first last =>
    "invalid range; '" ++ first.toString ++ "' > '" ++ last.toString ++ "'"
  | .unclosedAlternates =>
    "unclosed alternate group; missing '\x7d' (maybe escape '\x7b' with '[\x7b]'?)"
  | .unopenedAlternates =>
    "unopened alternate group; missing '\x7b' (maybe escape '\x7d' with '[\x7d]'?)"

/-! ## Character classes -/

/-- The members of a class read so far, latest first. -/
abbrev Ranges := List (Char × Char)

/-- Extend the latest member to a range that ends at `last`. -/
def closeRange (last : Char) : Ranges → Except ReadError Ranges
  | [] => .ok [(last, last)]
  | (first, _) :: rest =>
    if last < first then .error (.invalidRange first last) else .ok ((first, last) :: rest)

/-- Read the members of a class up to its closing bracket. `start` holds before the first member,
    and `inRange` after a dash that may join two members. The second result counts the characters
    read. -/
def classFrom : (start inRange : Bool) → Ranges → (count : Nat) → List Char →
    Except ReadError (Ranges × Nat)
  | _, _, _, _, [] => .error .unclosedClass
  | start, inRange, ranges, count, c :: rest =>
    if c = ']' ∧ start = false then
      .ok (if inRange then ('-', '-') :: ranges else ranges, count + 1)
    else if c = ']' ∧ start then classFrom false false ((c, c) :: ranges) (count + 1) rest
    else if c = '-' ∧ start then classFrom false false ((c, c) :: ranges) (count + 1) rest
    else if c = '-' ∧ inRange = false then classFrom false true ranges (count + 1) rest
    else if inRange then
      match closeRange c ranges with
      | .error e => .error e
      | .ok ranges => classFrom false false ranges (count + 1) rest
    else classFrom false false ((c, c) :: ranges) (count + 1) rest

/-- Read a class after its opening bracket: the token, and how many characters it takes. -/
def readClass (cs : List Char) : Except ReadError (GlobToken × Nat) :=
  match cs with
  | c :: rest =>
    if c = '!' ∨ c = '^' then do
      let (ranges, count) ← classFrom true false [] 1 rest
      return (.class true ranges.reverse, count)
    else do
      let (ranges, count) ← classFrom true false [] 0 cs
      return (.class false ranges.reverse, count)
  | [] => .error .unclosedClass

/-! ## Patterns -/

/-- An alternation that is still open: the branches that are complete and the tokens that were
    before it, both latest first. -/
structure OpenGroup where
  branches : List (List GlobToken)
  before : List GlobToken

/-- What has been read of a pattern: open alternations, innermost first, the tokens of the current
    branch, latest first, and the character just read. -/
structure ReadState where
  groups : List OpenGroup
  tokens : List GlobToken
  last : Option Char

def ReadState.push (s : ReadState) (token : GlobToken) : ReadState :=
  { s with tokens := token :: s.tokens }

/-- Two stars that are no component of their own. -/
def ReadState.pushStars (s : ReadState) : ReadState := (s.push .star).push .star

/-- Two stars after a slash, where `atEnd` says that nothing but the end of the branch follows. They
    take the place of the slash, unless a recursive token already stands there. -/
def ReadState.pushRecursive (s : ReadState) (atEnd : Bool) : ReadState :=
  match s.tokens with
  | .recursiveStart :: _ | .recursiveEnd :: _ => s
  | _ :: rest => { s with tokens := (if atEnd then .recursiveEnd else .recursiveMiddle) :: rest }
  | [] => s

/-- Read two stars, given the state before them and the character that follows. Says whether that
    character is taken too. -/
def readStars (s : ReadState) (next : Option Char) : ReadState × Bool :=
  if s.tokens.isEmpty then
    match next with
    | none => (s.push .recursiveStart, false)
    | some '/' => (s.push .recursiveStart, true)
    | some _ => (s.pushStars, false)
  else if s.last ≠ some '/' then (s.pushStars, false)
  else
    match next with
    | none => (s.pushRecursive true, false)
    | some '/' => (s.pushRecursive false, true)
    | some c =>
      if (c = ',' ∨ c = '}') ∧ s.groups.isEmpty = false then (s.pushRecursive true, false)
      else (s.pushStars, false)

/-- Read a pattern; `skip` characters belong to the token read last. -/
def readFrom : (skip : Nat) → ReadState → List Char → Except ReadError (List GlobToken)
  | _, s, [] => if s.groups.isEmpty then .ok s.tokens.reverse else .error .unclosedAlternates
  | skip + 1, s, c :: rest => readFrom skip { s with last := some c } rest
  | 0, s, c :: rest =>
    let read (s : ReadState) : ReadState := { s with last := some c }
    match c with
    | '?' => readFrom 0 (read (s.push .any)) rest
    | '*' =>
      match rest with
      | '*' :: after =>
        let (s', taken) := readStars s after.head?
        readFrom (if taken then 2 else 1) (read s') rest
      | _ => readFrom 0 (read (s.push .star)) rest
    | '[' =>
      match readClass rest with
      | .error e => .error e
      | .ok (token, count) => readFrom count (read (s.push token)) rest
    | '{' => readFrom 0 (read ⟨⟨[], s.tokens⟩ :: s.groups, [], s.last⟩) rest
    | '}' =>
      match s.groups with
      | [] => .error .unopenedAlternates
      | g :: groups =>
        let branches := (s.tokens.reverse :: g.branches).reverse
        readFrom 0 (read ⟨groups, .alternates branches :: g.before, s.last⟩) rest
    | ',' =>
      match s.groups with
      | [] => readFrom 0 (read (s.push (.literal ','))) rest
      | g :: groups =>
        readFrom 0 (read ⟨⟨s.tokens.reverse :: g.branches, g.before⟩ :: groups, [], s.last⟩) rest
    | c => readFrom 0 (read (s.push (.literal c))) rest

end Glob

/-- A glob pattern and the tokens it was read into. -/
structure Glob where
  tokens : List GlobToken

def Glob.ofText (pattern : String) : Except Glob.ReadError Glob :=
  (Glob.readFrom 0 ⟨[], [], none⟩ pattern.toList).map Glob.mk

end Flaky
