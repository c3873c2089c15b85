-- SUMMARY: Expansion: the values of the pieces of words, and the fields that words become.
import Flaky.Shell.Field
import Flaky.Shell.Machine
import Flaky.Shell.Wildcard

/-!
# Expansion

The command inside a piece is done by `inner`, which is the shell one level below.
-/

namespace Flaky.Shell

section

variable (inner : (guarded : Bool) → Script → Act Unit)

namespace Piece

def segment (quoted : Bool) (text : List Char) : Segment :=
  if quoted then .whole text true else .loose text

/-- The arguments, each a field of its own. -/
def argumentSegments : List String → List Segment
  | [] => []
  | [a] => [.whole a.toList true]
  | a :: rest => .whole a.toList true :: .cut :: argumentSegments rest

def withoutBreaks (text : List Char) : List Char := (text.reverse.dropWhile (· == '\n')).reverse

/-- Whether a value counts as missing. -/
def isMissing (ofEmpty : Bool) : Option String → Bool
  | none => true
  | some value => ofEmpty && value.isEmpty

/-- What a form makes of the value of a parameter. `word` expands a word inside the form; its
    quotes count where it is `loose`. -/
def formed (word : (loose : Bool) → List Char → Act Marked) (name : String) (form : ParameterForm)
    (value : Option String) : Act (List Char) :=
  let plain := (value.getD "").toList
  let text := fun other : List Char => do return (← word false other).text
  let known : Act Unit := do
    if (← get).precise && value.isNone && !(["@", "*"].contains name) then
      Act.abandon s!"{name}: parameter not set"
  match form with
  | .plain => do
    known
    return plain
  | .length => do
    known
    return (toString plain.length).toList
  | .orElse ofEmpty other => if isMissing ofEmpty value then text other else return plain
  | .instead ofEmpty other => if isMissing ofEmpty value then return [] else text other
  | .settled ofEmpty other =>
    if isMissing ofEmpty value then do
      let chars ← text other
      modify fun m => m.assign name (String.ofList chars)
      return chars
    else return plain
  | .demanded ofEmpty other =>
    if isMissing ofEmpty value then do
      let chars ← text other
      let missing := if ofEmpty then "parameter not set or null" else "parameter not set"
      Act.abandon s!"{name}: {if chars.isEmpty then missing else String.ofList chars}"
    else return plain
  | .trimmed cut pattern => do
    known
    return (Pattern.ofMarked (← word true pattern)).cut cut plain

/-- What a command prints, without the breaks at its end. -/
def printed (source : List Char) : Act (List Char) :=
  match Script.ofChars? source with
  | none => Act.abandon "syntax error"
  | some script => do return withoutBreaks (← Act.capture (inner false script))

/-- The segments of a piece; `word` expands a word inside it. -/
def segments (word : (loose : Bool) → List Char → Act Marked) : Piece → Act (List Segment)
  | .text chars quoted => return [.whole chars quoted]
  | .parameter name form quoted => do
    let m ← get
    match name, form, quoted with
    | "@", .plain, true => return argumentSegments m.arguments
    | name, form, quoted => return [segment quoted (← formed word name form (m.value? name))]
  | .output source quoted => do return [segment quoted (← printed inner source)]
  | .sum source quoted => do
    let text := (← word false source).text
    match Sum.value? (← get).number? text with
    | some n => return [segment quoted (toString n).toList]
    | none => Act.abandon "arithmetic expression: syntax error"

end Piece

namespace Word

/-- The words inside a piece, which may be nested as deep as `depth`. -/
def inside : (depth : Nat) → (loose : Bool) → List Char → Act Marked
  | 0, _, _ => Act.abandon "Bad substitution"
  | depth + 1, loose, source =>
    match (if loose then loosePieces? (source.length + 1) source else wholePieces? source) with
    | none => Act.abandon "Bad substitution"
    | some word => do
      return Segment.marked (← word.mapM (Piece.segments inner (inside depth))).flatten

/-- How deep words are nested. -/
def nesting : Nat := 32

def segments (w : Word) : Act (List Segment) := do
  return (← w.mapM (Piece.segments inner (inside inner nesting))).flatten

/-- The value of a word that is not split. -/
def value (w : Word) : Act String := do
  return String.ofList (Segment.text (← segments inner w))

def asksForArguments (w : Word) : Bool :=
  w.any fun
    | .parameter "@" .plain true => true
    | _ => false

/-- The pattern that a word is. -/
def pattern (w : Word) : Act Pattern := do
  return .ofMarked (Segment.marked (← segments inner w))

/-- The fields of a word. Arguments that are not there make no field, not even an empty one. -/
def fields (w : Word) : Act (List String) := do
  let segments ← segments inner w
  let m ← get
  if asksForArguments w && m.arguments.isEmpty && (Segment.text segments).isEmpty then return []
  else return (Segment.fields m.separators segments).flatMap (Wildcard.expand m.disk)

def allFields (words : List Word) : Act (List String) := do
  return (← words.mapM (fields inner)).flatten

/-- Whether a word holds a command. -/
def hasCommand (w : Word) : Bool :=
  w.any fun
    | .output _ _ => true
    | _ => false

end Word

end

end Flaky.Shell
