-- SUMMARY: Which names a glob matches, as positions of a byte sequence that its tokens reach.
import Flaky.Glob
import Flaky.Text.Utf8

/-!
# Matching globs

A glob is matched against the UTF-8 bytes of a whole name. Tokens are run over
marks: one flag for each position of the name, from its start to its end, true
where the tokens so far can have reached. A line break is matched by itself and
by classes only.
-/

namespace Flaky

namespace GlobToken

/-- A byte as seen by a class: single bytes and byte ranges. -/
abbrev ByteRanges := List (UInt8 × UInt8)

/-- A class works on bytes: a character stands for its bytes, and a range joins the last byte of
    its first character to the first byte of its last. -/
def byteRanges : List (Char × Char) → ByteRanges
  | [] => []
  | (a, b) :: rest =>
    let first := Utf8.encodeChar a
    let last := Utf8.encodeChar b
    let single := fun x : UInt8 => (x, x)
    (if a = b then first.map single
    else
      first.dropLast.map single ++ [(first.getLastD 0, last.headD 0)] ++ last.tail.map single)
      ++ byteRanges rest

def inRanges (ranges : ByteRanges) (b : UInt8) : Bool := ranges.any fun (lo, hi) => lo ≤ b && b ≤ hi

def lineBreak : UInt8 := 10

def slash : UInt8 := 47

/-! ## Marks -/

/-- One flag for each position of a byte sequence, its end included. -/
abbrev Marks := List Bool

/-- Move every mark over one byte that satisfies `p`. -/
def overOne (p : UInt8 → Bool) : List UInt8 → Marks → Marks
  | bytes, marks => false :: (bytes.zipWith (fun b m => m && p b) marks)

/-- Move marks over any run of bytes that satisfy `p`; `carried` is a mark that comes from before. -/
def overRun (p : UInt8 → Bool) : (carried : Bool) → List UInt8 → Marks → Marks
  | _, _, [] => []
  | carried, [], m :: _ => [carried || m]
  | carried, b :: bytes, m :: marks => (carried || m) :: overRun p ((carried || m) && p b) bytes marks

def anyByte (b : UInt8) : Bool := b != lineBreak

/-- Any run of bytes other than line breaks. -/
def overAny (bytes : List UInt8) (marks : Marks) : Marks := overRun anyByte false bytes marks

def either (a b : Marks) : Marks := a.zipWith (· || ·) b

def overByte (x : UInt8) (bytes : List UInt8) (marks : Marks) : Marks := overOne (· == x) bytes marks

mutual

/-- The positions reached through one token. -/
def step (bytes : List UInt8) (marks : Marks) : GlobToken → Marks
  | .literal c => (Utf8.encodeChar c).foldl (fun marks x => overByte x bytes marks) marks
  | .any => overOne anyByte bytes marks
  | .star => overAny bytes marks
  | .recursiveStart =>
    either marks (either (overByte slash bytes marks) (overByte slash bytes (overAny bytes marks)))
  | .recursiveEnd => overAny bytes (overByte slash bytes marks)
  | .recursiveMiddle =>
    either (overByte slash bytes marks)
      (overByte slash bytes (overAny bytes (overByte slash bytes marks)))
  | .class negated ranges => overOne (fun b => inRanges (byteRanges ranges) b != negated) bytes marks
  | .alternates branches => stepBranches bytes marks branches

/-- The positions reached through a sequence of tokens. -/
def steps (bytes : List UInt8) (marks : Marks) : List GlobToken → Marks
  | [] => marks
  | token :: rest => steps bytes (step bytes marks token) rest

/-- The positions reached through any of some branches. -/
def stepBranches (bytes : List UInt8) (marks : Marks) : List (List GlobToken) → Marks
  | [] => marks.map fun _ => false
  | branch :: rest => either (steps bytes marks branch) (stepBranches bytes marks rest)

end

end GlobToken

namespace Glob

/-- The mark at the start of a sequence. -/
def startMarks (bytes : List UInt8) : GlobToken.Marks := true :: bytes.map fun _ => false

def isRecursive : List GlobToken → Bool
  | [.recursiveStart] => true
  | _ => false

/-- Whether the tokens take the whole of a byte sequence. Two stars alone take every sequence
    without a line break. -/
def matchesBytes (glob : Glob) (bytes : List UInt8) : Bool :=
  if isRecursive glob.tokens then bytes.all GlobToken.anyByte
  else (GlobToken.steps bytes (startMarks bytes) glob.tokens).getLastD false

def matchesName (glob : Glob) (name : String) : Bool := glob.matchesBytes (Utf8.bytes name)

end Glob

end Flaky
