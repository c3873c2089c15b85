-- SUMMARY: Paths as text: joining, parents, and the part of a path below another.
import Flaky.Text.Lines

/-!
# Paths

A path is text. Joining puts one slash between two paths and changes neither;
where a path is taken apart, doubled slashes, a slash at the end and components
`.` inside it count for nothing.
-/

namespace Flaky.Path

def isAbsolute (path : String) : Bool := path.toList.head? == some '/'

/-- The path `relative`, seen from `base`. An absolute path stays as it is. -/
def join (base relative : String) : String :=
  if isAbsolute relative || base.isEmpty then relative
  else if base.toList.getLast? = some '/' then base ++ relative
  else base ++ "/" ++ relative

/-! ## Components -/

/-- The parts between slashes, without the empty one in front of an absolute path. -/
def parts (path : String) : List String :=
  let all := (Text.splitAt '/' path.toList).map String.ofList
  if isAbsolute path then all.tail else all

def isVoid (part : String) : Bool := part == "" || part == "."

/-- The components that count. A `.` in front of a relative path is one. -/
def components (path : String) : List String :=
  let root := if isAbsolute path then ["/"] else []
  match parts path with
  | [] => root
  | first :: rest =>
    let lead := if first == "." && !isAbsolute path then ["."]
      else if isVoid first then [] else [first]
    root ++ lead ++ rest.filter fun part => !isVoid part

/-- Drop the parts at the end that count for nothing; `keep` says that the first one may be `.`. -/
def trimParts (keep : Bool) (ps : List String) : List String :=
  let trimmed := (ps.reverse.dropWhile isVoid).reverse
  if keep && trimmed.isEmpty && ps.head? == some "." then ["."] else trimmed

def ofParts (absolute : Bool) (ps : List String) : String :=
  (if absolute then "/" else "") ++ String.intercalate "/" ps

/-- The path without its last component, or `none` where there is no component. -/
def parent? (path : String) : Option String :=
  let absolute := isAbsolute path
  match trimParts (!absolute) (parts path) with
  | [] => none
  | ps => some (ofParts absolute (trimParts (!absolute) ps.dropLast))

/-- What is left of `ps` after its first `count` components. -/
def dropComponents : (count : Nat) → List String → List String
  | 0, ps => ps.dropWhile isVoid
  | _ + 1, [] => []
  | count + 1, p :: ps => if isVoid p then dropComponents (count + 1) ps else dropComponents count ps

/-- The part of `path` below `base`, or `none` if it is not below. -/
def strip? (base path : String) : Option String :=
  let outer := components base
  let inner := components path
  if inner.take outer.length = outer then
    if outer.isEmpty then some path
    else
      let named := outer.filter fun c => c != "/" && c != "."
      let rest := dropComponents named.length (parts path)
      some (ofParts false (trimParts false rest))
  else none

end Flaky.Path
