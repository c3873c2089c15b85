-- SUMMARY: Fields with wildcards, and the paths on a disk that they stand for.
import Flaky.Files.Disk
import Flaky.Shell.Octets
import Flaky.Shell.Pattern

/-!
# Wildcards

A field with a wildcard stands for the paths that it matches, name by name and in
order. Where there are none it stands for itself. A name that starts with a dot is
matched only by a pattern that starts with one.
-/

namespace Flaky.Shell.Wildcard

/-- The parts of a field between its slashes. -/
def parts : Marked → List Marked
  | [] => [[]]
  | (c, quoted) :: rest =>
    if c = '/' then [] :: parts rest
    else
      match parts rest with
      | [] => [[(c, quoted)]]
      | part :: more => ((c, quoted) :: part) :: more

/-- The names in a directory, in order. -/
def names (disk : Disk) (path : String) : List String :=
  match disk.locate (if path = "" then "." else Octets.toText path) with
  | .ok place => (disk.children place).map Octets.ofText
  | .error _ => []

/-- Whether a name is matched by a part of a field. -/
def matchesName (part : Marked) (name : String) : Bool :=
  (!name.startsWith "." || part.head?.any fun c => c.1 == '.') &&
    Pattern.accepts (.ofMarked part) name.toList

/-- The paths that start with `path` and go on as the parts say. -/
def paths (disk : Disk) : (path : String) → List Marked → List String
  | path, [] => if (disk.find (Octets.toText path)).toOption.isSome then [path] else []
  | path, part :: rest =>
    let found := if part.isWild then (names disk path).filter (matchesName part)
      else [String.ofList part.text]
    found.flatMap fun name => paths disk (path ++ name ++ if rest.isEmpty then "" else "/") rest

/-- What a field stands for. -/
def expand (disk : Disk) (field : Marked) : List String :=
  let plain := String.ofList field.text
  if field.isWild then
    match paths disk "" (parts field) with
    | [] => [plain]
    | found => found
  else [plain]

end Flaky.Shell.Wildcard
