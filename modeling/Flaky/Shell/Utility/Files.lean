-- SUMMARY: Shell utilities that make, list, copy, move and remove files and directories.
import Flaky.Shell.Utility

/-!
# Files and directories
-/

namespace Flaky.Shell.Utility

/-! ## Making and removing -/

def touchOne (path : String) (disk : Disk) : Performance :=
  let name := Octets.toText path
  match disk.find name with
  | .ok _ => succeed [] disk
  | .error _ =>
    match disk.create name with
    | (.ok (), disk) => succeed [] disk
    | (.error e, disk) => complain s!"touch: cannot touch '{name}': {reason e}" 1 disk

def removeOne (deep forced : Bool) (path : String) (disk : Disk) : Performance :=
  let name := Octets.toText path
  let refuse := fun (e : IoError) => complain s!"rm: cannot remove '{name}': {reason e}" 1 disk
  match disk.locate name with
  | .error e => if forced then succeed [] disk else refuse e
  | .ok place =>
    match disk.entry? place with
    | none => if forced then succeed [] disk else refuse .notFound
    | some .directory => if deep then succeed [] (disk.remove place) else refuse .isDirectory
    | some _ => succeed [] (disk.remove place)

def rm : Utility := fun args _ disk =>
  let (letters, paths) := options args
  forEach (removeOne (letters.contains 'r' || letters.contains 'R') (letters.contains 'f')) paths disk

def makeOne (deep : Bool) (path : String) (disk : Disk) : Performance :=
  let name := Octets.toText path
  let refuse := fun (e : IoError) (disk : Disk) =>
    complain s!"mkdir: cannot create directory '{name}': {reason e}" 1 disk
  if deep then
    match disk.createDirectories name with
    | (.ok (), disk) => succeed [] disk
    | (.error e, disk) => refuse e disk
  else
    match disk.locate name with
    | .error e => refuse e disk
    | .ok place =>
      if (disk.entry? place).isSome then refuse .alreadyExists disk
      else if disk.isDirectoryAt place.dropLast then succeed [] (disk.set place .directory)
      else refuse .notFound disk

def mkdir : Utility := fun args _ disk =>
  let (letters, paths) := options args
  forEach (makeOne (letters.contains 'p')) paths disk

def removeEmpty (path : String) (disk : Disk) : Performance :=
  let name := Octets.toText path
  let refuse := fun (reason : String) => complain s!"rmdir: failed to remove '{name}': {reason}" 1 disk
  match disk.locate name with
  | .error e => refuse (reason e)
  | .ok place =>
    match disk.entry? place with
    | none => refuse (reason .notFound)
    | some .directory =>
      if (disk.below place).isEmpty then succeed [] (disk.remove place) else refuse "Directory not empty"
    | some _ => refuse (reason .notDirectory)

def rmdir : Utility := fun args _ disk => forEach removeEmpty (options args).2 disk

/-- Change nothing, but complain of files that are not there. -/
def chmod : Utility := fun args _ disk =>
  forEach (fun path disk =>
    match disk.find (Octets.toText path) with
    | .ok _ => succeed [] disk
    | .error e => complain s!"chmod: cannot access '{Octets.toText path}': {reason e}" 1 disk)
    args.tail disk

/-! ## Copying and moving -/

/-- The last name of a path. -/
def lastName (path : String) : String := (Disk.names path).getLastD ""

/-- Where a source goes: into the target if that is a directory, or else to the target itself. -/
def destination (source target : String) (disk : Disk) : String :=
  if disk.isDirectory target then Path.join target (lastName source) else target

/-- Put a copy of what is at a place, and of all below it, at another place. -/
def transplant (source target : Location) (disk : Disk) : Disk :=
  (disk.entries.filter fun e => e.1 = source || Disk.isBelow e.1 source).foldl
    (fun disk (place, entry) => disk.set (target ++ place.drop source.length) entry) disk

/-- Copy a source; directories only if `deep`. -/
def copyTo (name : String) (deep : Bool) (target source : String) (disk : Disk) : Performance :=
  let arrival := destination source target disk
  match disk.find source, disk.locate source, disk.locate arrival with
  | .error e, _, _ => complain s!"{name}: cannot stat '{source}': {reason e}" 1 disk
  | .ok .directory, .ok start, .ok goal =>
    if deep then
      if disk.isDirectoryAt goal.dropLast then succeed [] (transplant start goal disk)
      else complain s!"{name}: cannot create directory '{arrival}': {reason .notFound}" 1 disk
    else complain s!"{name}: -r not specified; omitting directory '{source}'" 1 disk
  | .ok _, _, _ =>
    match disk.read source with
    | .error e => complain s!"{name}: cannot open '{source}' for reading: {reason e}" 1 disk
    | .ok content =>
      match disk.write arrival content with
      | (.ok (), disk) => succeed [] disk
      | (.error e, disk) => complain s!"{name}: cannot create regular file '{arrival}': {reason e}" 1 disk

/-- Do something with a target, which comes last, for each source. -/
def toTarget (name : String) (act : (target source : String) → Disk → Performance)
    (operands : List String) (disk : Disk) : Performance :=
  match operands.map Octets.toText with
  | [] => complain s!"{name}: missing file operand" 1 disk
  | [one] => complain s!"{name}: missing destination file operand after '{one}'" 1 disk
  | paths =>
    let target := paths.getLastD ""
    if 2 < paths.length && !disk.isDirectory target then
      let cause := match disk.find target with
        | .ok _ => reason .notDirectory
        | .error e => reason e
      complain s!"{name}: target '{target}': {cause}" 1 disk
    else forEach (act target) paths.dropLast disk

def cp : Utility := fun args _ disk =>
  let (letters, operands) := options args
  toTarget "cp" (copyTo "cp" (letters.any "rRa".toList.contains)) operands disk

def moveTo (target source : String) (disk : Disk) : Performance :=
  let arrival := destination source target disk
  match disk.find source, disk.locate source, disk.locate arrival with
  | .error e, _, _ => complain s!"mv: cannot stat '{source}': {reason e}" 1 disk
  | .ok _, .ok start, .ok goal =>
    if start = goal then complain s!"mv: '{source}' and '{arrival}' are the same file" 1 disk
    else if disk.isDirectoryAt goal.dropLast then
      succeed [] ((transplant start goal (disk.remove goal)).remove start)
    else complain s!"mv: cannot move '{source}' to '{arrival}': {reason .notFound}" 1 disk
  | .ok _, _, _ => complain s!"mv: cannot move '{source}' to '{arrival}': {reason .notDirectory}" 1 disk

def mv : Utility := fun args _ disk => toTarget "mv" moveTo (options args).2 disk

/-! ## Listing -/

/-- The names in a directory as they are listed. -/
def listed (letters : List Char) (disk : Disk) (place : Location) : List (List Char) :=
  let names := (disk.children place).filter fun name =>
    letters.contains 'a' || letters.contains 'A' || !name.startsWith "."
  let names := if letters.contains 'a' then "." :: ".." :: names else names
  (if letters.contains 'r' then names.reverse else names).map fun name => (Octets.ofText name).toList

/-- List a directory, under its path if it is `titled`, or name a file. -/
def listOne (letters : List Char) (titled : Bool) (path : String) (disk : Disk) : Performance :=
  let name := Octets.toText path
  match disk.find name, disk.locate name with
  | .ok .directory, .ok place =>
    let title := if titled then lines [path.toList ++ [':']] else []
    if letters.contains 'd' then succeed (lines [path.toList]) disk
    else succeed (title ++ lines (listed letters disk place)) disk
  | .ok _, _ => succeed (lines [path.toList]) disk
  | .error e, _ => complain s!"ls: cannot access '{name}': {reason e}" 2 disk

/-- List directories with blank lines between them. -/
def listAll (letters : List Char) (titled : Bool) : List String → Disk → Performance
  | [], disk => succeed [] disk
  | [path], disk => listOne letters titled path disk
  | path :: rest, disk =>
    (listOne letters titled path disk).andThen fun disk =>
      let others := listAll letters titled rest disk
      { others with output := '\n' :: others.output }

def ls : Utility := fun args _ disk =>
  let (letters, paths) := options args
  let paths := (if paths.isEmpty then ["."] else paths).mergeSort
  let directories := paths.filter fun path => disk.isDirectory (Octets.toText path)
  let others := paths.filter fun path => !disk.isDirectory (Octets.toText path)
  (forEach (listOne letters false) others disk).andThen fun disk =>
    let listing := listAll letters (1 < paths.length) directories disk
    if others.isEmpty || directories.isEmpty then listing
    else { listing with output := '\n' :: listing.output }

end Flaky.Shell.Utility
