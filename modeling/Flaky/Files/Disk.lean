-- SUMMARY: Directories and files as a value: finding, reading, creating, writing, removing, and writes that fail part way.
import Flaky.Files.IoError
import Flaky.Path
import Flaky.Text.Utf8

/-!
# Disks

A disk holds directories and files under locations: lists of names from the
root. A path is followed name by name from the root or from the working
directory, and every name but the last must lead to a directory.

A write may fail. `Disk.faults` says for each write, counted from the start,
whether it fails and how many bytes reach the file before it does. Whoever has a
file open knows where its next bytes belong; others may work on the file meanwhile.
-/

namespace Flaky

/-- The names that lead from the root to a place. -/
abbrev Location := List String

inductive Entry
  | directory
  | file (content : List UInt8)
  /-- A device that takes no byte. -/
  | fullDevice
  /-- A device that takes every byte and keeps none. -/
  | sink
deriving DecidableEq

/-- A write that fails after `kept` bytes. -/
structure Fault where
  kept : Nat
  error : IoError

structure Disk where
  entries : List (Location × Entry)
  /-- Where relative paths start. -/
  workingDirectory : Location
  faults : Nat → Option Fault
  /-- The number of writes so far. -/
  writes : Nat

namespace Disk

/-- The disk with nothing but its root. -/
def blank : Disk := ⟨[], [], fun _ => none, 0⟩

/-! ## Entries -/

def entry? (disk : Disk) (place : Location) : Option Entry :=
  if place.isEmpty then some .directory
  else (disk.entries.find? fun e => e.1 == place).map (·.2)

/-- Put an entry at a place, in the stead of one that is there. -/
def setEntry (place : Location) (entry : Entry) : List (Location × Entry) → List (Location × Entry)
  | [] => [(place, entry)]
  | (p, e) :: rest => if p = place then (p, entry) :: rest else (p, e) :: setEntry place entry rest

def set (disk : Disk) (place : Location) (entry : Entry) : Disk :=
  { disk with entries := setEntry place entry disk.entries }

def isDirectoryAt (disk : Disk) (place : Location) : Bool := disk.entry? place == some .directory

/-- Whether the first location lies below the second. -/
def isBelow (place above : Location) : Bool :=
  above.length < place.length && place.take above.length == above

/-! ## Following paths -/

/-- The greatest number of bytes in a name. -/
def longestName : Nat := 255

/-- The greatest number of bytes in a path. -/
def longestPath : Nat := 4095

/-- Go from a place to one of its names; the place must be a directory. -/
def enter (disk : Disk) (place : Location) (name : String) : Except IoError Location :=
  match disk.entry? place with
  | none => .error .notFound
  | some .directory =>
    if name = "." then .ok place
    else if name = ".." then .ok place.dropLast
    else if longestName < name.utf8ByteSize then .error .nameTooLong
    else .ok (place ++ [name])
  | some _ => .error .notDirectory

def follow (disk : Disk) : Location → List String → Except IoError Location
  | place, [] => .ok place
  | place, name :: rest =>
    match disk.enter place name with
    | .error e => .error e
    | .ok next => disk.follow next rest

/-- The names of a path. -/
def names (path : String) : List String := (Path.parts path).filter fun part => part != ""

/-- Where a path starts. -/
def origin (disk : Disk) (path : String) : Location :=
  if Path.isAbsolute path then [] else disk.workingDirectory

/-- The place that a path leads to; there may be nothing there. -/
def locate (disk : Disk) (path : String) : Except IoError Location :=
  if path.toList.contains (Char.ofNat 0) then .error .nulInName
  else if path.isEmpty then .error .notFound
  else if longestPath < path.utf8ByteSize then .error .nameTooLong
  else disk.follow (disk.origin path) (names path)

/-- Whether the text of a path asks for a directory. -/
def endsInSlash (path : String) : Bool := path.toList.getLast? == some '/'

/-- What a path leads to. -/
def find (disk : Disk) (path : String) : Except IoError Entry :=
  match disk.locate path with
  | .error e => .error e
  | .ok place =>
    match disk.entry? place with
    | none => .error .notFound
    | some .directory => .ok .directory
    | some entry => if endsInSlash path then .error .notDirectory else .ok entry

def isDirectory (disk : Disk) (path : String) : Bool :=
  match disk.find path with
  | .ok .directory => true
  | _ => false

def isFile (disk : Disk) (path : String) : Bool :=
  match disk.find path with
  | .ok (.file _) => true
  | _ => false

/-! ## Reading -/

def read (disk : Disk) (path : String) : Except IoError (List UInt8) :=
  match disk.find path with
  | .error e => .error e
  | .ok .directory => .error .isDirectory
  | .ok (.file content) => .ok content
  | .ok .fullDevice => .ok []
  | .ok .sink => .ok []

/-- Read a file that must be text. -/
def readText (disk : Disk) (path : String) : Except IoError String :=
  match disk.read path with
  | .error e => .error e
  | .ok content =>
    match Utf8.decode? content with
    | some text => .ok text
    | none => .error .notText

/-! ## Writing -/

/-- Open a file for writing, empty. -/
def create (disk : Disk) (path : String) : Except IoError Unit × Disk :=
  match disk.locate path with
  | .error e => (.error e, disk)
  | .ok place =>
    if endsInSlash path then (.error .isDirectory, disk)
    else
      match disk.entry? place with
      | some .directory => (.error .isDirectory, disk)
      | some .fullDevice | some .sink => (.ok (), disk)
      | some (.file _) => (.ok (), disk.set place (.file []))
      | none =>
        if disk.isDirectoryAt place.dropLast then (.ok (), disk.set place (.file []))
        else (.error .notFound, disk)

/-- Change what the file at a place holds. A file that is gone is not changed. -/
def alter (disk : Disk) (place : Location) (change : List UInt8 → List UInt8) : Disk :=
  match disk.entry? place with
  | some (.file old) => disk.set place (.file (change old))
  | _ => disk

/-- Put bytes at the end of what a place holds. -/
def grow (disk : Disk) (place : Location) (content : List UInt8) : Disk :=
  disk.alter place (· ++ content)

/-- Put bytes over those from a position on. If there are fewer, zeros fill the gap. -/
def overwrite (position : Nat) (content old : List UInt8) : List UInt8 :=
  if content.isEmpty then old
  else
    old.take position ++ List.replicate (position - old.length) 0 ++ content ++
      old.drop (position + content.length)

/-- How the next write ends where there is room for it, and the bytes of it that come through. -/
def pass (disk : Disk) (content : List UInt8) : Except IoError Unit × List UInt8 :=
  match disk.faults disk.writes with
  | some fault => (.error fault.error, content.take fault.kept)
  | none => (.ok (), content)

/-- How the next write ends if it goes to a place, and the bytes of it that come through. -/
def passTo (disk : Disk) (place : Location) (content : List UInt8) :
    Except IoError Unit × List UInt8 :=
  if disk.entry? place = some .fullDevice then
    (if content.isEmpty then .ok () else .error .noSpace, [])
  else disk.pass content

/-- Write bytes into an open file from a position on; also says where those after them belong. -/
def writeAt (disk : Disk) (path : String) (position : Nat) (content : List UInt8) :
    Except IoError Unit × Nat × Disk :=
  let next := { disk with writes := disk.writes + 1 }
  match disk.locate path with
  | .error _ => (.ok (), position + content.length, next)
  | .ok place =>
    let (outcome, passed) := disk.passTo place content
    (outcome, position + passed.length, next.alter place (overwrite position passed))

/-- Write bytes at the end of an open file. -/
def append (disk : Disk) (path : String) (content : List UInt8) : Except IoError Unit × Disk :=
  let next := { disk with writes := disk.writes + 1 }
  match disk.locate path with
  | .error _ => (.ok (), next)
  | .ok place =>
    let (outcome, passed) := disk.passTo place content
    (outcome, next.grow place passed)

/-- Write the whole content of a file that was opened empty. -/
def fill (disk : Disk) (path : String) (content : List UInt8) : Except IoError Unit × Disk :=
  let (outcome, _, disk) := disk.writeAt path 0 content
  (outcome, disk)

/-- Write a whole file. -/
def write (disk : Disk) (path : String) (content : List UInt8) : Except IoError Unit × Disk :=
  match disk.create path with
  | (.error e, disk) => (.error e, disk)
  | (.ok (), disk) => disk.fill path content

/-! ## Directories -/

/-- Create the directories on the way from a place along some names. -/
def createAlong (disk : Disk) : Location → List String → Except IoError Unit × Disk
  | _, [] => (.ok (), disk)
  | place, name :: rest =>
    match disk.enter place name with
    | .error e => (.error e, disk)
    | .ok next =>
      match disk.entry? next with
      | none => (disk.set next .directory).createAlong next rest
      | some .directory => disk.createAlong next rest
      | some _ => (.error (if rest.isEmpty then .alreadyExists else .notDirectory), disk)

/-- Create a directory and those above it, as far as they are missing. -/
def createDirectories (disk : Disk) (path : String) : Except IoError Unit × Disk :=
  if path.isEmpty then (.ok (), disk)
  else if path.toList.contains (Char.ofNat 0) then (.error .nulInName, disk)
  else if longestPath < path.utf8ByteSize then (.error .nameTooLong, disk)
  else disk.createAlong (disk.origin path) (names path)

/-- The disk with a directory at a place. -/
def withDirectory (disk : Disk) (place : Location) : Disk := (disk.createAlong [] place).2

/-- The disk with a file at a place, in a directory. -/
def withFile (disk : Disk) (place : Location) (content : List UInt8) : Disk :=
  (disk.withDirectory place.dropLast).set place (.file content)

/-- Remove what is at a place and below it. -/
def remove (disk : Disk) (place : Location) : Disk :=
  { disk with entries := disk.entries.filter fun e => e.1 != place && !isBelow e.1 place }

/-- The places below a location. -/
def below (disk : Disk) (above : Location) : List (Location × Entry) :=
  disk.entries.filter fun e => isBelow e.1 above

/-- The names in a directory, in order. -/
def children (disk : Disk) (place : Location) : List String :=
  ((disk.below place).filterMap fun (inner, _) =>
    if inner.length = place.length + 1 then inner.getLast? else none).mergeSort

/-- The content of each file below a location, under its path from there. A directory with
nothing below it has a path that ends in a slash, and no content. -/
def leaves (disk : Disk) (above : Location) : List (String × Option (List UInt8)) :=
  (disk.below above).filterMap fun (place, entry) =>
    let path := String.intercalate "/" (place.drop above.length)
    match entry with
    | .file content => some (path, some content)
    | .directory => if (disk.below place).isEmpty then some (path ++ "/", none) else none
    | .fullDevice | .sink => none

end Disk

end Flaky
