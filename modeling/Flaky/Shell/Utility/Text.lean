-- SUMMARY: Shell utilities that read texts: showing, counting, choosing, sorting and changing their lines.
import Flaky.Shell.Search
import Flaky.Shell.Utility
import Flaky.Text.Lines

/-!
# Texts

A text is a row of bytes, each a character. A line without a break at its end is
a line.
-/

namespace Flaky.Shell.Utility

/-! ## Showing and counting -/

def cat : Utility := fun args input disk =>
  let print := fun (path : String) (disk : Disk) =>
    if path = "-" then succeed input disk
    else
      match disk.read (Octets.toText path) with
      | .ok content => succeed (Octets.ofBytes content) disk
      | .error e => complain s!"cat: {Octets.toText path}: {reason e}" 1 disk
  forEach print (if args.isEmpty then ["-"] else args) disk

/-- The number of words, given whether the text before was inside one. -/
def wordCount : (inside : Bool) → List Char → Nat
  | _, [] => 0
  | inside, c :: rest =>
    if c.isWhitespace then wordCount false rest
    else (if inside then 0 else 1) + wordCount true rest

def padded (width n : Nat) : String :=
  let digits := toString n
  String.ofList (List.replicate (width - digits.length) ' ') ++ digits

/-- The counts that some letters ask for: lines, words and bytes, in this order. -/
def counts (letters text : List Char) : List Nat :=
  let asked := fun c : Char => letters.isEmpty || letters.contains c
  (if asked 'l' then [text.count '\n'] else []) ++
    (if asked 'w' then [wordCount false text] else []) ++
    (if asked 'c' then [text.length] else [])

def countLine (letters text : List Char) (name : List String) : List Char :=
  let numbers := counts letters text
  let width := if numbers.length = 1 then 1 else if name.isEmpty then 7 else 1
  (String.intercalate " " (numbers.map (padded width) ++ name) ++ "\n").toList

def wc : Utility := fun args input disk =>
  let (letters, paths) := options args
  let count := fun (path : String) (disk : Disk) =>
    match disk.read (Octets.toText path) with
    | .ok content => succeed (countLine letters (Octets.ofBytes content) [path]) disk
    | .error e => complain s!"wc: {Octets.toText path}: {reason e}" 1 disk
  if paths.isEmpty then succeed (countLine letters input []) disk else forEach count paths disk

/-! ## Lines of files -/

/-- The lines of a text. -/
def linesOf (text : List Char) : List (List Char) :=
  let parts := Text.splitAt '\n' text
  if parts.getLast? = some [] then parts.dropLast else parts

/-- Do something with the text of each file, or with the input if there are none. -/
def withTexts (name : String) (act : (path : String) → List Char → Disk → Performance)
    (paths : List String) (input : List Char) (disk : Disk) : Performance :=
  let read := fun (path : String) (disk : Disk) =>
    if path = "-" then act path input disk
    else
      match disk.read (Octets.toText path) with
      | .ok content => act path (Octets.ofBytes content) disk
      | .error e => complain s!"{name}: {Octets.toText path}: {reason e}" 1 disk
  forEach read (if paths.isEmpty then ["-"] else paths) disk

/-- The text of all files together. -/
def allText (name : String) (paths : List String) (input : List Char) (disk : Disk) : Performance :=
  withTexts name (fun _ text disk => succeed text disk) paths input disk

/-- Change the text of all files. -/
def changed (name : String) (change : List Char → List Char) (paths : List String)
    (input : List Char) (disk : Disk) : Performance :=
  let p := allText name paths input disk
  { p with output := change p.output }

/-! ## Beginnings and ends -/

/-- How much of a text is shown: lines or bytes, and a number with its sign. -/
structure Extent where
  bytes : Bool
  sign : Option Char
  number : Nat

/-- The number that a text is, after a sign. -/
def extent (bytes : Bool) (text : List Char) : Extent :=
  match text with
  | '+' :: digits => ⟨bytes, some '+', (Text.nat? digits).getD 10⟩
  | '-' :: digits => ⟨bytes, some '-', (Text.nat? digits).getD 10⟩
  | digits => ⟨bytes, none, (Text.nat? digits).getD 10⟩

/-- The extent that options ask for, and the paths after them. -/
def extentOf : List String → Extent × List String
  | "-n" :: n :: rest => (extent false n.toList, rest)
  | "-c" :: n :: rest => (extent true n.toList, rest)
  | arg :: rest =>
    match arg.toList with
    | '-' :: 'n' :: n => (extent false n, rest)
    | '-' :: 'c' :: n => (extent true n, rest)
    | '-' :: d :: digits =>
      if Text.isDigit d then (extent false (d :: digits), rest) else (⟨false, none, 10⟩, rest)
    | _ => (⟨false, none, 10⟩, arg :: rest)
  | [] => (⟨false, none, 10⟩, [])

/-- The lines of a text with the breaks at their ends. -/
def brokenLines (text : List Char) : List (List Char) :=
  match Text.splitAt '\n' text with
  | [] => []
  | parts => (parts.dropLast.map (· ++ ['\n'])) ++ (parts.getLast?.filter (!·.isEmpty)).toList

/-- Choose some units of a text: its bytes or its lines. -/
def choose (e : Extent) (units : {α : Type} → List α → List α) (text : List Char) : List Char :=
  if e.bytes then units text else (units (brokenLines text)).flatten

def first (e : Extent) {α : Type} (units : List α) : List α :=
  if e.sign = some '-' then units.take (units.length - e.number) else units.take e.number

def last (e : Extent) {α : Type} (units : List α) : List α :=
  if e.sign = some '+' then units.drop (e.number - 1) else units.drop (units.length - e.number)

def head : Utility := fun args input disk =>
  let (e, paths) := extentOf args
  withTexts "head" (fun _ text disk => succeed (choose e (first e) text) disk) paths input disk

def tail : Utility := fun args input disk =>
  let (e, paths) := extentOf args
  withTexts "tail" (fun _ text disk => succeed (choose e (last e) text) disk) paths input disk

/-! ## Sorting -/

/-- The number at the start of a line. -/
def leading (line : List Char) : Int :=
  match line.dropWhile (· == ' ') with
  | '-' :: digits => -((Text.nat? (digits.takeWhile Text.isDigit)).getD 0 : Nat)
  | digits => ((Text.nat? (digits.takeWhile Text.isDigit)).getD 0 : Nat)

/-- Whether a line comes before another one or is the same. -/
def sortsBefore (numbers : Bool) (a b : List Char) : Bool :=
  if numbers && leading a != leading b then leading a < leading b
  else String.ofList a ≤ String.ofList b

/-- The first of the lines that are alike and follow each other, with their number. -/
def groups : List (List Char) → List (List Char × Nat)
  | [] => []
  | line :: rest =>
    match groups rest with
    | [] => [(line, 1)]
    | (next, n) :: more => if next = line then (line, n + 1) :: more else (line, 1) :: (next, n) :: more

def sort : Utility := fun args input disk =>
  let (letters, paths) := options args
  changed "sort" (fun text =>
    let sorted := (linesOf text).mergeSort (sortsBefore (letters.contains 'n'))
    let sorted := if letters.contains 'r' then sorted.reverse else sorted
    lines (if letters.contains 'u' then (groups sorted).map (·.1) else sorted)) paths input disk

def uniq : Utility := fun args input disk =>
  let (letters, paths) := options args
  changed "uniq" (fun text =>
    let found := (groups (linesOf text)).filter fun g => !letters.contains 'd' || 1 < g.2
    lines (found.map fun (line, n) =>
      if letters.contains 'c' then (padded 7 n).toList ++ ' ' :: line else line)) paths input disk

/-! ## Searching -/

/-- What a search asks for: the letters of its options, its expression, and the paths. -/
def searchOf (args : List String) : List Char × List Char × List String :=
  let (letters, operands) := options args
  match operands with
  | [] => (letters, [], [])
  | expression :: paths => (letters, expression.toList, paths)

/-- Whether a line is found. -/
def isFound (letters expression line : List Char) : Bool :=
  let fold := fun cs : List Char => if letters.contains 'i' then cs.map Char.toLower else cs
  let search : Search := if letters.contains 'F' then .literal (fold expression) else .ofChars (fold expression)
  (if letters.contains 'x' then search.acceptsWhole (fold line) else search.accepts (fold line)) !=
    letters.contains 'v'

/-- What is shown of the lines that are found in a text. -/
def foundText (letters : List Char) (title : List Char) (found : List (List Char × Nat)) : List Char :=
  if letters.contains 'q' then []
  else if letters.contains 'c' then lines [title ++ (toString found.length).toList]
  else
    lines (found.map fun (line, n) =>
      title ++ (if letters.contains 'n' then (toString (n + 1)).toList ++ [':'] else []) ++ line)

def grep : Utility := fun args input disk =>
  let (letters, expression, paths) := searchOf args
  let search := fun (path : String) (text : List Char) (disk : Disk) =>
    let found := (linesOf text).zipIdx.filter fun l => isFound letters expression l.1
    let title := if 1 < paths.length && !letters.contains 'h' then path.toList ++ [':'] else []
    let shown := foundText letters title found
    (⟨shown, [], if found.isEmpty then 1 else 0, disk⟩ : Performance)
  let each := (if paths.isEmpty then ["-"] else paths).map fun path =>
    withTexts "grep" (fun path text disk => search path text disk) [path] input disk
  let status := if each.any (·.complaints != []) then 2 else if each.any (·.status == 0) then 0 else 1
  ⟨each.flatMap (·.output), each.flatMap (·.complaints), status, disk⟩

/-! ## Characters -/

/-- The characters of a set, in which a dash between two of them stands for all between. -/
def setOf : List Char → List Char
  | '\\' :: 'n' :: rest => '\n' :: setOf rest
  | '\\' :: 't' :: rest => '\t' :: setOf rest
  | '\\' :: c :: rest => c :: setOf rest
  | a :: '-' :: b :: rest =>
    (List.range (b.toNat + 1 - a.toNat)).map (fun n => Char.ofNat (a.toNat + n)) ++ setOf rest
  | c :: rest => c :: setOf rest
  | [] => []

/-- The character that a character of one set becomes in another one. -/
def translate (start goal : List Char) (c : Char) : Char :=
  match start.findIdx? (· == c) with
  | some i => goal.getD i (goal.getLastD c)
  | none => c

def tr : Utility := fun args input disk =>
  let (letters, sets) := options args
  match letters.contains 'd', sets.map fun set => setOf set.toList with
  | true, [set] => succeed (input.filter fun c => !set.contains c) disk
  | false, [start, goal] => succeed (input.map (translate start goal)) disk
  | _, _ => complain "tr: missing operand" 1 disk

/-! ## Paths and numbers -/

/-- The last name of a path, without an ending. -/
def basename : Utility := fun args _ disk =>
  match args with
  | [] => complain "basename: missing operand" 1 disk
  | path :: endings =>
    let name := ((path.toList.reverse.dropWhile (· == '/')).takeWhile (· != '/')).reverse
    let name := if name.isEmpty then path.toList.take 1 else name
    let ending := (endings.headD "").toList
    let shorter := name.take (name.length - ending.length)
    succeed (lines [if !shorter.isEmpty && shorter ++ ending = name then shorter else name]) disk

/-- A path without its last name. -/
def dirname : Utility := fun args _ disk =>
  match args with
  | [] => complain "dirname: missing operand" 1 disk
  | path :: _ =>
    let above := (path.toList.reverse.dropWhile (· == '/')).dropWhile (· != '/')
    let rest := (above.dropWhile (· == '/')).reverse
    let root := if above.isEmpty && !path.startsWith "/" then ['.'] else ['/']
    succeed (lines [if rest.isEmpty then root else rest]) disk

/-- The numbers from one to another. -/
def seq : Utility := fun args _ disk =>
  let bounds := match args.map fun arg => Text.nat? arg.toList with
    | [some stop] => some (1, stop)
    | [some start, some stop] => some (start, stop)
    | _ => none
  match bounds with
  | none => complain "seq: missing operand" 1 disk
  | some (start, stop) =>
    succeed (lines ((List.range (stop + 1 - start)).map fun n => (toString (start + n)).toList)) disk

/-- Print the input, and write it to files. -/
def tee : Utility := fun args input disk =>
  let (letters, paths) := options args
  let bytes := Octets.toBytes input
  let write := fun (path : String) (disk : Disk) =>
    let name := Octets.toText path
    let (result, disk) := if letters.contains 'a' && disk.isFile name then disk.append name bytes
      else disk.write name bytes
    match result with
    | .ok () => succeed [] disk
    | .error e => complain s!"tee: {name}: {reason e}" 1 disk
  { forEach write paths disk with output := input }

end Flaky.Shell.Utility
