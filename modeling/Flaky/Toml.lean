-- SUMMARY: Reading TOML documents.
import Flaky.Toml.Scalar
import Flaky.Toml.Section

/-!
# TOML documents

A document is a sequence of lines: headers, which open a table, and keys with
values, which belong to the table that was opened last. Arrays and inline tables
may go over several lines and end with a comma.
-/

namespace Flaky.Toml

/-! ## Values -/

mutual

/-- A value; nesting and length are bounded by `fuel`. -/
def value? : (fuel : Nat) → List Char → Read Datum
  | 0, _ => none
  | fuel + 1, cs =>
    match cs with
    | '"' :: _ | '\'' :: _ => (string? cs).map fun (s, rest) => (.text s, rest)
    | '[' :: rest =>
      (items? fuel (skipTrivia false rest)).map fun (items, rest) => (.list items, rest)
    | '\x7b' :: rest =>
      (fields? fuel [] (skipTrivia false rest)).map fun (entries, rest) =>
        (.table (dataOf entries), rest)
    | cs => scalar? cs

/-- The items of an array, up to its closing bracket. -/
def items? : (fuel : Nat) → List Char → Read (List Datum)
  | 0, _ => none
  | fuel + 1, cs =>
    match cs with
    | ']' :: rest => some ([], rest)
    | cs =>
      match value? fuel cs with
      | none => none
      | some (item, rest) =>
        match skipTrivia false rest with
        | ',' :: rest =>
          (items? fuel (skipTrivia false rest)).map fun (items, rest) => (item :: items, rest)
        | ']' :: rest => some ([item], rest)
        | _ => none

/-- The fields of an inline table after those read, up to its closing brace. -/
def fields? : (fuel : Nat) → Entries → List Char → Read Entries
  | 0, _, _ => none
  | fuel + 1, entries, cs =>
    match cs with
    | '\x7d' :: rest => some (entries, rest)
    | cs =>
      match key? fuel cs with
      | none => none
      | some (path, rest) =>
        match rest with
        | '=' :: rest =>
          match value? fuel (skipBlanks rest) with
          | none => none
          | some (datum, rest) =>
            match assign path datum entries with
            | none => none
            | some entries =>
              match skipTrivia false rest with
              | ',' :: rest => fields? fuel entries (skipTrivia false rest)
              | '\x7d' :: rest => some (entries, rest)
              | _ => none
        | _ => none

end

/-! ## Lines -/

/-- What has been read: the root table, and the path of the table that is open. -/
structure Document where
  root : Entries
  here : List String

/-- A header or a key with its value. -/
inductive Line
  | table (path : List String)
  | tableOfArray (path : List String)
  | assignment (path : List String) (datum : Datum)

def Document.add (doc : Document) : Line → Option Document
  | .table path => (defineTable path doc.root).map (⟨·, path⟩)
  | .tableOfArray path => (addTable path doc.root).map (⟨·, path⟩)
  | .assignment path datum =>
    (atHeader doc.here (assign path datum) doc.root).map (⟨·, doc.here⟩)

/-- A line that is not empty, without what may follow it. -/
def line? (fuel : Nat) (cs : List Char) : Read Line :=
  match cs with
  | '[' :: '[' :: rest =>
    match key? fuel (skipBlanks rest) with
    | some (path, ']' :: ']' :: rest) => some (.tableOfArray path, rest)
    | _ => none
  | '[' :: rest =>
    match key? fuel (skipBlanks rest) with
    | some (path, ']' :: rest) => some (.table path, rest)
    | _ => none
  | cs =>
    match key? fuel cs with
    | some (path, '=' :: rest) =>
      (value? fuel (skipBlanks rest)).map fun (datum, rest) => (.assignment path datum, rest)
    | _ => none

/-- Read lines, at most `fuel` of them. -/
def lines? (size : Nat) : (fuel : Nat) → Document → List Char → Option Document
  | 0, _, _ => none
  | fuel + 1, doc, cs =>
    match skipTrivia false cs with
    | [] => some doc
    | cs =>
      match line? size cs with
      | none => none
      | some (line, rest) =>
        match doc.add line with
        | none => none
        | some doc =>
          match skipComment (skipBlanks rest) with
          | [] => some doc
          | rest => (lineEnd? rest).bind (lines? size fuel doc)

/-- The table that a document holds. -/
def ofText? (text : String) : Option (List (String × Datum)) :=
  let cs := text.toList
  let size := cs.length + 2
  (lines? size size ⟨[], []⟩ cs).map fun doc => dataOf doc.root

end Flaky.Toml
