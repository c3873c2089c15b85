-- SUMMARY: Tables of a TOML document while it is read: how they came to be, and where keys and headers may still add to them.
import Flaky.Settings.Datum

/-!
# TOML tables in the making

A table may be implied by a longer header, defined by its own header, or made by
dotted keys. Only what has not been defined yet may be defined, and dotted keys
add only to tables that dotted keys have made.
-/

namespace Flaky.Toml

inductive Origin
  | implied
  | defined
  | dotted
deriving DecidableEq

inductive Node
  | value (datum : Datum)
  | table (origin : Origin) (entries : List (String × Node))
  /-- The tables of an array, one for each header. -/
  | tables (items : List (List (String × Node)))

abbrev Entries := List (String × Node)

/-! ## Entries -/

/-- Change the entry under a key, or add one. -/
def alter (key : String) (f : Option Node → Option Node) : Entries → Option Entries
  | [] => (f none).map fun node => [(key, node)]
  | (k, node) :: rest =>
    if k = key then (f (some node)).map fun node => (k, node) :: rest
    else (alter key f rest).map ((k, node) :: ·)

/-- Change the table at the end of a path, which may be in the last table of an array. Tables on the
    way that are missing get the origin `create`, and those that are there must be open. -/
def within (create : Origin) (isOpen : Origin → Bool) (f : Origin → Entries → Option Entries) :
    (path : List String) → Origin → Entries → Option Entries
  | [], origin, entries => f origin entries
  | key :: path, _, entries =>
    alter key (fun
      | none => (within create isOpen f path create []).map (.table create)
      | some (.table origin inner) =>
        if isOpen origin then (within create isOpen f path origin inner).map (.table origin)
        else none
      | some (.tables items) =>
        match items.reverse with
        | [] => none
        | last :: before =>
          (within create isOpen f path .defined last).map fun last =>
            .tables (last :: before).reverse
      | some (.value _) => none) entries

/-- Change the table that headers lead to. -/
def atHeader (path : List String) (f : Entries → Option Entries) (root : Entries) : Option Entries :=
  within .implied (fun _ => true) (fun _ entries => f entries) path .defined root

/-! ## Headers and keys -/

/-- The header of a table: it defines the table at the end of its path. -/
def defineTable (path : List String) (root : Entries) : Option Entries :=
  match path.getLast? with
  | none => none
  | some key =>
    atHeader path.dropLast (alter key fun
      | none => some (.table .defined [])
      | some (.table .implied entries) => some (.table .defined entries)
      | some _ => none) root

/-- The header of a table in an array: it adds a table to the array. -/
def addTable (path : List String) (root : Entries) : Option Entries :=
  match path.getLast? with
  | none => none
  | some key =>
    atHeader path.dropLast (alter key fun
      | none => some (.tables [[]])
      | some (.tables items) => some (.tables (items ++ [[]]))
      | some _ => none) root

/-- Put a value under a key, which may be dotted. -/
def assign (path : List String) (datum : Datum) (entries : Entries) : Option Entries :=
  match path.getLast? with
  | none => none
  | some key =>
    let above := path.dropLast
    within .dotted (fun origin => origin != .defined)
      (fun origin inner =>
        if above.isEmpty || origin == .dotted then
          alter key (fun
            | none => some (.value datum)
            | some _ => none) inner
        else none)
      above .defined entries

/-! ## Data -/

mutual

def Node.toDatum : Node → Datum
  | .value datum => datum
  | .table _ entries => .table (dataOf entries)
  | .tables items => .list (tablesOf items)

def dataOf : Entries → List (String × Datum)
  | [] => []
  | (key, node) :: rest => (key, node.toDatum) :: dataOf rest

def tablesOf : List (List (String × Node)) → List Datum
  | [] => []
  | entries :: rest => .table (dataOf entries) :: tablesOf rest

end

end Flaky.Toml
