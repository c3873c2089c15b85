-- SUMMARY: Settings as plain data: scalars, lists and tables, and how a datum of the wrong kind is described.
import Flaky.Number.Binary64
import Flaky.Text.Quoted

/-!
# Plain data

What a configuration file or a JSON value says, before it is read as a setting.
-/

namespace Flaky

inductive Datum
  | null
  | bool (b : Bool)
  | integer (n : Int)
  | float (x : Binary64)
  | text (s : String)
  | list (items : List Datum)
  | table (fields : List (String × Datum))

namespace Datum

instance : Inhabited Datum := ⟨.null⟩

/-- A datum in words; `floatText` shows numbers that are no integers. -/
def describe (floatText : Binary64 → String) : Datum → String
  | .null => "null"
  | .bool b => if b then "boolean `true`" else "boolean `false`"
  | .integer n => s!"integer `{n}`"
  | .float x => s!"floating point `{floatText x}`"
  | .text s => s!"string {Text.quoted s}"
  | .list _ => "sequence"
  | .table _ => "map"

/-- The datum under a key, the last one if there are several. -/
def lookup? (key : String) (fields : List (String × Datum)) : Option Datum :=
  (fields.reverse.find? fun f => f.1 == key).map (·.2)

end Datum

end Flaky
