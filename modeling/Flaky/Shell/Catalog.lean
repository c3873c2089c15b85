-- SUMMARY: The utilities of the shell by their names.
import Flaky.Shell.Utility.Files
import Flaky.Shell.Utility.Text

/-!
# The catalogue of utilities
-/

namespace Flaky.Shell.Utility

/-- A utility that does nothing but end with a status. -/
def idle (status : Nat) : Utility := fun _ _ disk => ⟨[], [], status, disk⟩

def catalog : List (String × Utility) :=
  [("true", idle 0), (":", idle 0), ("sleep", idle 0), ("sync", idle 0), ("false", idle 1),
    ("echo", echo), ("printf", printf), ("pwd", pwd), ("test", test), ("[", bracket),
    ("cat", cat), ("wc", wc), ("head", head), ("tail", tail), ("sort", sort), ("uniq", uniq),
    ("grep", grep), ("tr", tr), ("tee", tee), ("seq", seq), ("basename", basename),
    ("dirname", dirname), ("touch", fun args _ disk => forEach touchOne args disk), ("rm", rm),
    ("mkdir", mkdir), ("rmdir", rmdir), ("cp", cp), ("mv", mv), ("ls", ls), ("chmod", chmod)]

/-- Whether the shell does what a utility of the name does itself. -/
def isOwn (name : String) : Bool :=
  ["true", ":", "false", "echo", "printf", "pwd", "test", "["].contains name

/-- The utility of a name. -/
def ofName? (name : String) : Option Utility := catalog.lookup name

end Flaky.Shell.Utility
