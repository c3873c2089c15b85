-- SUMMARY: Texts as rows of bytes, as the shell handles them, and their conversion to texts and file names.
import Flaky.Text.Utf8

/-!
# Octets

The shell knows bytes, not characters. Inside the shell a text is a `String` in
which every character stands for one byte.
-/

namespace Flaky.Octets

def ofBytes (bs : List UInt8) : List Char := bs.map fun b => Char.ofNat b.toNat

def toBytes (cs : List Char) : List UInt8 := cs.map fun c => c.toNat.toUInt8

/-- The bytes of a text, as a text of bytes. -/
def ofText (text : String) : String := String.ofList (ofBytes (Utf8.bytes text))

/-- The text that a text of bytes says. -/
def toText (octets : String) : String := Utf8.decodeLossy (toBytes octets.toList)

end Flaky.Octets
