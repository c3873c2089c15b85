-- SUMMARY: UTF-8: the bytes of a text, strict decoding, and decoding that puts U+FFFD for what is malformed.

/-!
# UTF-8

Files and process output are bytes. Strict decoding accepts exactly the
well-formed sequences of the Unicode standard. Lossy decoding replaces every
maximal part of a sequence that cannot be completed by one U+FFFD.
-/

namespace Flaky.Utf8

/-- The bytes of one character. -/
def encodeChar (c : Char) : List UInt8 :=
  let n := c.toNat
  if n < 0x80 then [n.toUInt8]
  else if n < 0x800 then [(0xC0 + n / 64).toUInt8, (0x80 + n % 64).toUInt8]
  else if n < 0x10000 then
    [(0xE0 + n / 4096).toUInt8, (0x80 + n / 64 % 64).toUInt8, (0x80 + n % 64).toUInt8]
  else
    [(0xF0 + n / 262144).toUInt8, (0x80 + n / 4096 % 64).toUInt8, (0x80 + n / 64 % 64).toUInt8,
      (0x80 + n % 64).toUInt8]

def encode (cs : List Char) : List UInt8 := cs.flatMap encodeChar

def bytes (text : String) : List UInt8 := encode text.toList

/-! ## Decoding -/

/-- One step of decoding: a character, or a malformed part. -/
inductive Piece
  | char (c : Char)
  | malformed
deriving DecidableEq

def Piece.char? : Piece → Option Char
  | .char c => some c
  | .malformed => none

def Piece.shown : Piece → Char
  | .char c => c
  | .malformed => Char.ofNat 0xFFFD

/-- The number of continuation bytes after a lead byte, the bounds of the first of them, and the
    bits that the lead byte contributes. -/
def lead? (b : UInt8) : Option (Nat × UInt8 × UInt8 × Nat) :=
  if 0xC2 ≤ b ∧ b ≤ 0xDF then some (1, 0x80, 0xBF, b.toNat - 0xC0)
  else if b = 0xE0 then some (2, 0xA0, 0xBF, 0)
  else if b = 0xED then some (2, 0x80, 0x9F, 13)
  else if 0xE1 ≤ b ∧ b ≤ 0xEF then some (2, 0x80, 0xBF, b.toNat - 0xE0)
  else if b = 0xF0 then some (3, 0x90, 0xBF, 0)
  else if 0xF1 ≤ b ∧ b ≤ 0xF3 then some (3, 0x80, 0xBF, b.toNat - 0xF0)
  else if b = 0xF4 then some (3, 0x80, 0x8F, 4)
  else none

/-- Read the continuation bytes of a sequence; the bounds are those of the next one. Also says how
    many bytes belong to what was read. -/
def continuation : (count : Nat) → (low high : UInt8) → (value read : Nat) → List UInt8 → Piece × Nat
  | 0, _, _, value, read, _ => (.char (Char.ofNat value), read)
  | _ + 1, _, _, _, read, [] => (.malformed, read)
  | count + 1, low, high, value, read, b :: rest =>
    if low ≤ b ∧ b ≤ high then
      continuation count 0x80 0xBF (value * 64 + (b.toNat - 0x80)) (read + 1) rest
    else (.malformed, read)

/-- The first piece of a non-empty sequence, and how many bytes follow its first byte. -/
def first (b : UInt8) (rest : List UInt8) : Piece × Nat :=
  if b < 0x80 then (.char (Char.ofNat b.toNat), 0)
  else
    match lead? b with
    | none => (.malformed, 0)
    | some (count, low, high, value) => continuation count low high value 0 rest

/-- Decode byte by byte; `skip` bytes belong to the piece read last. -/
def piecesFrom : (skip : Nat) → List UInt8 → List Piece
  | _, [] => []
  | 0, b :: rest => (first b rest).1 :: piecesFrom (first b rest).2 rest
  | skip + 1, _ :: rest => piecesFrom skip rest

def pieces (bs : List UInt8) : List Piece := piecesFrom 0 bs

/-- The text of well-formed bytes. -/
def decode? (bs : List UInt8) : Option String :=
  ((pieces bs).mapM Piece.char?).map String.ofList

def decodeLossy (bs : List UInt8) : String := String.ofList ((pieces bs).map Piece.shown)

end Flaky.Utf8
