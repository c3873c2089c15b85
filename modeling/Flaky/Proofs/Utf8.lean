-- SUMMARY: UTF-8 read back: the bytes of a character are read as that character, and the bytes of a text as that text.
import Flaky.Text.Utf8
import Mathlib.Algebra.Group.Nat.Defs

/-!
# Reading UTF-8 back

A character is written in one to four bytes. The first of them tells how many
follow and which bounds hold for the second, and every other byte gives six bits
of the character. So what was written is read as it was, whatever comes after it.
-/

namespace Flaky.Utf8

theorem toNat_byte {n : Nat} (h : n < 256) : n.toUInt8.toNat = n := by
  simp only [Nat.toUInt8, UInt8.toNat_ofNat']
  omega

/-! ## Lead bytes -/

/-- One byte is read for what is below 80. -/
theorem first_single {n : Nat} (h : n < 0x80) (rest : List UInt8) :
    first n.toUInt8 rest = (.char (Char.ofNat n), 0) := by
  have hbyte : n.toUInt8.toNat = n := toNat_byte (by omega)
  have hlt : n.toUInt8 < 0x80 := by
    rw [UInt8.lt_iff_toNat_lt, hbyte]
    exact h
  rw [first, if_pos hlt, hbyte]

theorem lead?_pair {bits : Nat} (hlow : 2 ≤ bits) (hbits : bits < 32) :
    lead? (0xC0 + bits).toUInt8 = some (1, 0x80, 0xBF, bits) := by
  have all : ∀ m : Fin 32, 2 ≤ m.val →
      lead? (0xC0 + m.val).toUInt8 = some (1, 0x80, 0xBF, m.val) := by decide
  exact all ⟨bits, hbits⟩ hlow

/-- What could be written in two bytes is not read from three, and neither is a surrogate. -/
theorem lead?_triple {bits : Nat} (hbits : bits < 16) :
    lead? (0xE0 + bits).toUInt8 =
      some (2, if bits = 0 then 0xA0 else 0x80, if bits = 13 then 0x9F else 0xBF, bits) := by
  have all : ∀ m : Fin 16, lead? (0xE0 + m.val).toUInt8 =
      some (2, if m.val = 0 then 0xA0 else 0x80, if m.val = 13 then 0x9F else 0xBF, m.val) := by
    decide
  exact all ⟨bits, hbits⟩

/-- What could be written in three bytes is not read from four, and neither is what lies above
the last character. -/
theorem lead?_quad {bits : Nat} (hbits : bits < 5) :
    lead? (0xF0 + bits).toUInt8 =
      some (3, if bits = 0 then 0x90 else 0x80, if bits = 4 then 0x8F else 0xBF, bits) := by
  have all : ∀ m : Fin 5, lead? (0xF0 + m.val).toUInt8 =
      some (3, if m.val = 0 then 0x90 else 0x80, if m.val = 4 then 0x8F else 0xBF, m.val) := by
    decide
  exact all ⟨bits, hbits⟩

theorem first_lead {n count value : Nat} {low high : UInt8} {rest : List UInt8}
    (hlow : 0xC0 ≤ n) (hhigh : n < 256) (h : lead? n.toUInt8 = some (count, low, high, value)) :
    first n.toUInt8 rest = continuation count low high value 0 rest := by
  have hlead : ¬ n.toUInt8 < 0x80 := by
    rw [UInt8.lt_iff_toNat_lt, toNat_byte hhigh]
    have hbound : (0x80 : UInt8).toNat = 0x80 := rfl
    omega
  rw [first, if_neg hlead, h]

/-! ## Continuation bytes -/

/-- A continuation byte within its bounds gives six bits. -/
theorem continuation_cons {count value read bits : Nat} {low high : UInt8} {rest : List UInt8}
    (hbits : bits < 64) (hlow : low.toNat ≤ 0x80 + bits) (hhigh : 0x80 + bits ≤ high.toNat) :
    continuation (count + 1) low high value read ((0x80 + bits).toUInt8 :: rest) =
      continuation count 0x80 0xBF (value * 64 + bits) (read + 1) rest := by
  have hbyte : (0x80 + bits).toUInt8.toNat = 0x80 + bits := toNat_byte (by omega)
  have hbounds : low ≤ (0x80 + bits).toUInt8 ∧ (0x80 + bits).toUInt8 ≤ high := by
    rw [UInt8.le_iff_toNat_le, UInt8.le_iff_toNat_le, hbyte]
    exact ⟨hlow, hhigh⟩
  rw [continuation, if_pos hbounds, hbyte, Nat.add_sub_cancel_left]

/-- Past the second byte of a character, every continuation byte is within its bounds. -/
theorem continuation_next {count value read bits : Nat} {rest : List UInt8} (hbits : bits < 64) :
    continuation (count + 1) 0x80 0xBF value read ((0x80 + bits).toUInt8 :: rest) =
      continuation count 0x80 0xBF (value * 64 + bits) (read + 1) rest := by
  have hlow : (0x80 : UInt8).toNat = 0x80 := rfl
  have hhigh : (0xBF : UInt8).toNat = 0xBF := rfl
  exact continuation_cons hbits (by omega) (by omega)

/-! ## Characters and texts -/

/-- The bytes of a character are read as that character, whatever follows. -/
theorem piecesFrom_encodeChar (c : Char) (rest : List UInt8) :
    piecesFrom 0 (encodeChar c ++ rest) = .char c :: piecesFrom 0 rest := by
  have hscalar : c.toNat < 0xD800 ∨ 0xDFFF < c.toNat ∧ c.toNat < 0x110000 := c.valid
  have hchar : ∀ {m}, m = c.toNat → Char.ofNat m = c := by
    rintro m rfl
    exact Char.ofNat_toNat c
  generalize hn : c.toNat = n at hscalar hchar
  unfold encodeChar
  simp only [hn]
  split
  case isTrue hone =>
    rw [List.singleton_append, piecesFrom, first_single hone, hchar rfl]
  case isFalse hone =>
    split
    case isTrue htwo =>
      have hread : first (0xC0 + n / 64).toUInt8 ((0x80 + n % 64).toUInt8 :: rest) =
          (.char c, 1) := by
        rw [first_lead (by omega) (by omega) (lead?_pair (by omega) (by omega)),
          continuation_next (by omega), continuation, hchar (by omega)]
      simp only [List.cons_append, List.nil_append, piecesFrom, hread]
    case isFalse htwo =>
      split
      case isTrue hthree =>
        have hread : first (0xE0 + n / 4096).toUInt8 ((0x80 + n / 64 % 64).toUInt8 ::
            (0x80 + n % 64).toUInt8 :: rest) = (.char c, 2) := by
          rw [first_lead (by omega) (by omega) (lead?_triple (by omega)),
            continuation_cons (by omega) (by split <;> simp; omega)
              (by split <;> (simp; omega)),
            continuation_next (by omega), continuation, hchar (by omega)]
        simp only [List.cons_append, List.nil_append, piecesFrom, hread]
      case isFalse hthree =>
        have hread : first (0xF0 + n / 262144).toUInt8 ((0x80 + n / 4096 % 64).toUInt8 ::
            (0x80 + n / 64 % 64).toUInt8 :: (0x80 + n % 64).toUInt8 :: rest) = (.char c, 3) := by
          rw [first_lead (by omega) (by omega) (lead?_quad (by omega)),
            continuation_cons (by omega) (by split <;> simp; omega)
              (by split <;> (simp; omega)),
            continuation_next (by omega), continuation_next (by omega), continuation,
            hchar (by omega)]
        simp only [List.cons_append, List.nil_append, piecesFrom, hread]

theorem encode_append (first rest : List Char) :
    encode (first ++ rest) = encode first ++ encode rest :=
  List.flatMap_append

theorem pieces_encode (cs : List Char) : pieces (encode cs) = cs.map .char := by
  induction cs with
  | nil => rfl
  | cons c rest ih =>
    rw [encode, List.flatMap_cons, pieces, piecesFrom_encodeChar, List.map_cons]
    exact congrArg _ ih

/-- The bytes of a text are read as that text. -/
theorem decode?_encode (cs : List Char) : decode? (encode cs) = some (String.ofList cs) := by
  have hchars : (cs.map Piece.char).mapM Piece.char? = some cs := by
    have hsome : Piece.char? ∘ Piece.char = fun c => (pure c : Option Char) := rfl
    rw [List.mapM_map, hsome, List.mapM_pure, List.map_id']
    rfl
  rw [decode?, pieces_encode, hchars, Option.map_some]

/-! ## Boundaries -/

/-- A byte that no character starts with. -/
def IsContinuation (b : UInt8) : Prop := 0x80 ≤ b.toNat ∧ b.toNat < 0xC0

theorem isContinuation_byte {bits : Nat} (h : bits < 64) :
    IsContinuation (0x80 + bits).toUInt8 := by
  rw [IsContinuation, toNat_byte (by omega)]
  omega

/-- Only the first byte of a character is no continuation byte. -/
theorem encodeChar_cons (c : Char) : ∃ lead rest, encodeChar c = lead :: rest ∧
    ¬ IsContinuation lead ∧ ∀ b ∈ rest, IsContinuation b := by
  have hchar : c.toNat < 0x110000 := by
    have hscalar : c.toNat < 0xD800 ∨ 0xDFFF < c.toNat ∧ c.toNat < 0x110000 := c.valid
    omega
  have lead : ∀ {n}, n < 0x80 ∨ 0xC0 ≤ n → n < 256 → ¬ IsContinuation n.toUInt8 := by
    intro n hn hbyte
    rw [IsContinuation, toNat_byte hbyte]
    omega
  have last := @isContinuation_byte (c.toNat % 64) (by omega)
  simp only [encodeChar]
  split
  case isTrue hone => exact ⟨_, _, rfl, lead (.inl hone) (by omega), List.forall_mem_nil _⟩
  case isFalse =>
    split
    case isTrue htwo =>
      exact ⟨_, _, rfl, lead (.inr (by omega)) (by omega), List.forall_mem_singleton.mpr last⟩
    case isFalse =>
      have middle := @isContinuation_byte (c.toNat / 64 % 64) (by omega)
      split
      case isTrue hthree =>
        exact ⟨_, _, rfl, lead (.inr (by omega)) (by omega),
          List.forall_mem_cons.mpr ⟨middle, List.forall_mem_singleton.mpr last⟩⟩
      case isFalse =>
        exact ⟨_, _, rfl, lead (.inr (by omega)) (by omega), List.forall_mem_cons.mpr
          ⟨isContinuation_byte (by omega), List.forall_mem_cons.mpr
            ⟨middle, List.forall_mem_singleton.mpr last⟩⟩⟩

theorem eq_nil_of_encode {cs : List Char} (h : encode cs = []) : cs = [] := by
  cases cs with
  | nil => rfl
  | cons c cs =>
    obtain ⟨lead, rest, hc, -, -⟩ := encodeChar_cons c
    rw [encode, List.flatMap_cons, hc] at h
    cases h

/-- If a text starts with the bytes of a character, it starts with the character. -/
theorem eq_cons_of_encode {cs : List Char} {c : Char} {after : List UInt8}
    (h : encode cs = encodeChar c ++ after) : ∃ rest, cs = c :: rest ∧ encode rest = after := by
  have hpieces : cs.map Piece.char = .char c :: pieces after := by
    rw [← pieces_encode, h, pieces, piecesFrom_encodeChar, pieces]
  cases cs with
  | nil => cases hpieces
  | cons d rest =>
    obtain rfl := Piece.char.inj (List.cons.inj hpieces).1
    exact ⟨rest, rfl, List.append_cancel_left h⟩

/-- Where the bytes of a character stand in those of a text, the character stands in the text. -/
theorem eq_append_of_encode {cs : List Char} {before after : List UInt8} {c : Char}
    (h : encode cs = before ++ (encodeChar c ++ after)) :
    ∃ first rest, cs = first ++ c :: rest ∧ encode first = before ∧ encode rest = after := by
  induction cs generalizing before with
  | nil =>
    obtain ⟨lead, more, hc, -, -⟩ := encodeChar_cons c
    rw [hc] at h
    exact absurd h.symm (by simp [encode])
  | cons d cs ih =>
    have hcons : encodeChar d ++ encode cs = before ++ (encodeChar c ++ after) := h
    rcases List.append_eq_append_iff.mp hcons with ⟨more, rfl, hrest⟩ | ⟨more, hd, hrest⟩
    · obtain ⟨first, rest, rfl, rfl, hafter⟩ := ih hrest
      exact ⟨d :: first, rest, rfl, rfl, hafter⟩
    · -- otherwise the first byte of the character would be within another one
      cases before with
      | nil =>
        obtain ⟨rest, hcs, hafter⟩ := eq_cons_of_encode h
        exact ⟨[], rest, hcs, rfl, hafter⟩
      | cons b before =>
        cases more with
        | nil =>
          rw [List.append_nil] at hd
          obtain ⟨first, rest, rfl, hfirst, hafter⟩ := @ih [] hrest.symm
          refine ⟨d :: first, rest, rfl, ?_, hafter⟩
          rw [encode, List.flatMap_cons, hd]
          exact (congrArg _ hfirst).trans (List.append_nil _)
        | cons b' more =>
          obtain ⟨lead, others, hlead, -, hothers⟩ := encodeChar_cons d
          obtain ⟨lead', others', hlead', hnot, -⟩ := encodeChar_cons c
          rw [hd] at hlead
          rw [hlead'] at hrest
          obtain rfl : lead' = b' := (List.cons.inj hrest).1
          obtain ⟨-, rfl⟩ := List.cons.inj hlead
          exact absurd (hothers lead' (by simp)) hnot

theorem lineFeed_mem_encode {cs : List Char} : 10 ∈ encode cs ↔ '\n' ∈ cs := by
  have hbyte : encodeChar '\n' = [10] := by decide
  constructor
  · intro h
    obtain ⟨before, after, hcs⟩ := List.append_of_mem h
    rw [← List.singleton_append, ← hbyte] at hcs
    obtain ⟨first, rest, rfl, -, -⟩ := eq_append_of_encode hcs
    exact List.mem_append_right _ (List.mem_cons_self)
  · exact fun h => List.mem_flatMap.mpr ⟨_, h, hbyte ▸ List.mem_singleton_self _⟩

/-! ## ASCII -/

/-- ASCII takes one byte for each character. -/
theorem encode_ascii {cs : List Char} (h : ∀ c ∈ cs, c.toNat < 0x80) :
    encode cs = cs.map fun c => c.toNat.toUInt8 := by
  induction cs with
  | nil => rfl
  | cons c rest ih =>
    rw [List.forall_mem_cons] at h
    have hchar : encodeChar c = [c.toNat.toUInt8] := by
      simp only [encodeChar, h.1, if_true]
    rw [encode, List.flatMap_cons, hchar, List.singleton_append, List.map_cons]
    exact congrArg _ (ih h.2)

/-- Bytes of ASCII that are cut off are the bytes of the text that is cut off there. -/
theorem take_encode {cs : List Char} (h : ∀ c ∈ cs, c.toNat < 0x80) (n : Nat) :
    (encode cs).take n = encode (cs.take n) := by
  have hcut : ∀ c ∈ cs.take n, c.toNat < 0x80 := fun c hc => h c (List.mem_of_mem_take hc)
  rw [encode_ascii h, encode_ascii hcut, List.map_take]

theorem length_encode {cs : List Char} (h : ∀ c ∈ cs, c.toNat < 0x80) :
    (encode cs).length = cs.length := by
  rw [encode_ascii h, List.length_map]

end Flaky.Utf8
