-- SUMMARY: The words of a glob: the language that its tokens stand for, and that a name matches exactly if its bytes are one of them.
import Flaky.Glob.Language
import Mathlib.Computability.Language

/-!
# Words of a glob

A token stands for a language of byte sequences: adjacent tokens for the
concatenation of theirs, alternates for the union of their branches. Matching goes
through a name with marks on its positions. A token moves the marks to exactly the
positions that they reach through its words, so the end of a name is marked exactly
if the whole name is a word.
-/

namespace Flaky

namespace GlobToken

/-! ## Words -/

/-- Single bytes. -/
def oneOf (p : UInt8 → Bool) : Language UInt8 := {bytes | ∃ b, p b = true ∧ bytes = [b]}

def runOf (p : UInt8 → Bool) : Language UInt8 := {bytes | ∀ b ∈ bytes, p b = true}

mutual

/-- The byte sequences that a token stands for. -/
def words : GlobToken → Language UInt8
  | .literal c => {Utf8.encodeChar c}
  | .any => oneOf anyByte
  | .star => runOf anyByte
  | .recursiveStart => 1 + (oneOf (· == slash) + runOf anyByte * oneOf (· == slash))
  | .recursiveEnd => oneOf (· == slash) * runOf anyByte
  | .recursiveMiddle =>
    oneOf (· == slash) + oneOf (· == slash) * (runOf anyByte * oneOf (· == slash))
  | .class negated ranges => oneOf fun b => inRanges (byteRanges ranges) b != negated
  | .alternates branches => wordsOfBranches branches

/-- The byte sequences that a sequence of tokens stands for. -/
def wordsOfAll : List GlobToken → Language UInt8
  | [] => 1
  | token :: rest => words token * wordsOfAll rest

def wordsOfBranches : List (List GlobToken) → Language UInt8
  | [] => 0
  | branch :: rest => wordsOfAll branch + wordsOfBranches rest

end

section

variable {p : UInt8 → Bool} {bytes word rest : List UInt8}

@[simp] theorem mem_oneOf : bytes ∈ oneOf p ↔ ∃ b, p b = true ∧ bytes = [b] := Iff.rfl

@[simp] theorem mem_runOf : bytes ∈ runOf p ↔ ∀ b ∈ bytes, p b = true := Iff.rfl

/-- Alternates stand for the union of their branches. -/
theorem mem_wordsOfBranches {branches : List (List GlobToken)} :
    bytes ∈ wordsOfBranches branches ↔ ∃ branch ∈ branches, bytes ∈ wordsOfAll branch := by
  induction branches with
  | nil => simp [wordsOfBranches]
  | cons branch rest ih => rw [wordsOfBranches, Language.mem_add, ih, List.exists_mem_cons_iff]

theorem single_cons (x : UInt8) (word : List UInt8) :
    ({x :: word} : Language UInt8) = oneOf (· == x) * {word} := by
  ext bytes
  rw [Language.mem_mul]
  constructor
  · rintro rfl
    exact ⟨[x], ⟨x, beq_self_eq_true x, rfl⟩, word, rfl, rfl⟩
  · rintro ⟨_, ⟨b, hb, rfl⟩, _, rfl, rfl⟩
    rw [beq_iff_eq.mp hb]
    rfl

end

/-! ## Moving marks -/

section

variable {bytes : List UInt8} {first second : Language UInt8} {move move' : Marks → Marks}

/-- A move takes marks to exactly the positions that they reach through words of a language. -/
structure Moves (bytes : List UInt8) (language : Language UInt8) (move : Marks → Marks) : Prop where
  length_eq : ∀ marks, marks.length = bytes.length + 1 → (move marks).length = bytes.length + 1
  reaches : ∀ marks, marks.length = bytes.length + 1 → ∀ j ≤ bytes.length,
    (move marks)[j]? = some true ↔
      ∃ i ≤ j, marks[i]? = some true ∧ (bytes.take j).drop i ∈ language

/-- What lies between two positions is cut where a first word ends. -/
theorem between_mem_mul {i k : Nat} (hi : i ≤ k) (hk : k ≤ bytes.length) :
    (bytes.take k).drop i ∈ first * second ↔
      ∃ j, i ≤ j ∧ j ≤ k ∧ (bytes.take j).drop i ∈ first ∧ (bytes.take k).drop j ∈ second := by
  rw [Language.mem_mul]
  constructor
  · rintro ⟨word, hword, rest, hrest, happend⟩
    have hlength : word.length + rest.length = k - i := by
      rw [← List.length_append, happend, List.length_drop, List.length_take, min_eq_left hk]
    refine ⟨i + word.length, by omega, by omega, ?_, ?_⟩
    · have htake : (bytes.take (i + word.length)).drop i = word := calc
        (bytes.take (i + word.length)).drop i
        _ = ((bytes.take k).drop i).take word.length := by
          rw [List.drop_take, List.drop_take, List.take_take, min_eq_left (by omega),
            Nat.add_sub_cancel_left]
        _ = word := by rw [← happend, List.take_left]
      rwa [htake]
    · have hdrop : (bytes.take k).drop (i + word.length) = rest := by
        rw [← List.drop_drop, ← happend, List.drop_left]
      rwa [hdrop]
  · rintro ⟨j, hij, hjk, hword, hrest⟩
    refine ⟨_, hword, _, hrest, ?_⟩
    calc (bytes.take j).drop i ++ (bytes.take k).drop j
      _ = (bytes.take j ++ (bytes.take k).drop j).drop i := by
        rw [List.drop_append_of_le_length (by rw [List.length_take]; omega)]
      _ = ((bytes.take k).take j ++ (bytes.take k).drop j).drop i := by
        rw [List.take_take, min_eq_left hjk]
      _ = (bytes.take k).drop i := by rw [List.take_append_drop]

theorem Moves.id : Moves bytes 1 fun marks => marks where
  length_eq _ h := h
  reaches marks hmarks j hj := by
    constructor
    · intro h
      exact ⟨j, le_refl j, h, List.drop_eq_nil_of_le (List.length_take_le _ _)⟩
    · rintro ⟨i, hi, h, hnil⟩
      have hle := List.drop_eq_nil_iff.mp hnil
      rw [List.length_take, min_eq_left hj] at hle
      exact le_antisymm hi hle ▸ h

theorem Moves.comp (h : Moves bytes first move) (h' : Moves bytes second move') :
    Moves bytes (first * second) fun marks => move' (move marks) where
  length_eq marks hmarks := h'.length_eq _ (h.length_eq marks hmarks)
  reaches marks hmarks k hk := by
    rw [h'.reaches _ (h.length_eq marks hmarks) k hk]
    constructor
    · rintro ⟨j, hjk, hj, hrest⟩
      obtain ⟨i, hij, hi, hword⟩ := (h.reaches marks hmarks j (by omega)).mp hj
      exact ⟨i, by omega, hi, (between_mem_mul (by omega) hk).mpr ⟨j, hij, hjk, hword, hrest⟩⟩
    · rintro ⟨i, hik, hi, hmul⟩
      obtain ⟨j, hij, hjk, hword, hrest⟩ := (between_mem_mul hik hk).mp hmul
      exact ⟨j, hjk, (h.reaches marks hmarks j (by omega)).mpr ⟨i, hij, hi, hword⟩, hrest⟩

theorem getElem?_either {a b : Marks} (h : a.length = b.length) {j : Nat} :
    (either a b)[j]? = some true ↔ a[j]? = some true ∨ b[j]? = some true := by
  rw [either, List.getElem?_zipWith]
  by_cases hj : j < a.length
  · rw [List.getElem?_eq_getElem hj, List.getElem?_eq_getElem (h ▸ hj)]
    simp
  · rw [List.getElem?_eq_none (by omega), List.getElem?_eq_none (by omega)]
    simp

theorem Moves.either (h : Moves bytes first move) (h' : Moves bytes second move') :
    Moves bytes (first + second) fun marks => either (move marks) (move' marks) where
  length_eq marks hmarks := by
    rw [GlobToken.either, List.length_zipWith, h.length_eq marks hmarks, h'.length_eq marks hmarks,
      min_self]
  reaches marks hmarks j hj := by
    rw [getElem?_either ((h.length_eq marks hmarks).trans (h'.length_eq marks hmarks).symm),
      h.reaches marks hmarks j hj, h'.reaches marks hmarks j hj]
    simp only [Language.mem_add]
    constructor
    · rintro (⟨i, hi, hmark, hword⟩ | ⟨i, hi, hmark, hword⟩)
      · exact ⟨i, hi, hmark, .inl hword⟩
      · exact ⟨i, hi, hmark, .inr hword⟩
    · rintro ⟨i, hi, hmark, hword | hword⟩
      · exact .inl ⟨i, hi, hmark, hword⟩
      · exact .inr ⟨i, hi, hmark, hword⟩

theorem Moves.none : Moves bytes 0 fun marks => marks.map fun _ => false where
  length_eq marks hmarks := by rwa [List.length_map]
  reaches marks hmarks j hj := by simp [Language.notMem_zero, List.getElem?_replicate]

end

/-! ## Single bytes and runs -/

section

variable {bytes : List UInt8} {p : UInt8 → Bool}

theorem Moves.overOne : Moves bytes (oneOf p) (overOne p bytes) where
  length_eq marks hmarks := by
    rw [GlobToken.overOne, List.length_cons, List.length_zipWith, hmarks]
    omega
  reaches marks hmarks j hj := by
    rw [GlobToken.overOne]
    cases j with
    | zero => simp
    | succ j =>
      have hlast : (bytes.take (j + 1)).drop j = [bytes[j]] := by
        rw [List.drop_take, Nat.add_sub_cancel_left, List.drop_eq_getElem_cons (by omega)]
        rfl
      rw [List.getElem?_cons_succ, List.getElem?_zipWith, List.getElem?_eq_getElem (by omega),
        List.getElem?_eq_getElem (by omega)]
      constructor
      · intro h
        obtain ⟨hmark, hb⟩ := Bool.and_eq_true_iff.mp (Option.some.inj h)
        exact ⟨j, by omega, by rw [List.getElem?_eq_getElem (by omega), hmark],
          hlast ▸ ⟨_, hb, rfl⟩⟩
      · rintro ⟨i, hi, hmark, b, hb, hword⟩
        have hlength := congrArg List.length hword
        rw [List.length_drop, List.length_take, min_eq_left hj, List.length_singleton] at hlength
        obtain rfl : i = j := by omega
        rw [hlast] at hword
        have hbyte : p bytes[i] = true := (List.cons.inj hword).1 ▸ hb
        rw [List.getElem?_eq_getElem (by omega)] at hmark
        simp [Option.some.inj hmark, hbyte]

/-- A run starts at a mark before the bytes, or at one of the marks on them. -/
theorem getElem?_overRun {carried : Bool} {marks : Marks} (hmarks : marks.length = bytes.length + 1)
    {j : Nat} (hj : j ≤ bytes.length) :
    (overRun p carried bytes marks)[j]? = some true ↔
      (carried = true ∧ ∀ b ∈ bytes.take j, p b = true) ∨
      ∃ i ≤ j, marks[i]? = some true ∧ ∀ b ∈ (bytes.take j).drop i, p b = true := by
  induction bytes generalizing carried marks j with
  | nil =>
    obtain ⟨m, rfl⟩ := List.length_eq_one_iff.mp hmarks
    obtain rfl : j = 0 := by simpa using hj
    simp [overRun]
  | cons b bytes ih =>
    obtain ⟨m, marks, rfl⟩ := List.exists_cons_of_length_eq_add_one hmarks
    rw [overRun]
    cases j with
    | zero => simp
    | succ j =>
      have hrest : marks.length = bytes.length + 1 := by simpa using hmarks
      rw [List.getElem?_cons_succ, ih hrest (by simpa using hj), List.take_succ_cons]
      simp only [Bool.and_eq_true, Bool.or_eq_true, List.forall_mem_cons]
      constructor
      · rintro (⟨⟨hcarried | hm, hb⟩, hrun⟩ | ⟨i, hi, hmark, hrun⟩)
        · exact .inl ⟨hcarried, hb, hrun⟩
        · exact .inr ⟨0, by omega, by simp [hm], by simpa using ⟨hb, hrun⟩⟩
        · exact .inr ⟨i + 1, by omega, hmark, hrun⟩
      · rintro (⟨hcarried, hb, hrun⟩ | ⟨i, hi, hmark, hrun⟩)
        · exact .inl ⟨⟨.inl hcarried, hb⟩, hrun⟩
        · cases i with
          | zero =>
            obtain ⟨hb, hrun⟩ : p b = true ∧ ∀ b ∈ bytes.take j, p b = true := by simpa using hrun
            exact .inl ⟨⟨.inr (by simpa using hmark), hb⟩, hrun⟩
          | succ i => exact .inr ⟨i, by omega, hmark, hrun⟩

theorem length_overRun {carried : Bool} {marks : Marks}
    (hmarks : marks.length = bytes.length + 1) :
    (overRun p carried bytes marks).length = bytes.length + 1 := by
  induction bytes generalizing carried marks with
  | nil =>
    obtain ⟨m, rfl⟩ := List.length_eq_one_iff.mp hmarks
    rfl
  | cons b bytes ih =>
    obtain ⟨m, marks, rfl⟩ := List.exists_cons_of_length_eq_add_one hmarks
    rw [overRun, List.length_cons, ih (by simpa using hmarks), List.length_cons]

theorem Moves.overAny : Moves bytes (runOf anyByte) (overAny bytes) where
  length_eq marks hmarks := length_overRun hmarks
  reaches marks hmarks j hj := by
    rw [GlobToken.overAny, getElem?_overRun hmarks hj]
    simp

theorem Moves.overBytes (word : List UInt8) :
    Moves bytes {word} fun marks => word.foldl (fun marks x => overByte x bytes marks) marks := by
  induction word with
  | nil => exact .id
  | cons x word ih =>
    rw [single_cons]
    exact .comp .overOne ih

end

/-! ## Tokens -/

section

variable {bytes : List UInt8}

mutual

/-- A token moves marks through its words. -/
theorem step_moves (token : GlobToken) :
    Moves bytes token.words fun marks => step bytes marks token := by
  match token with
  | .literal c => exact .overBytes (Utf8.encodeChar c)
  | .any => exact .overOne
  | .star => exact .overAny
  | .recursiveStart => exact Moves.id.either (Moves.overOne.either (Moves.overAny.comp .overOne))
  | .recursiveEnd => exact Moves.overOne.comp .overAny
  | .recursiveMiddle =>
    exact Moves.overOne.either (Moves.overOne.comp (Moves.overAny.comp .overOne))
  | .class negated ranges => exact .overOne
  | .alternates branches => exact stepBranches_moves branches

theorem steps_moves (tokens : List GlobToken) :
    Moves bytes (wordsOfAll tokens) fun marks => steps bytes marks tokens := by
  match tokens with
  | [] => exact .id
  | token :: rest => exact (step_moves token).comp (steps_moves rest)

theorem stepBranches_moves (branches : List (List GlobToken)) :
    Moves bytes (wordsOfBranches branches) fun marks => stepBranches bytes marks branches := by
  match branches with
  | [] => exact .none
  | branch :: rest => exact (steps_moves branch).either (stepBranches_moves rest)

end

end

end GlobToken

/-! ## Whole names -/

namespace Glob

open GlobToken

variable {glob : Glob} {bytes : List UInt8}

/-- The byte sequences that a glob stands for. Two stars alone are for everything on one line. -/
def words (glob : Glob) : Language UInt8 :=
  if isRecursive glob.tokens then runOf anyByte else wordsOfAll glob.tokens

theorem getElem?_startMarks {i : Nat} : (startMarks bytes)[i]? = some true ↔ i = 0 := by
  rw [startMarks]
  cases i with
  | zero => simp
  | succ i => simp [List.getElem?_replicate]

/-- A byte sequence matches exactly if it is a word of the glob. -/
theorem matchesBytes_iff : glob.matchesBytes bytes = true ↔ bytes ∈ glob.words := by
  rw [matchesBytes, words]
  split
  case isTrue => rw [List.all_eq_true, mem_runOf]
  case isFalse =>
    have hstart : (startMarks bytes).length = bytes.length + 1 := by simp [startMarks]
    have moves := @steps_moves bytes glob.tokens
    have hlength := moves.length_eq _ hstart
    have hlast : (steps bytes (startMarks bytes) glob.tokens).getLastD false = true ↔
        (steps bytes (startMarks bytes) glob.tokens)[bytes.length]? = some true := by
      rw [List.getLastD_eq_getLast?, List.getLast?_eq_getElem?, hlength, Nat.add_sub_cancel,
        List.getElem?_eq_getElem (by omega)]
      simp
    rw [hlast, moves.reaches _ hstart _ le_rfl]
    simp only [getElem?_startMarks]
    constructor
    · rintro ⟨_, -, rfl, hword⟩
      rwa [List.take_length, List.drop_zero] at hword
    · intro hword
      exact ⟨0, Nat.zero_le _, rfl, by rwa [List.take_length, List.drop_zero]⟩

end Glob

end Flaky
