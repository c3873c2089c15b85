-- SUMMARY: Commands read back from the line that they are shown as, and from the list of their words.
import Flaky.Settings.Values
import Mathlib.Data.List.Forall2

/-!
# Reading commands back

A word of a line is spelled in parts: characters that stand for themselves, a character
after a backslash, and text in single quotes. Wherever a part stands in a word, it is
read as what it means, so words that are spelled so and parted by blanks are read as
these words. Quoting a word gives it such a spelling, which an empty word and a word
that begins as a comment does would not have without quotes.
-/

namespace Flaky

namespace Words

/-! ## Spellings -/

/-- The characters that do not stand for themselves, at least at the start of a word. -/
def reserved : List Char := " \t\n'\"\\#".toList

/-- A part of a word, and what it means. -/
inductive Part : List Char → List Char → Prop
  | plain {c : Char} (h : c ∉ reserved) : Part [c] [c]
  | escaped {c : Char} (h : c ≠ '\n') : Part ['\\', c] [c]
  | quoted {cs : List Char} (h : '\'' ∉ cs) : Part ('\'' :: (cs ++ ['\''])) cs

/-- A word that is put together from parts. -/
inductive Spelled : List Char → List Char → Prop
  | last {text cs : List Char} (part : Part text cs) : Spelled text cs
  | more {text cs texts css : List Char} (part : Part text cs) (rest : Spelled texts css) :
    Spelled (text ++ texts) (cs ++ css)

section

variable {text cs word rest : List Char} {state : State}

theorem splitFrom_singleQuoted (h : '\'' ∉ cs) :
    splitFrom .singleQuoted word (cs ++ '\'' :: rest) = splitFrom .bare (word ++ cs) rest := by
  induction cs generalizing word with
  | nil => rw [List.nil_append, splitFrom, if_pos rfl, List.append_nil]
  | cons c cs ih =>
    rw [List.mem_cons, not_or] at h
    rw [List.cons_append, splitFrom, if_neg (Ne.symm h.1), ih h.2, List.append_assoc,
      List.singleton_append]

/-- A part is read as what it means, at the start of a word and inside it. -/
theorem Part.split (h : Part text cs) (hstate : state = .between ∨ state = .bare) :
    splitFrom state word (text ++ rest) = splitFrom .bare (word ++ cs) rest := by
  cases h with
  | @plain c hplain =>
    have apart : ∀ d ∈ reserved, c ≠ d := fun d hd heq => hplain (heq ▸ hd)
    have hquote := apart '\'' (by decide)
    have hdouble := apart '"' (by decide)
    have hescape := apart '\\' (by decide)
    have hcomment := apart '#' (by decide)
    have hblank : isBlank c = false := by
      simp [isBlank, apart ' ' (by decide), apart '\t' (by decide), apart '\n' (by decide)]
    rcases hstate with rfl | rfl <;>
      simp [splitFrom, hquote, hdouble, hescape, hcomment, hblank]
  | escaped hbreak => rcases hstate with rfl | rfl <;> simp [splitFrom, hbreak]
  | @quoted cs hquote =>
    have inside : splitFrom .singleQuoted word (cs ++ '\'' :: rest) = _ :=
      splitFrom_singleQuoted hquote
    rcases hstate with rfl | rfl <;> simpa [splitFrom] using inside

/-- A spelled word is read as the word. -/
theorem Spelled.split (h : Spelled text cs) (hstate : state = .between ∨ state = .bare) :
    splitFrom state word (text ++ rest) = splitFrom .bare (word ++ cs) rest := by
  induction h generalizing state word with
  | last part => exact part.split hstate
  | more part _ ih => rw [List.append_assoc, part.split hstate, ih (.inr rfl), List.append_assoc]

/-- Spelled words with blanks between them are read as the words. -/
theorem splitFrom_intercalate {texts words : List (List Char)}
    (h : List.Forall₂ Spelled texts words) :
    splitFrom .between [] ([' '].intercalate texts) = some words := by
  induction h with
  | nil => rfl
  | @cons text word texts words first later ih =>
    cases later with
    | nil =>
      rw [List.intercalate_singleton, ← List.append_nil text, first.split (.inl rfl)]
      rfl
    | cons second later =>
      rw [List.intercalate_cons_of_ne_nil (List.cons_ne_nil _ _), List.append_assoc,
        first.split (.inl rfl), List.singleton_append]
      -- the blank ends the word, and the rest of the line is split on its own
      simp only [splitFrom, isBlank, ih]
      rfl

/-! ## Quoting -/

theorem part_of_needsQuotes {c : Char} (h : needsQuotes c = false) : Part [c] [c] := by
  have all : reserved.all needsQuotes = true := by decide
  refine .plain fun hmem => ?_
  rw [List.all_eq_true.mp all c hmem] at h
  cases h

theorem spelled_plain (hword : word ≠ []) (h : ∀ c ∈ word, needsQuotes c = false) :
    Spelled word word := by
  induction word with
  | nil => exact absurd rfl hword
  | cons c word ih =>
    obtain ⟨hc, hlater⟩ := List.forall_mem_cons.mp h
    cases word with
    | nil => exact .last (part_of_needsQuotes hc)
    | cons d word => exact .more (part_of_needsQuotes hc) (ih (List.cons_ne_nil d word) hlater)

/-- Quoted text closes and opens its quotes around each quote in it. -/
theorem spelled_quoted (before : List Char) (h : '\'' ∉ before) (word : List Char) :
    Spelled ('\'' :: (before ++ (quoted word ++ ['\'']))) (before ++ word) := by
  induction word generalizing before with
  | nil =>
    rw [quoted, List.nil_append, List.append_nil]
    exact .last (.quoted h)
  | cons c word ih =>
    rw [quoted]
    by_cases hc : c = '\''
    · subst hc
      have closed := Spelled.more (.quoted h)
        (.more (.escaped (c := '\'') (by decide)) (ih [] List.not_mem_nil))
      simpa using closed
    · have further := ih (before ++ [c]) (by simp [h, Ne.symm hc])
      simpa [hc] using further

/-- Quoting a word spells it. -/
theorem spelled_quoteChars (word : List Char) : Spelled (quoteChars word) word := by
  rw [quoteChars]
  split
  case isTrue => exact spelled_quoted [] List.not_mem_nil word
  case isFalse hplain =>
    simp only [Bool.or_eq_true, not_or, List.isEmpty_iff, List.any_eq_true, not_exists, not_and,
      Bool.not_eq_true] at hplain
    exact spelled_plain hplain.1 hplain.2

end

/-- A line of quoted words is split into the words. -/
theorem split?_join (words : List String) : split? (join words) = some words := by
  have spelled : List.Forall₂ Spelled (words.map fun word => quoteChars word.toList)
      (words.map String.toList) := by
    rw [List.forall₂_map_left_iff, List.forall₂_map_right_iff, List.forall₂_same]
    exact fun word _ => spelled_quoteChars word.toList
  have hline : (join words).toList =
      [' '].intercalate (words.map fun word => quoteChars word.toList) := by
    rw [join, String.toList_intercalate, List.map_map]
    simp [Function.comp_def, quote]
  rw [split?, hline, splitFrom_intercalate spelled]
  simp

end Words

/-! ## Commands -/

namespace Command

theorem ofLine_text (command : Command) : ofLine command.text = .ok command := by
  rw [ofLine, text, Words.split?_join, words]

theorem readItems_text (dialect : Dialect) (i : Nat) (words : List String) :
    Dialect.readItems (readWord dialect) i (words.map .text) = .ok words := by
  induction words generalizing i with
  | nil => rfl
  | cons word words ih =>
    have first : readWord dialect (.text word) = .ok word := by cases dialect <;> rfl
    rw [List.map_cons, Dialect.readItems, first, ih]
    rfl

/-- A command is read back from the line that shows it, and from the list of its words. -/
theorem read_shown (dialect : Dialect) (command : Command) :
    read dialect (.text command.text) = .ok command ∧
    read dialect (.list (command.words.map .text)) = .ok command := by
  constructor
  · rw [read, ofLine_text]
  · rw [words, List.map_cons, read, Dialect.readList, ← List.map_cons, readItems_text]
    rfl

end Command

end Flaky
