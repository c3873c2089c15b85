-- SUMMARY: What patterns of literals, question marks and stars match, in terms of the characters of a name.
import Flaky.Proofs.Filter
import Flaky.Proofs.Utf8

/-!
# Globs and characters

A pattern without classes and alternates takes a name byte by byte: a question mark
takes one byte, and a star any bytes, but neither takes a line feed. The literals
between wildcards are whole characters, and bytes of one character are never the
start of another, so a run of wildcards takes whole characters too. What counts is
how many bytes they have. Where characters are single bytes, each question mark is
for one character.
-/

namespace Flaky.Glob

/-! ## Pieces -/

/-- A sequence splits into pieces as a pattern says: a literal is spelled, a question mark is for
    one element, and a star for any, of those that are free. -/
inductive Splits {α : Type} (spell : Char → List α) (free : α → Prop) : List Char → List α → Prop
  | nil : Splits spell free [] []
  | literal {c : Char} {pattern : List Char} {xs : List α} (plain : c ≠ '?' ∧ c ≠ '*')
    (rest : Splits spell free pattern xs) : Splits spell free (c :: pattern) (spell c ++ xs)
  | any {x : α} {pattern : List Char} {xs : List α} (hfree : free x)
    (rest : Splits spell free pattern xs) : Splits spell free ('?' :: pattern) (x :: xs)
  | star {run : List α} {pattern : List Char} {xs : List α} (hfree : ∀ x ∈ run, free x)
    (rest : Splits spell free pattern xs) : Splits spell free ('*' :: pattern) (run ++ xs)

/-- Characters that are taken one by one, whatever they are. -/
abbrev SplitsCharacters : List Char → List Char → Prop := Splits (fun c => [c]) fun _ => True

abbrev SplitsBytes : List Char → List UInt8 → Prop :=
  Splits Utf8.encodeChar fun b => GlobToken.anyByte b = true

def IsWildcard (c : Char) : Prop := c = '?' ∨ c = '*'

/-- Wildcards can take a number of elements. -/
structure Fits (wildcards : List Char) (size : Nat) : Prop where
  atLeast : wildcards.count '?' ≤ size
  atMost : '*' ∉ wildcards → size ≤ wildcards.count '?'

/-- A name splits into literals, and runs of characters that wildcards take for the bytes that they
    have. -/
inductive Spans : List Char → List Char → Prop
  | nil : Spans [] []
  | literal {c : Char} {pattern cs : List Char} (plain : c ≠ '?' ∧ c ≠ '*')
    (rest : Spans pattern cs) : Spans (c :: pattern) (c :: cs)
  | run {wildcards pattern run cs : List Char} (wild : ∀ c ∈ wildcards, IsWildcard c)
    (line : '\n' ∉ run) (fits : Fits wildcards (Utf8.encode run).length)
    (rest : Spans pattern cs) : Spans (wildcards ++ pattern) (run ++ cs)

/-! ## Runs of wildcards -/

section

variable {α : Type} {spell : Char → List α} {free : α → Prop} {wildcards pattern : List Char}
variable {run xs : List α} {n : Nat}

theorem Fits.any (h : Fits wildcards n) : Fits (wildcards ++ ['?']) (n + 1) where
  atLeast := by simpa using h.atLeast
  atMost := by simpa using h.atMost

theorem Fits.star (h : Fits wildcards n) (more : Nat) : Fits (wildcards ++ ['*']) (n + more) where
  atLeast := by
    have := h.atLeast
    simp
    omega
  atMost hstar := absurd (List.mem_append_right _ (List.mem_singleton_self _)) hstar

/-- Wildcards take a run that fits them. -/
theorem Splits.wildcards_append (wild : ∀ c ∈ wildcards, IsWildcard c) (hfree : ∀ x ∈ run, free x)
    (fits : Fits wildcards run.length) (rest : Splits spell free pattern xs) :
    Splits spell free (wildcards ++ pattern) (run ++ xs) := by
  induction wildcards generalizing run with
  | nil =>
    obtain rfl : run = [] := List.eq_nil_of_length_eq_zero (Nat.le_zero.mp (fits.atMost nofun))
    exact rest
  | cons c wildcards ih =>
    obtain ⟨rfl | rfl, others⟩ := List.forall_mem_cons.mp wild
    · have hpos : 0 < run.length := Nat.lt_of_lt_of_le (by simp) fits.atLeast
      obtain ⟨x, run, rfl⟩ := List.exists_cons_of_length_pos hpos
      obtain ⟨hx, hrun⟩ := List.forall_mem_cons.mp hfree
      refine .any hx (ih others hrun ⟨by simpa using fits.atLeast, fun hstar => ?_⟩)
      simpa using fits.atMost (by simpa using hstar)
    · by_cases hstar : '*' ∈ wildcards
      · -- a later star takes what the question marks leave
        exact @Splits.star _ _ _ [] _ _ nofun
          (ih others hfree ⟨by simpa using fits.atLeast, fun hnot => absurd hstar hnot⟩)
      · have hcount : wildcards.count '?' ≤ run.length := by simpa using fits.atLeast
        have hlength : (run.drop (run.length - wildcards.count '?')).length =
            wildcards.count '?' := by
          rw [List.length_drop]
          omega
        rw [← List.take_append_drop (run.length - wildcards.count '?') run, List.append_assoc]
        exact .star (fun x hx => hfree x (List.mem_of_mem_take hx))
          (ih others (fun x hx => hfree x (List.mem_of_mem_drop hx))
            ⟨hlength.ge, fun _ => hlength.le⟩)

end

/-! ## Bytes and characters -/

section

variable {wildcards pattern name : List Char} {bytes before : List UInt8}

theorem anyByte_iff {b : UInt8} : GlobToken.anyByte b = true ↔ b ≠ 10 := bne_iff_ne

theorem forall_anyByte {cs : List Char} :
    (∀ b ∈ Utf8.encode cs, GlobToken.anyByte b = true) ↔ '\n' ∉ cs := by
  simp only [anyByte_iff]
  rw [← Utf8.lineFeed_mem_encode]
  exact ⟨fun h hmem => h 10 hmem rfl, fun h b hb heq => h (heq ▸ hb)⟩

theorem Spans.splitsBytes (h : Spans pattern name) : SplitsBytes pattern (Utf8.encode name) := by
  induction h with
  | nil => exact .nil
  | literal plain rest ih => exact .literal plain ih
  | run wild line fits rest ih =>
    rw [Utf8.encode_append]
    exact ih.wildcards_append wild (forall_anyByte.mpr line) fits

/-- Bytes that split are those of characters, as what wildcards have taken ends where a literal
    starts. -/
theorem SplitsBytes.spans (h : SplitsBytes pattern bytes) (wild : ∀ c ∈ wildcards, IsWildcard c)
    (hfree : ∀ b ∈ before, GlobToken.anyByte b = true) (fits : Fits wildcards before.length)
    (hname : Utf8.encode name = before ++ bytes) : Spans (wildcards ++ pattern) name := by
  -- the wildcards since the last literal, and what they have taken, are kept apart
  induction h generalizing wildcards before name with
  | nil =>
    rw [List.append_nil] at hname
    rw [← hname] at hfree fits
    rw [← List.append_nil name]
    exact .run wild (forall_anyByte.mp hfree) fits .nil
  | literal plain rest ih =>
    obtain ⟨run, cs, rfl, rfl, hcs⟩ := Utf8.eq_append_of_encode hname
    have hrest := @ih [] cs [] nofun nofun ⟨le_rfl, fun _ => le_rfl⟩ hcs
    exact .run wild (forall_anyByte.mp hfree) fits (.literal plain hrest)
  | any hx rest ih =>
    rw [← List.singleton_append, ← List.append_assoc] at hname ⊢
    refine ih (List.forall_mem_append.mpr ⟨wild, List.forall_mem_singleton.mpr (.inl rfl)⟩)
      (List.forall_mem_append.mpr ⟨hfree, List.forall_mem_singleton.mpr hx⟩) ?_ hname
    rw [List.length_append]
    exact fits.any
  | star hrun rest ih =>
    rw [← List.append_assoc] at hname
    rw [← List.singleton_append, ← List.append_assoc]
    refine ih (List.forall_mem_append.mpr ⟨wild, List.forall_mem_singleton.mpr (.inr rfl)⟩)
      (List.forall_mem_append.mpr ⟨hfree, hrun⟩) ?_ hname
    rw [List.length_append]
    exact fits.star _

theorem splitsBytes_iff_spans : SplitsBytes pattern (Utf8.encode name) ↔ Spans pattern name :=
  ⟨fun h => @h.spans [] _ _ _ [] nofun nofun ⟨le_rfl, fun _ => le_rfl⟩ rfl,
    Spans.splitsBytes⟩

/-- Each question mark of a pattern can only be for one character of a name. -/
def Narrow (pattern name : List Char) : Prop := (∀ c ∈ name, c.toNat < 0x80) ∨ '?' ∉ pattern

theorem Narrow.mono {pattern' name' : List Char} (h : Narrow pattern name)
    (hpattern : pattern' ⊆ pattern) (hname : name' ⊆ name) : Narrow pattern' name' :=
  h.imp (fun hascii c hc => hascii c (hname hc)) fun hmark hc => hmark (hpattern hc)

theorem Spans.splitsCharacters (h : Spans pattern name) (narrow : Narrow pattern name) :
    SplitsCharacters pattern name := by
  induction h with
  | nil => exact .nil
  | literal plain rest ih =>
    exact .literal plain (ih (narrow.mono (List.subset_cons_self _ _) (List.subset_cons_self _ _)))
  | @run wildcards pattern run cs wild line fits rest ih =>
    have hrest := ih (narrow.mono (List.subset_append_right _ _) (List.subset_append_right _ _))
    refine hrest.wildcards_append wild (fun _ _ => trivial) ?_
    rcases narrow with hascii | hmark
    · rwa [Utf8.length_encode fun c hc => hascii c (List.mem_append_left _ hc)] at fits
    · have hcount : wildcards.count '?' = 0 :=
        List.count_eq_zero.mpr fun hc => hmark (List.mem_append_left _ hc)
      refine ⟨hcount ▸ Nat.zero_le _, fun hstar => ?_⟩
      have hnone := fits.atMost hstar
      rw [hcount, Nat.le_zero, List.length_eq_zero_iff] at hnone
      rw [Utf8.eq_nil_of_encode hnone]
      exact Nat.zero_le _

theorem SplitsCharacters.spans (h : SplitsCharacters pattern name) (narrow : Narrow pattern name)
    (line : '\n' ∉ name) : Spans pattern name := by
  induction h with
  | nil => exact .nil
  | literal plain rest ih =>
    exact .literal plain (ih
      (narrow.mono (List.subset_cons_self _ _) (List.subset_cons_self _ _))
      fun hc => line (List.mem_cons_of_mem _ hc))
  | @any x pattern cs _ rest ih =>
    have hascii : x.toNat < 0x80 := (narrow.resolve_right (by simp)) x List.mem_cons_self
    have hlength : (Utf8.encode [x]).length = 1 :=
      Utf8.length_encode (List.forall_mem_singleton.mpr hascii)
    change Spans (['?'] ++ pattern) ([x] ++ cs)
    refine .run (List.forall_mem_singleton.mpr (.inl rfl))
      (fun hc => line (List.mem_append_left cs hc)) (hlength ▸ ⟨le_rfl, fun _ => le_rfl⟩) (ih ?_ ?_)
    · exact narrow.mono (List.subset_cons_self _ _) (List.subset_cons_self _ _)
    · exact fun hc => line (List.mem_cons_of_mem _ hc)
  | @star run pattern cs _ rest ih =>
    change Spans (['*'] ++ pattern) (run ++ cs)
    refine .run (List.forall_mem_singleton.mpr (.inr rfl))
      (fun hc => line (List.mem_append_left cs hc))
      ⟨Nat.zero_le _, fun h => absurd (List.mem_singleton_self _) h⟩ (ih ?_ ?_)
    · exact narrow.mono (List.subset_cons_self _ _) (List.subset_append_right _ _)
    · exact fun hc => line (List.mem_append_right _ hc)

end

/-! ## Patterns of literals and wildcards -/

section

variable {pattern : List Char} {bytes : List UInt8}

/-- A pattern of literals, question marks and stars, no two of them adjacent. -/
structure IsFlat (pattern : List Char) : Prop where
  plain : ∀ c ∈ pattern, c ≠ '[' ∧ c ≠ '{' ∧ c ≠ '}'
  apart : ¬ ['*', '*'] <:+: pattern

def token (c : Char) : GlobToken :=
  if c = '?' then .any else if c = '*' then .star else .literal c

theorem IsFlat.spelled (h : IsFlat pattern) :
    Spelled (.tokens false (pattern.map token)) pattern := by
  induction pattern with
  | nil => exact .nil
  | cons c pattern ih =>
    have hrest := ih ⟨fun c hc => h.plain c (List.mem_cons_of_mem _ hc),
      fun hinfix => h.apart (List.infix_cons hinfix)⟩
    rw [List.map_cons, token]
    split
    case isTrue hany => exact hany ▸ .any hrest
    case isFalse hany =>
      split
      case isTrue hstar =>
        obtain rfl := hstar
        refine .star (fun hnext => h.apart ?_) hrest
        obtain ⟨rest, rfl⟩ := List.head?_eq_some_iff.mp hnext
        exact ⟨[], rest, rfl⟩
      case isFalse hstar =>
        obtain ⟨hclass, hopen, hclose⟩ := h.plain c List.mem_cons_self
        exact .literal ⟨hany, hstar, hclass, hopen, hclose⟩ (fun _ => rfl) hrest

theorem mem_wordsOfAll_iff :
    bytes ∈ GlobToken.wordsOfAll (pattern.map token) ↔ SplitsBytes pattern bytes := by
  induction pattern generalizing bytes with
  | nil =>
    constructor
    · rintro rfl
      exact .nil
    · rintro ⟨⟩
      exact rfl
  | cons c pattern ih =>
    rw [List.map_cons, GlobToken.wordsOfAll, Language.mem_mul, token]
    constructor
    · rintro ⟨word, hword, rest, hrest, rfl⟩
      rw [ih] at hrest
      split at hword
      case isTrue hany =>
        obtain ⟨b, hb, rfl⟩ := hword
        exact hany ▸ .any hb hrest
      case isFalse hany =>
        split at hword
        case isTrue hstar => exact hstar ▸ .star hword hrest
        case isFalse hstar =>
          obtain rfl : word = Utf8.encodeChar c := hword
          exact .literal ⟨hany, hstar⟩ hrest
    · intro h
      cases h with
      | literal plain rest =>
        rw [if_neg plain.1, if_neg plain.2]
        exact ⟨_, rfl, _, ih.mpr rest, rfl⟩
      | any hfree rest => exact ⟨_, ⟨_, hfree, rfl⟩, _, ih.mpr rest, rfl⟩
      | star hfree rest => exact ⟨_, hfree, _, ih.mpr rest, rfl⟩

/-- A flat pattern matches a name exactly if the name splits into the literals and, for each run of
    wildcards, characters that fit it. Where a question mark can only be for one character of a
    name on one line, wildcards take characters one by one. -/
theorem matchesName_flat {pattern : String} (flat : IsFlat pattern.toList) :
    ∃ glob, ofText pattern = .ok glob ∧ ∀ name : String,
      (glob.matchesName name = true ↔ Spans pattern.toList name.toList) ∧
      (Narrow pattern.toList name.toList → '\n' ∉ name.toList →
        (glob.matchesName name = true ↔ SplitsCharacters pattern.toList name.toList)) := by
  have hglob := ofText_spelled flat.spelled
  refine ⟨_, hglob, fun name => ?_⟩
  have hspans : matchesName ⟨pattern.toList.map token⟩ name = true ↔
      Spans pattern.toList name.toList := by
    rw [matchesName, matchesBytes_iff, words, flat.spelled.isRecursive, if_neg Bool.false_ne_true,
      mem_wordsOfAll_iff, Utf8.bytes, splitsBytes_iff_spans]
  exact ⟨hspans, fun narrow line => hspans.trans
    ⟨fun h => h.splitsCharacters narrow, fun h => h.spans narrow line⟩⟩

theorem matchesName_flat_mixed :
    IsFlat "a?*".toList ∧ ∃ glob, ofText "a?*" = .ok glob ∧ ∀ name : String,
      (glob.matchesName name = true ↔ Spans "a?*".toList name.toList) ∧
      (Narrow "a?*".toList name.toList → '\n' ∉ name.toList →
        (glob.matchesName name = true ↔ SplitsCharacters "a?*".toList name.toList)) := by
  have flat : IsFlat "a?*".toList := ⟨by simp, by decide⟩
  exact ⟨flat, matchesName_flat flat⟩

/-- One question mark does not match a letter of two bytes. -/
theorem not_matchesName_splitsCharacters :
    ¬ ∀ pattern : String, IsFlat pattern.toList → ∃ glob, ofText pattern = .ok glob ∧
      ∀ name : String,
        glob.matchesName name = true ↔ SplitsCharacters pattern.toList name.toList := by
  intro h
  obtain ⟨glob, hglob, hmatches⟩ := h "?" ⟨by simp, by decide⟩
  have hany : ofText "?" = .ok ⟨[.any]⟩ := rfl
  obtain rfl := Except.ok.inj (hany.symm.trans hglob)
  have hsplits : SplitsCharacters "?".toList "é".toList := .any trivial .nil
  have hmismatch : matchesName ⟨[.any]⟩ "é" = false := by decide
  exact Bool.false_ne_true (hmismatch.symm.trans ((hmatches "é").mpr hsplits))

end

end Flaky.Glob
