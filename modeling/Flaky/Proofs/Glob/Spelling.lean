-- SUMMARY: How patterns without classes are spelled, and that a spelled pattern is read into the tokens that it spells.
import Flaky.Glob
import Mathlib.Data.List.Basic

/-!
# Spelled patterns

`Spelled` derives the patterns that have no classes and no two adjacent stars, with
the tokens that they spell. Reading such a pattern gives back the tokens: what is
read of it so far is kept in reverse, and an alternation is complete with its brace.
-/

namespace Flaky.Glob

/-! ## Spellings -/

/-- A character that stands for itself. -/
def Plain (c : Char) : Prop := c ≠ '?' ∧ c ≠ '*' ∧ c ≠ '[' ∧ c ≠ '{' ∧ c ≠ '}'

instance : DecidablePred Plain := fun c =>
  inferInstanceAs (Decidable (c ≠ '?' ∧ c ≠ '*' ∧ c ≠ '[' ∧ c ≠ '{' ∧ c ≠ '}'))

inductive Phrase
  /-- Tokens, inside alternates or not. -/
  | tokens (inside : Bool) (tokens : List GlobToken)
  | branches (branches : List (List GlobToken))

/-- A text spells a phrase. Inside alternates a comma stands between branches, elsewhere for
    itself. -/
inductive Spelled : Phrase → List Char → Prop
  | nil {inside : Bool} : Spelled (.tokens inside []) []
  | literal {inside : Bool} {c : Char} {tokens : List GlobToken} {text : List Char}
    (plain : Plain c) (comma : c = ',' → inside = false)
    (rest : Spelled (.tokens inside tokens) text) :
    Spelled (.tokens inside (.literal c :: tokens)) (c :: text)
  | any {inside : Bool} {tokens : List GlobToken} {text : List Char}
    (rest : Spelled (.tokens inside tokens) text) :
    Spelled (.tokens inside (.any :: tokens)) ('?' :: text)
  | star {inside : Bool} {tokens : List GlobToken} {text : List Char}
    (apart : text.head? ≠ some '*') (rest : Spelled (.tokens inside tokens) text) :
    Spelled (.tokens inside (.star :: tokens)) ('*' :: text)
  | alternates {inside : Bool} {branches : List (List GlobToken)} {tokens : List GlobToken}
    {text more : List Char} (group : Spelled (.branches branches) text)
    (rest : Spelled (.tokens inside tokens) more) :
    Spelled (.tokens inside (.alternates branches :: tokens)) ('{' :: (text ++ '}' :: more))
  | last {branch : List GlobToken} {text : List Char} (only : Spelled (.tokens true branch) text) :
    Spelled (.branches [branch]) text
  | branch {branch : List GlobToken} {branches : List (List GlobToken)} {text more : List Char}
    (first : Spelled (.tokens true branch) text) (rest : Spelled (.branches branches) more) :
    Spelled (.branches (branch :: branches)) (text ++ ',' :: more)

/-! ## Reading a character -/

section

variable {s : ReadState} {c : Char} {rest : List Char}

theorem readFrom_any :
    readFrom 0 s ('?' :: rest) = readFrom 0 ⟨s.groups, .any :: s.tokens, some '?'⟩ rest := rfl

theorem readFrom_star (h : rest.head? ≠ some '*') :
    readFrom 0 s ('*' :: rest) = readFrom 0 ⟨s.groups, .star :: s.tokens, some '*'⟩ rest := by
  rw [readFrom]
  · rfl
  · rintro after rfl
    exact h rfl

theorem readFrom_open :
    readFrom 0 s ('{' :: rest) = readFrom 0 ⟨⟨[], s.tokens⟩ :: s.groups, [], some '{'⟩ rest := rfl

theorem readFrom_literal (plain : Plain c) (comma : c = ',' → s.groups = []) :
    readFrom 0 s (c :: rest) = readFrom 0 ⟨s.groups, .literal c :: s.tokens, some c⟩ rest := by
  obtain ⟨hany, hstar, hclass, hopen, hclose⟩ := plain
  by_cases hcomma : c = ','
  · obtain rfl := hcomma
    obtain ⟨groups, tokens, last⟩ := s
    obtain rfl : groups = [] := comma rfl
    rfl
  · rw [readFrom]
    · rfl
    all_goals assumption

variable {g : OpenGroup} {groups : List OpenGroup} {tokens : List GlobToken} {last : Option Char}

theorem readFrom_comma : readFrom 0 ⟨g :: groups, tokens, last⟩ (',' :: rest) =
    readFrom 0 ⟨⟨tokens.reverse :: g.branches, g.before⟩ :: groups, [], some ','⟩ rest := rfl

theorem readFrom_close : readFrom 0 ⟨g :: groups, tokens, last⟩ ('}' :: rest) =
    readFrom 0 ⟨groups, .alternates (tokens.reverse :: g.branches).reverse :: g.before, some '}'⟩
      rest := rfl

end

/-! ## Reading a phrase -/

/-- Reading a text takes up the phrase that it spells, wherever the text stands. -/
def Reads (text : List Char) : Phrase → Prop
  | .tokens inside tokens => ∀ (s : ReadState) (more : List Char),
    (inside = false → s.groups = []) → more.head? ≠ some '*' →
    ∃ last, readFrom 0 s (text ++ more) =
      readFrom 0 ⟨s.groups, tokens.reverse ++ s.tokens, last⟩ more
  | .branches branches => ∀ (g : OpenGroup) (groups : List OpenGroup) (last : Option Char)
    (more : List Char), ∃ last',
    readFrom 0 ⟨g :: groups, [], last⟩ (text ++ '}' :: more) =
      readFrom 0 ⟨groups, .alternates (g.branches.reverse ++ branches) :: g.before, last'⟩ more

variable {phrase : Phrase} {text : List Char} {tokens : List GlobToken} {pattern : String}

theorem Spelled.reads (h : Spelled phrase text) : Reads text phrase := by
  induction h with
  | nil => exact fun s more _ _ => ⟨s.last, rfl⟩
  | @literal inside c tokens text plain comma rest ih =>
    intro s more outside hmore
    obtain ⟨last, hread⟩ := ih ⟨s.groups, .literal c :: s.tokens, some c⟩ more outside hmore
    refine ⟨last, ?_⟩
    rw [List.cons_append, readFrom_literal plain fun hc => outside (comma hc), hread,
      List.reverse_cons, List.append_assoc]
    rfl
  | @any inside tokens text rest ih =>
    intro s more outside hmore
    obtain ⟨last, hread⟩ := ih ⟨s.groups, .any :: s.tokens, some '?'⟩ more outside hmore
    refine ⟨last, ?_⟩
    rw [List.cons_append, readFrom_any, hread, List.reverse_cons, List.append_assoc]
    rfl
  | @star inside tokens text apart rest ih =>
    intro s more outside hmore
    obtain ⟨last, hread⟩ := ih ⟨s.groups, .star :: s.tokens, some '*'⟩ more outside hmore
    have hnext : (text ++ more).head? ≠ some '*' := by
      cases text with
      | nil => exact hmore
      | cons c text => exact apart
    refine ⟨last, ?_⟩
    rw [List.cons_append, readFrom_star hnext, hread, List.reverse_cons, List.append_assoc]
    rfl
  | @alternates inside branches tokens text more group rest ihGroup ihRest =>
    intro s after outside hafter
    obtain ⟨last, hgroup⟩ := ihGroup ⟨[], s.tokens⟩ s.groups (some '{') (more ++ after)
    obtain ⟨last', hrest⟩ :=
      ihRest ⟨s.groups, .alternates branches :: s.tokens, last⟩ after outside hafter
    refine ⟨last', ?_⟩
    rw [List.cons_append, List.append_assoc, List.cons_append, readFrom_open, hgroup,
      List.reverse_nil, List.nil_append, hrest, List.reverse_cons, List.append_assoc]
    rfl
  | @last branch text only ih =>
    intro g groups last more
    obtain ⟨last', hread⟩ := ih ⟨g :: groups, [], last⟩ ('}' :: more) nofun (by simp)
    refine ⟨some '}', ?_⟩
    rw [hread, readFrom_close, List.append_nil, List.reverse_reverse, List.reverse_cons]
  | @branch branch branches text more first rest ihFirst ihRest =>
    intro g groups last after
    obtain ⟨last', hfirst⟩ :=
      ihFirst ⟨g :: groups, [], last⟩ (',' :: (more ++ '}' :: after)) nofun (by simp)
    obtain ⟨last'', hrest⟩ := ihRest ⟨branch :: g.branches, g.before⟩ groups (some ',') after
    refine ⟨last'', ?_⟩
    rw [List.append_assoc, List.cons_append, hfirst, readFrom_comma, List.append_nil,
      List.reverse_reverse, hrest, List.reverse_cons, List.append_assoc]
    rfl

/-- A pattern is read into the tokens that it spells. -/
theorem ofText_spelled (h : Spelled (.tokens false tokens) pattern.toList) :
    ofText pattern = .ok ⟨tokens⟩ := by
  obtain ⟨last, hread⟩ := h.reads ⟨[], [], none⟩ [] (fun _ => rfl) nofun
  rw [List.append_nil, List.append_nil] at hread
  rw [ofText, hread, readFrom]
  simp [Except.map]

theorem Spelled.unique {tokens' : List GlobToken} (h : Spelled (.tokens false tokens) text)
    (h' : Spelled (.tokens false tokens') text) : tokens' = tokens := by
  rw [← String.toList_ofList (l := text)] at h h'
  exact (Glob.mk.inj (Except.ok.inj ((ofText_spelled h).symm.trans (ofText_spelled h')))).symm

end Flaky.Glob
