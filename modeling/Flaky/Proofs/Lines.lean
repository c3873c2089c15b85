-- SUMMARY: Cutting a text at a separator undoes putting parts together with it.
import Flaky.Text.Lines

/-!
# Cutting and joining
-/

namespace Flaky.Text

variable {sep : Char}

theorem splitAt_ne_nil (cs : List Char) : splitAt sep cs ≠ [] := by
  cases cs with
  | nil => simp [splitAt]
  | cons c rest =>
    rw [splitAt]
    split
    · simp
    · split <;> simp

theorem splitAt_of_not_mem {cs : List Char} (h : sep ∉ cs) : splitAt sep cs = [cs] := by
  induction cs with
  | nil => rfl
  | cons c rest ih =>
    rw [List.mem_cons, not_or] at h
    rw [splitAt, if_neg (Ne.symm h.1), ih h.2]

theorem splitAt_append (first rest : List Char) :
    splitAt sep (first ++ sep :: rest) = splitAt sep first ++ splitAt sep rest := by
  induction first with
  | nil => simp [splitAt]
  | cons c first ih =>
    rw [List.cons_append, splitAt, splitAt, ih]
    split
    case isTrue => rfl
    case isFalse =>
      obtain ⟨part, parts, hparts⟩ := List.exists_cons_of_ne_nil (@splitAt_ne_nil sep first)
      rw [hparts]
      rfl

/-- Where a text is cut, one of its parts is cut. -/
theorem splitAt_cut (cs rest : List Char) :
    ∃ before last more after, splitAt sep cs = before ++ [last] ∧
      splitAt sep (cs ++ rest) = before ++ (last ++ more) :: after ∧
      splitAt sep rest = more :: after := by
  induction cs with
  | nil =>
    obtain ⟨more, after, hrest⟩ := List.exists_cons_of_ne_nil (@splitAt_ne_nil sep rest)
    exact ⟨[], [], more, after, rfl, hrest, hrest⟩
  | cons c cs ih =>
    obtain ⟨before, last, more', after', hcs, hwhole, hrest'⟩ := ih
    rw [List.cons_append, splitAt, splitAt, hcs, hwhole]
    by_cases hc : c = sep
    · rw [if_pos hc, if_pos hc]
      exact ⟨[] :: before, last, more', after', rfl, rfl, hrest'⟩
    · rw [if_neg hc, if_neg hc]
      cases before with
      | nil => exact ⟨[], c :: last, more', after', rfl, rfl, hrest'⟩
      | cons part before => exact ⟨(c :: part) :: before, last, more', after', rfl, rfl, hrest'⟩

/-! ## Lines -/

/-- A text is made of lines, each with a separator at its end, and of what comes after the last
of them. -/
structure Lined (sep : Char) (text : List Char) (lines : List (List Char)) (tail : List Char) :
    Prop where
  text_eq : text = lines.flatMap (· ++ [sep]) ++ tail
  lines_free : ∀ line ∈ lines, sep ∉ line
  tail_free : sep ∉ tail

namespace Lined

variable {text tail : List Char} {lines : List (List Char)}

theorem nil (h : sep ∉ tail) : Lined sep tail [] tail :=
  ⟨rfl, fun _ hline => (List.not_mem_nil hline).elim, h⟩

theorem cons {line : List Char} (hline : sep ∉ line) (h : Lined sep text lines tail) :
    Lined sep (line ++ sep :: text) (line :: lines) tail where
  text_eq := by simp [h.text_eq]
  lines_free := List.forall_mem_cons.mpr ⟨hline, h.lines_free⟩
  tail_free := h.tail_free

/-- Cutting gives the lines and what comes after them. -/
theorem splitAt_eq (h : Lined sep text lines tail) : splitAt sep text = lines ++ [tail] := by
  obtain ⟨rfl, hline, htail⟩ := h
  induction lines with
  | nil => exact splitAt_of_not_mem htail
  | cons line lines ih =>
    rw [List.forall_mem_cons] at hline
    rw [List.flatMap_cons, List.append_assoc, List.append_assoc, List.singleton_append,
      splitAt_append, splitAt_of_not_mem hline.1, ih hline.2]
    rfl

/-- Every text is lines and something after them. -/
theorem exists_lined (sep : Char) (text : List Char) : ∃ lines tail, Lined sep text lines tail := by
  induction text with
  | nil => exact ⟨[], [], nil List.not_mem_nil⟩
  | cons c text ih =>
    obtain ⟨lines, tail, h⟩ := ih
    by_cases hc : c = sep
    · exact ⟨[] :: lines, tail, hc ▸ h.cons List.not_mem_nil⟩
    · have hnot : ∀ {cs}, sep ∉ cs → sep ∉ c :: cs := fun hcs =>
        List.not_mem_cons_of_ne_of_not_mem (Ne.symm hc) hcs
      cases lines with
      | nil =>
        have htext : text = tail := h.text_eq
        rw [htext]
        exact ⟨[], c :: tail, nil (hnot h.tail_free)⟩
      | cons line lines =>
        obtain ⟨rfl, hline, htail⟩ := h
        rw [List.forall_mem_cons] at hline
        exact ⟨(c :: line) :: lines, tail, by simp, List.forall_mem_cons.mpr
          ⟨hnot hline.1, hline.2⟩, htail⟩

end Lined

/-! ## Joined parts -/

theorem splitAt_eq_splitOn (cs : List Char) : splitAt sep cs = cs.splitOn sep := by
  induction cs with
  | nil => rw [List.splitOn_nil, splitAt]
  | cons c rest ih =>
    have hcons : (c :: rest).splitOn sep =
        if c = sep then [] :: rest.splitOn sep
        else (rest.splitOn sep).modifyHead (c :: ·) := by
      simp only [List.splitOn_eq_splitOnP, List.splitOnP_cons_eq_if_modifyHead, beq_iff_eq]
    rw [splitAt, ih, hcons]
    split
    · rfl
    · cases h : rest.splitOn sep with
      | nil => exact absurd h (ih ▸ splitAt_ne_nil rest)
      | cons part parts => rfl

theorem not_mem_of_mem_splitAt {cs part : List Char} (h : part ∈ splitAt sep cs) : sep ∉ part := by
  obtain ⟨lines, tail, hlined⟩ := Lined.exists_lined sep cs
  rw [hlined.splitAt_eq, List.mem_append, List.mem_singleton] at h
  rcases h with h | rfl
  · exact hlined.lines_free part h
  · exact hlined.tail_free

/-- Cutting gives back the parts that were joined exactly if none of them holds the separator. -/
theorem splitAt_intercalate_iff {parts : List (List Char)} (hne : parts ≠ []) :
    splitAt sep ([sep].intercalate parts) = parts ↔ ∀ part ∈ parts, sep ∉ part := by
  constructor
  · intro h part hpart
    rw [← h] at hpart
    exact not_mem_of_mem_splitAt hpart
  · intro h
    rw [splitAt_eq_splitOn]
    exact List.splitOn_intercalate sep h hne

end Flaky.Text
