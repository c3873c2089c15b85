-- SUMMARY: An engine's output that is cut short is never read as finished, and no report is read from it that the whole does not deliver.
import Flaky.Engine.Command
import Flaky.Proofs.EngineOutput
import Flaky.Proofs.Json.Whole

/-!
# Output that is cut short

An engine may be killed at any character of its output. The lines before the one that is
cut are read as in the whole. The line that is cut is no event any more, unless white
space is all that is missing from it: an event line is a JSON object, and no beginning of
an object is one. So a cut output is unfinished or ends with a line that cannot be read,
until the closing brace of the event that finishes the output is written.
-/

namespace Flaky

open Json (Raw)

/-! ## Event lines that are cut -/

theorem Text.isBlank_of_isSpace {c : Char} (h : Raw.isSpace c = true) : isBlank c = true := by
  simp only [Raw.isSpace, Bool.or_eq_true, beq_iff_eq] at h
  rcases h with ((rfl | rfl) | rfl) | rfl <;> rfl

namespace EngineOutput

open EngineEvent (Means)

variable {n : Nat} {line last more part cs rest : List Char} {event event' : EngineEvent}
variable {before after lines parts : List (List Char)} {report : Report}

theorem isEventLine_iff : isEventLine line = true ↔ ∃ body, line = '\x7b' :: body := by
  cases line with
  | nil => simp [isEventLine]
  | cons c body => simp [isEventLine]

theorem isEventLine_trim_append (rest : List Char) (h : isEventLine (Text.trim cs) = true) :
    isEventLine (Text.trim (cs ++ rest)) = true := by
  obtain ⟨body, hbody⟩ := isEventLine_iff.mp h
  obtain ⟨more, hmore⟩ := Text.trim_prefix cs rest
  rw [hbody] at hmore
  exact isEventLine_iff.mpr ⟨body ++ more, hmore.symm⟩

/-- An event line ends with its closing brace. -/
theorem getLast?_of_means (hevent : isEventLine (Text.trim cs) = true)
    (meant : Means (Text.trim cs) event) : (Text.trim cs).getLast? = some '}' := by
  obtain ⟨body, hbody⟩ := isEventLine_iff.mp hevent
  obtain ⟨fields, hobject, -⟩ := meant
  have hne : Text.trim cs ≠ [] := fun hnil => by rw [hnil] at hbody; cases hbody
  have hlast := List.getLast?_eq_some_getLast hne
  have hspace : Raw.isSpace ((Text.trim cs).getLast hne) = false := by
    rw [← Bool.not_eq_true]
    intro hspace
    have hblank := Text.trim_getLast hlast
    rw [Text.isBlank_of_isSpace hspace] at hblank
    cases hblank
  have hbrace : (Text.trim cs).getLast hne = '}' :=
    Raw.getLast?_of_ofChars? (hbody ▸ hobject) (hbody ▸ hlast) hspace
  rw [hlast, hbrace]

/-- If an event line that is cut is still an event, only white space is missing from it. -/
theorem trim_eq_of_means (hevent : isEventLine (Text.trim cs) = true)
    (meant : Means (Text.trim cs) event) (meant' : Means (Text.trim (cs ++ rest)) event') :
    Text.trim (cs ++ rest) = Text.trim cs := by
  obtain ⟨body, hbody⟩ := isEventLine_iff.mp hevent
  obtain ⟨more, hmore⟩ := Text.trim_prefix cs rest
  obtain ⟨fields, hobject, -⟩ := meant
  obtain ⟨fields', hobject', -⟩ := meant'
  have hblank : Json.Blank more := by
    rw [← hmore, hbody] at hobject'
    exact Raw.blank_of_ofChars? (hbody ▸ hobject) hobject'
  rcases List.eq_nil_or_concat more with rfl | ⟨init, c, rfl⟩
  · rw [← hmore, List.append_nil]
  · have hlast : (Text.trim (cs ++ rest)).getLast? = some c := by
      rw [← hmore, List.concat_eq_append, ← List.append_assoc, List.getLast?_concat]
    have hspace : Raw.isSpace c = true := hblank c (by simp)
    have hc := Text.trim_getLast hlast
    rw [Text.isBlank_of_isSpace hspace] at hc
    cases hc

/-! ## Line by line -/

theorem read_eq_parts (output : String) :
    read output = readLines 1 ((Text.splitAt '\n' output.toList).map Text.trim) := by
  refine read_eq_iff.mpr ?_
  rw [eventLines_eq]
  exact readLines_delivers 1 _

theorem readLines_ordinary (h : isEventLine line = false) :
    readLines n (line :: lines) = readLines (n + 1) lines := by
  rw [readLines, h]
  rfl

theorem readLines_report (h : isEventLine line = true) (meant : Means line (.report report)) :
    readLines n (line :: lines) =
      (report :: (readLines (n + 1) lines).1, (readLines (n + 1) lines).2) := by
  rw [readLines, if_pos h, EngineEvent.ofLine?_eq_some_iff.mpr meant]

theorem readLines_finished (h : isEventLine line = true) (meant : Means line .finished) :
    readLines n (line :: lines) = ([], .finished) := by
  rw [readLines, if_pos h, EngineEvent.ofLine?_eq_some_iff.mpr meant]

theorem readLines_malformed (h : isEventLine line = true) (silent : ∀ event, ¬ Means line event) :
    readLines n (line :: lines) = ([], .malformed n (String.ofList line)) := by
  have hnone : EngineEvent.ofLine? line = none :=
    Option.eq_none_iff_forall_ne_some.mpr fun event hevent =>
      silent event (EngineEvent.ofLine?_eq_some_iff.mp hevent)
  rw [readLines, if_pos h, hnone]

/-- The reading met no failure. -/
def Regular (ending : OutputEnd) : Prop := ending = .finished ∨ ending = .unfinished

/-- What a line is where the reading meets no failure. -/
inductive Kind (line : List Char) : Prop
  | ordinary (h : isEventLine line = false)
  | report {report : Report} (h : isEventLine line = true) (meant : Means line (.report report))
  | finished (h : isEventLine line = true) (meant : Means line .finished)

theorem Kind.of_regular (whole : Regular (readLines n (line :: lines)).2) : Kind line := by
  cases h : isEventLine line with
  | false => exact .ordinary h
  | true =>
    cases hmeans : EngineEvent.ofLine? line with
    | none =>
      rw [readLines, if_pos h, hmeans] at whole
      rcases whole with hend | hend <;> cases hend
    | some event =>
      have meant := EngineEvent.ofLine?_eq_some_iff.mp hmeans
      cases event with
      | report report => exact .report h meant
      | finished => exact .finished h meant
      | aborted reason =>
        rw [readLines, if_pos h, hmeans] at whole
        rcases whole with hend | hend <;> cases hend

/-- A line adds reports to those of the lines after it, and nothing else. -/
def Adds (line : List Char) (delivered : List Report) : Prop :=
  ∀ n lines, readLines n (line :: lines) =
    (delivered ++ (readLines (n + 1) lines).1, (readLines (n + 1) lines).2)

/-- Where the reading meets no failure, a line that does not finish only adds to the reports. -/
theorem Kind.adds (kind : Kind line) :
    (∃ delivered, Adds line delivered) ∨ (isEventLine line = true ∧ Means line .finished) := by
  cases kind with
  | ordinary h => exact .inl ⟨[], fun n lines => readLines_ordinary h⟩
  | @report report h meant => exact .inl ⟨[report], fun n lines => readLines_report h meant⟩
  | finished h meant => exact .inr ⟨h, meant⟩

theorem readLines_one_finished :
    (readLines n [line]).2 = .finished ↔ isEventLine line = true ∧ Means line .finished := by
  constructor
  · intro h
    cases Kind.of_regular (.inl h) with
    | ordinary hordinary =>
      rw [readLines_ordinary hordinary] at h
      cases h
    | report hevent meant =>
      rw [readLines_report hevent meant] at h
      cases h
    | finished hevent meant => exact ⟨hevent, meant⟩
  · rintro ⟨hevent, meant⟩
    rw [readLines_finished hevent meant]

/-! ## What a cut output delivers -/

/-- How an output is read that is cut, against the whole: all of the whole is read that counts, or
some of its reports without a finish. -/
inductive CutFrom (whole : List Report × OutputEnd) : List Report × OutputEnd → Prop
  | complete (finished : whole.2 = .finished) : CutFrom whole whole
  | incomplete {reports : List Report} (delivered : reports <+: whole.1) :
    CutFrom whole (reports, .unfinished)
  | malformed {reports : List Report} {n : Nat} {line : String} (delivered : reports <+: whole.1) :
    CutFrom whole (reports, .malformed n line)

theorem CutFrom.reports {whole cut : List Report × OutputEnd} (h : CutFrom whole cut) :
    cut.1 <+: whole.1 := by
  cases h with
  | complete => exact List.prefix_refl _
  | incomplete delivered => exact delivered
  | malformed delivered => exact delivered

theorem CutFrom.append {whole cut : List Report × OutputEnd} (delivered : List Report)
    (h : CutFrom whole cut) :
    CutFrom (delivered ++ whole.1, whole.2) (delivered ++ cut.1, cut.2) := by
  cases h with
  | complete finished => exact .complete finished
  | incomplete some => exact .incomplete ((List.prefix_append_right_inj delivered).mpr some)
  | malformed some => exact .malformed ((List.prefix_append_right_inj delivered).mpr some)

/-- The line that is cut is ordinary, is the event that it was, or cannot be read. -/
theorem readLines_cutLine (whole : Regular (readLines n (Text.trim (last ++ more) :: lines)).2) :
    CutFrom (readLines n (Text.trim (last ++ more) :: lines)) (readLines n [Text.trim last]) := by
  cases hevent : isEventLine (Text.trim last) with
  | false =>
    rw [readLines_ordinary hevent]
    exact .incomplete List.nil_prefix
  | true =>
    by_cases hmeans : ∃ event, Means (Text.trim last) event
    · obtain ⟨event, meant⟩ := hmeans
      cases Kind.of_regular whole with
      | ordinary hordinary =>
        rw [isEventLine_trim_append more hevent] at hordinary
        cases hordinary
      | report hwhole meant' =>
        rw [readLines_report hwhole meant']
        rw [trim_eq_of_means hevent meant meant'] at meant'
        rw [readLines_report hevent meant']
        exact .incomplete (List.cons_prefix_cons.mpr ⟨rfl, List.nil_prefix⟩)
      | finished hwhole meant' =>
        rw [readLines_finished hwhole meant']
        rw [trim_eq_of_means hevent meant meant'] at meant'
        rw [readLines_finished hevent meant']
        exact .complete rfl
    · rw [readLines_malformed hevent fun event meant => hmeans ⟨event, meant⟩]
      exact .malformed List.nil_prefix

/-- The lines before the one that is cut are read as in the whole. -/
theorem readLines_cut
    (whole : Regular (readLines n ((before ++ (last ++ more) :: after).map Text.trim)).2) :
    CutFrom (readLines n ((before ++ (last ++ more) :: after).map Text.trim))
      (readLines n ((before ++ [last]).map Text.trim)) := by
  induction before generalizing n with
  | nil => exact readLines_cutLine whole
  | cons part before ih =>
    rw [List.cons_append, List.map_cons] at whole ⊢
    rw [List.cons_append, List.map_cons]
    rcases (Kind.of_regular whole).adds with ⟨delivered, adds⟩ | ⟨hevent, meant⟩
    · rw [adds] at whole ⊢
      rw [adds]
      exact (ih whole).append delivered
    · rw [readLines_finished hevent meant, readLines_finished hevent meant]
      exact .complete rfl

/-! ## Where an output is finished -/

/-- A part says that the engine finished. -/
def Finishes (part : List Char) : Prop :=
  isEventLine (Text.trim part) = true ∧ Means (Text.trim part) .finished

instance : DecidablePred Finishes := fun part => decidable_of_iff
  (isEventLine (Text.trim part) = true ∧ EngineEvent.ofLine? (Text.trim part) = some .finished)
  (and_congr_right fun _ => EngineEvent.ofLine?_eq_some_iff)

/-- The parts of a text up to the closing brace in the first that says that the engine finished. -/
def finishMark : List (List Char) → List Char
  | [] => []
  | part :: parts =>
    if Finishes part then Text.trimEnd part else part ++ '\n' :: finishMark parts

theorem finishMark_finishes (h : Finishes part) :
    finishMark (part :: parts) = Text.trimEnd part := by
  rw [finishMark, if_pos h]

theorem finishMark_later (h : ¬ Finishes part) :
    finishMark (part :: parts) = part ++ '\n' :: finishMark parts := by
  rw [finishMark, if_neg h]

theorem Finishes.cut (h : Finishes last) (hwhole : Means (Text.trim (last ++ more)) event) :
    Finishes (last ++ more) ∧ Text.IsBlank more := by
  have hsame := trim_eq_of_means h.1 h.2 hwhole
  have hne : Text.trimStart last ≠ [] := by
    intro hnil
    obtain ⟨body, hbody⟩ := isEventLine_iff.mp h.1
    rw [Text.trim_of_blank (Text.trimStart_eq_nil.mp hnil)] at hbody
    cases hbody
  refine ⟨?_, (Text.trim_append_eq_iff hne).mp hsame.symm⟩
  rw [Finishes, hsame]
  exact h

theorem finishMark_beyond (h : ¬ Finishes (last ++ more)) :
    ¬ finishMark ((last ++ more) :: parts) <+: last := by
  rw [finishMark_later h]
  intro hprefix
  have hlength := hprefix.length_le
  simp only [List.length_append, List.length_cons] at hlength
  omega

/-- A line that is cut still finishes the output if its closing brace is there. -/
theorem readLines_cutLine_finished
    (whole : Regular (readLines n (Text.trim (last ++ more) :: lines)).2) :
    (readLines n [Text.trim last]).2 = .finished ↔
      finishMark ((last ++ more) :: parts) <+: last := by
  rw [readLines_one_finished]
  by_cases hfinishes : Finishes (last ++ more)
  · rw [finishMark_finishes hfinishes, Text.trimEnd_prefix_iff]
    constructor
    · exact fun h => (Finishes.cut h hfinishes.2).2
    · intro hblank
      rw [Finishes, Text.trim_append_blank hblank] at hfinishes
      exact hfinishes
  · refine iff_of_false (fun h => hfinishes ?_) (finishMark_beyond hfinishes)
    have hwhole := isEventLine_trim_append more h.1
    cases Kind.of_regular whole with
    | ordinary hordinary =>
      rw [hwhole] at hordinary
      cases hordinary
    | report _ meant => exact (Finishes.cut h meant).1
    | finished _ meant => exact ⟨hwhole, meant⟩

theorem intercalate_cons (part : List Char) (hne : parts ≠ []) :
    ['\n'].intercalate (part :: parts) = part ++ '\n' :: ['\n'].intercalate parts := by
  rw [List.intercalate_cons_of_ne_nil hne, List.append_assoc, List.singleton_append]

/-- A cut output is finished exactly if the whole is and the closing brace is there. -/
theorem readLines_cut_finished
    (whole : Regular (readLines n ((before ++ (last ++ more) :: after).map Text.trim)).2) :
    (readLines n ((before ++ [last]).map Text.trim)).2 = .finished ↔
      finishMark (before ++ (last ++ more) :: after) <+: ['\n'].intercalate (before ++ [last]) := by
  induction before generalizing n with
  | nil =>
    rw [List.nil_append, List.intercalate_singleton]
    exact readLines_cutLine_finished whole
  | cons part before ih =>
    have hne : before ++ [last] ≠ [] := List.append_ne_nil_of_right_ne_nil _ (List.cons_ne_nil _ _)
    rw [List.cons_append, List.map_cons] at whole
    rw [List.cons_append, List.cons_append, List.map_cons, intercalate_cons part hne]
    by_cases hfinishes : Finishes part
    · rw [readLines_finished hfinishes.1 hfinishes.2, finishMark_finishes hfinishes]
      exact iff_of_true rfl ((List.rdropWhile_prefix _ part).trans (List.prefix_append _ _))
    · rw [finishMark_later hfinishes, List.prefix_append_right_inj, List.cons_prefix_cons,
        and_iff_right rfl]
      rcases (Kind.of_regular whole).adds with ⟨delivered, adds⟩ | finishes
      · rw [adds] at whole ⊢
        exact ih whole
      · exact absurd finishes hfinishes

/-- The event that finishes an output: the lines before it, the white space before it in its line,
and its text. -/
structure FinishedBy (output opened gap line : List Char) : Prop where
  opens : OpensLine opened
  unfinished : (read (String.ofList opened)).2 = .unfinished
  blank : Text.IsBlank gap
  among : line ∈ eventTexts output
  meant : Means line .finished
  closing : line.getLast? = some '}'

theorem opensLine_part {opened : List Char} (h : OpensLine opened) (part : List Char) :
    OpensLine (part ++ '\n' :: opened) := by
  rcases h with rfl | ⟨lines, rfl⟩
  · exact .inr ⟨part, rfl⟩
  · exact .inr ⟨part ++ '\n' :: lines, by simp⟩

/-- Parts that are read as finished have the event at their mark. -/
theorem finishMark_event (unbroken : ∀ part ∈ parts, '\n' ∉ part)
    (finished : (readLines n (parts.map Text.trim)).2 = .finished) :
    ∃ opened gap part, finishMark parts = opened ++ (gap ++ Text.trim part) ∧ OpensLine opened ∧
      (readLines n ((Text.splitAt '\n' opened).map Text.trim)).2 = .unfinished ∧
      Text.IsBlank gap ∧ part ∈ parts ∧ Finishes part := by
  induction parts generalizing n with
  | nil => cases finished
  | cons part parts ih =>
    obtain ⟨hpart, hparts⟩ := List.forall_mem_cons.mp unbroken
    by_cases hfinishes : Finishes part
    · obtain ⟨gap, hgap, htrim⟩ := Text.trimEnd_eq_append part
      rw [finishMark_finishes hfinishes, htrim]
      exact ⟨[], gap, part, rfl, .inl rfl, rfl, hgap, List.mem_cons_self, hfinishes⟩
    · rcases (Kind.of_regular (.inl finished)).adds with ⟨delivered, adds⟩ | finishes
      · rw [List.map_cons, adds] at finished
        obtain ⟨opened, gap, last, hmark, hopens, hunfinished, hgap, hmem, hlast⟩ :=
          ih hparts finished
        refine ⟨part ++ '\n' :: opened, gap, last, ?_, opensLine_part hopens part, ?_, hgap,
          List.mem_cons_of_mem _ hmem, hlast⟩
        · rw [finishMark_later hfinishes, hmark, List.append_assoc, List.cons_append]
        · rw [Text.splitAt_append, Text.splitAt_of_not_mem hpart, List.singleton_append,
            List.map_cons, adds]
          exact hunfinished
      · exact absurd finishes hfinishes

/-! ## Cut outputs -/

theorem intercalate_splitAt (cs : List Char) : ['\n'].intercalate (Text.splitAt '\n' cs) = cs := by
  rw [Text.splitAt_eq_splitOn, List.intercalate_splitOn]

theorem exists_finishedBy {output : String} (finished : (read output).2 = .finished) :
    ∃ opened gap line, FinishedBy output.toList opened gap line ∧
      finishMark (Text.splitAt '\n' output.toList) = opened ++ (gap ++ line) := by
  rw [read_eq_parts] at finished
  obtain ⟨opened, gap, part, hmark, hopens, hunfinished, hgap, hpart, hevent, meant⟩ :=
    finishMark_event (fun part => Text.not_mem_of_mem_splitAt) finished
  refine ⟨opened, gap, Text.trim part, ?_, hmark⟩
  refine ⟨hopens, ?_, hgap, ?_, meant, getLast?_of_means hevent meant⟩
  · rw [read_eq_parts, String.toList_ofList]
    exact hunfinished
  · exact List.mem_filter.mpr ⟨List.mem_map_of_mem hpart, hevent⟩

/-- How an output is read that is cut, in terms of its parts. -/
theorem read_cut_parts {output cut : String} (whole : Regular (read output).2)
    (hcut : cut.toList <+: output.toList) :
    CutFrom (read output) (read cut) ∧
      ((read cut).2 = .finished ↔
        finishMark (Text.splitAt '\n' output.toList) <+: cut.toList) := by
  obtain ⟨rest, hrest⟩ := hcut
  obtain ⟨before, last, more, after, hparts, hwhole, -⟩ := @Text.splitAt_cut '\n' cut.toList rest
  rw [hrest] at hwhole
  have htext := intercalate_splitAt cut.toList
  rw [read_eq_parts output, hwhole] at whole ⊢
  rw [read_eq_parts cut, hparts]
  rw [hparts] at htext
  have hfinished := readLines_cut_finished whole
  rw [htext] at hfinished
  exact ⟨readLines_cut whole, hfinished⟩

/-- What the engine did whose output was cut without being finished: it failed. -/
theorem CutFrom.failure {output cut : String} (h : CutFrom (read output) (read cut))
    (hcut : (read cut).2 ≠ .finished) (status : ExitStatus) :
    (EngineRun.ofOutput cut status).failure = some (.incomplete status.code?) ∨
      ∃ n line, (EngineRun.ofOutput cut status).failure =
        some (.protocol n line EngineRun.protocolCause) := by
  rw [EngineRun.ofOutput]
  generalize read cut = delivered at h hcut
  cases h with
  | complete finished => exact absurd finished hcut
  | incomplete => exact .inl rfl
  | malformed => exact .inr ⟨_, _, rfl⟩

theorem reports_ofOutput (output : String) (status : ExitStatus) :
    (EngineRun.ofOutput output status).reports = (read output).1 := by
  rw [EngineRun.ofOutput]
  split <;> rename_i heq <;> rw [heq]

/-- If an output is read without a failure, every beginning of it is read as a part of it. It is
finished only if the whole is and all of the finishing event is there, up to its closing brace; else
the engine fails, as one that did not finish or with a line that is no event. -/
theorem read_cut (output : String) (whole : Regular (read output).2) :
    (∀ cut : String, cut.toList <+: output.toList → CutFrom (read output) (read cut)) ∧
    ((read output).2 = .finished →
      ∃ opened gap line, FinishedBy output.toList opened gap line ∧
        ∀ cut : String, cut.toList <+: output.toList →
          ((read cut).2 = .finished ↔ opened ++ (gap ++ line) <+: cut.toList)) ∧
    ∀ cut : String, cut.toList <+: output.toList → (read cut).2 ≠ .finished →
      ∀ status, (EngineRun.ofOutput cut status).reports <+:
          (EngineRun.ofOutput output status).reports ∧
        ((EngineRun.ofOutput cut status).failure = some (.incomplete status.code?) ∨
          ∃ n line, (EngineRun.ofOutput cut status).failure =
            some (.protocol n line EngineRun.protocolCause)) := by
  refine ⟨fun cut hcut => (read_cut_parts whole hcut).1, ?_, ?_⟩
  · intro finished
    obtain ⟨opened, gap, line, hby, hmark⟩ := exists_finishedBy finished
    refine ⟨opened, gap, line, hby, fun cut hcut => ?_⟩
    rw [← hmark]
    exact (read_cut_parts whole hcut).2
  · intro cut hcut hunfinished status
    have hfrom := (read_cut_parts whole hcut).1
    rw [reports_ofOutput, reports_ofOutput]
    exact ⟨hfrom.reports, hfrom.failure hunfinished status⟩

/-- The output of an engine that finishes after some noise. -/
theorem read_cut_noise :
    (read "building\n \x7b\"event\":\"finished\"\x7d\n").2 = .finished ∧
      ∀ cut : String, cut.toList <+: "building\n \x7b\"event\":\"finished\"\x7d\n".toList →
        CutFrom (read "building\n \x7b\"event\":\"finished\"\x7d\n") (read cut) :=
  ⟨by decide +kernel, (read_cut _ (.inl (by decide +kernel))).1⟩

end EngineOutput

end Flaky
