-- SUMMARY: Which lines of an engine's output count, and what they deliver: the events up to the first that ends the round, whatever stands around them.
import Flaky.Engine.Event
import Flaky.Proofs.Lines
import Flaky.Proofs.Trim
import Mathlib.Logic.Relation

/-!
# Reading engine output

Only the event lines of an output count. Each delivers its report, up to the first that
ends the reading; no line after that one is looked at. So outputs that differ in ordinary
lines, in white space around lines, in the form of line breaks or in what follows the end
are read alike. All that can differ is the number of a line that is no event.
-/

namespace Flaky

/-! ## Events -/

namespace EngineEvent

open Json (Raw)

/-- The fields of an event tell its test. -/
structure TellsTest (fields : List (Option String × Raw)) (test : Test) : Prop where
  className : Raw.field? "class" Raw.string? fields = some test.id.className
  method : Raw.field? "method" Raw.string? fields = some test.id.method
  annotations : Raw.fieldOr? "annotations" [] Raw.strings? fields = some test.annotations

/-- The fields of an event tell what it is. -/
inductive Tells (fields : List (Option String × Raw)) : EngineEvent → Prop
  | passed {test : Test} (tag : Raw.field? tagKey Raw.string? fields = some "passed")
    (about : TellsTest fields test) : Tells fields (.report (.passed test))
  | failed {test : Test} {cause : FailureKind} {message : Option String}
    (tag : Raw.field? tagKey Raw.string? fields = some "failed") (about : TellsTest fields test)
    (because : Raw.fieldOr? "kind" .assertion (Raw.variant? isVoid FailureKind.ofName?) fields =
      some cause)
    (saying : Raw.fieldOr? "message" none (Raw.optional? Raw.string?) fields = some message) :
    Tells fields (.report (.failed test cause message))
  | skipped {test : Test} (tag : Raw.field? tagKey Raw.string? fields = some "skipped")
    (about : TellsTest fields test) : Tells fields (.report (.skipped test))
  | aborted {reason : String} (tag : Raw.field? tagKey Raw.string? fields = some "aborted")
    (because : Raw.field? "reason" Raw.string? fields = some reason) :
    Tells fields (.aborted reason)
  | finished (tag : Raw.field? tagKey Raw.string? fields = some "finished") : Tells fields .finished

/-- A line means an event: it is a JSON object whose fields tell the event. -/
def Means (line : List Char) (event : EngineEvent) : Prop :=
  ∃ fields, Raw.ofChars? line = some (.object fields) ∧
    (Raw.object fields).buildable Raw.nestingLimit = true ∧ Tells fields event

section

variable {fields : List (Option String × Raw)} {kind key : String} {event : EngineEvent}

/-- The kind of an event tells nothing about its other fields. -/
theorem valuesAt_untagged (h : key ≠ tagKey) :
    Raw.valuesAt key (fields.filter fun f => f.1 ≠ some tagKey) = Raw.valuesAt key fields := by
  rw [Raw.valuesAt, List.filterMap_filter]
  refine List.filterMap_congr fun field _ => ?_
  obtain ⟨name, value⟩ := field
  by_cases hname : name = some key
  · simp [hname, h]
  · simp [hname]

theorem field?_untagged {α : Type} {read : Raw → Option α} (h : key ≠ tagKey) :
    Raw.field? key read (fields.filter fun f => f.1 ≠ some tagKey) =
      Raw.field? key read fields := by
  rw [Raw.field?, Raw.field?, valuesAt_untagged h]

theorem fieldOr?_untagged {α : Type} {missing : α} {read : Raw → Option α} (h : key ≠ tagKey) :
    Raw.fieldOr? key missing read (fields.filter fun f => f.1 ≠ some tagKey) =
      Raw.fieldOr? key missing read fields := by
  rw [Raw.fieldOr?, Raw.fieldOr?, valuesAt_untagged h]

theorem testOf?_eq_some_iff {test : Test} :
    testOf? (fields.filter fun f => f.1 ≠ some tagKey) = some test ↔ TellsTest fields test := by
  rw [testOf?, field?_untagged (by decide), field?_untagged (by decide),
    fieldOr?_untagged (by decide)]
  constructor
  · intro h
    simp only [Option.bind_eq_bind, Option.bind_eq_some_iff, Option.pure_def,
      Option.some.injEq] at h
    obtain ⟨className, hclass, method, hmethod, annotations, hannotations, rfl⟩ := h
    exact ⟨hclass, hmethod, hannotations⟩
  · rintro ⟨hclass, hmethod, hannotations⟩
    simp [hclass, hmethod, hannotations]

theorem ofFields?_eq_some_iff (hkind : Raw.field? tagKey Raw.string? fields = some kind) :
    ofFields? kind (fields.filter fun f => f.1 ≠ some tagKey) = some event ↔
      Tells fields event := by
  constructor
  · intro h
    unfold ofFields? at h
    split at h
    all_goals
      simp only [Option.bind_eq_bind, Option.bind_eq_some_iff, Option.pure_def, Option.some.injEq,
        reduceCtorEq] at h
    case h_1 =>
      obtain ⟨test, htest, rfl⟩ := h
      exact .passed hkind (testOf?_eq_some_iff.mp htest)
    case h_2 =>
      obtain ⟨test, htest, rfl⟩ := h
      exact .skipped hkind (testOf?_eq_some_iff.mp htest)
    case h_3 =>
      obtain ⟨test, htest, cause, hcause, message, hmessage, rfl⟩ := h
      rw [fieldOr?_untagged (by decide)] at hcause hmessage
      exact .failed hkind (testOf?_eq_some_iff.mp htest) hcause hmessage
    case h_4 =>
      obtain ⟨reason, hreason, rfl⟩ := h
      rw [field?_untagged (by decide)] at hreason
      exact .aborted hkind hreason
    case h_5 =>
      rw [← h]
      exact .finished hkind
  · intro h
    have same : ∀ {other}, Raw.field? tagKey Raw.string? fields = some other → kind = other :=
      fun hother => Option.some.inj (hkind.symm.trans hother)
    cases h with
    | passed tag about =>
      rw [same tag, ofFields?, testOf?_eq_some_iff.mpr about]
      rfl
    | skipped tag about =>
      rw [same tag, ofFields?, testOf?_eq_some_iff.mpr about]
      rfl
    | failed tag about because saying =>
      rw [same tag, ofFields?, testOf?_eq_some_iff.mpr about, fieldOr?_untagged (by decide),
        because, fieldOr?_untagged (by decide), saying]
      rfl
    | aborted tag because =>
      rw [same tag, ofFields?, field?_untagged (by decide), because]
      rfl
    | finished tag =>
      rw [same tag]
      rfl

/-- A line is read as the event that it means, and as none if it means none. -/
theorem ofLine?_eq_some_iff {line : List Char} : ofLine? line = some event ↔ Means line event := by
  rw [ofLine?, Option.bind_eq_some_iff]
  constructor
  · rintro ⟨raw, hraw, h⟩
    unfold ofRaw? at h
    split at h
    case h_1 fields =>
      split at h
      case isTrue hbuildable =>
        obtain ⟨kind, hkind, hevent⟩ := Option.bind_eq_some_iff.mp h
        exact ⟨fields, hraw, hbuildable, (ofFields?_eq_some_iff hkind).mp hevent⟩
      case isFalse => cases h
    case h_2 => cases h
  · rintro ⟨fields, hraw, hbuildable, htells⟩
    obtain ⟨kind, hkind⟩ : ∃ kind, Raw.field? tagKey Raw.string? fields = some kind := by
      cases htells <;> exact ⟨_, ‹_›⟩
    refine ⟨_, hraw, ?_⟩
    rw [ofRaw?, if_pos hbuildable, hkind, Option.bind_some]
    exact (ofFields?_eq_some_iff hkind).mpr htells

end

end EngineEvent

/-- How reading ended, whatever the number of the line that is no event. -/
def OutputEnd.unnumbered : OutputEnd → OutputEnd
  | .malformed _ line => .malformed 0 line
  | ending => ending

namespace EngineOutput

open EngineEvent (Means)

/-! ## Event lines -/

/-- The event lines among trimmed lines, the first of which has number `n`, each with its number. -/
def eventLinesFrom (n : Nat) (lines : List (List Char)) : List (List Char × Nat) :=
  (lines.zipIdx n).filter fun line => isEventLine line.1

/-- The event lines of an output without the white space around them, each with its number among
all lines. -/
def eventLines (output : String) : List (List Char × Nat) :=
  eventLinesFrom 1 ((Text.lines output.toList).map Text.trim)

section

variable {n : Nat} {line : List Char} {lines : List (List Char)}

@[simp] theorem eventLinesFrom_nil : eventLinesFrom n [] = [] := rfl

theorem eventLinesFrom_cons_event (h : isEventLine line = true) :
    eventLinesFrom n (line :: lines) = (line, n) :: eventLinesFrom (n + 1) lines := by
  rw [eventLinesFrom, List.zipIdx_cons, List.filter_cons_of_pos (by exact h)]
  rfl

theorem eventLinesFrom_cons_ordinary (h : isEventLine line = false) :
    eventLinesFrom n (line :: lines) = eventLinesFrom (n + 1) lines := by
  rw [eventLinesFrom, List.zipIdx_cons, List.filter_cons_of_neg (by simpa using h)]
  rfl

theorem eventLinesFrom_append (lines more : List (List Char)) : eventLinesFrom n (lines ++ more) =
    eventLinesFrom n lines ++ eventLinesFrom (n + lines.length) more := by
  rw [eventLinesFrom, List.zipIdx_append, List.filter_append]
  rfl

theorem eventLinesFrom_fst : (eventLinesFrom n lines).map Prod.fst = lines.filter isEventLine := by
  induction lines generalizing n with
  | nil => rfl
  | cons line lines ih =>
    cases h : isEventLine line with
    | true => rw [eventLinesFrom_cons_event h, List.map_cons, ih, List.filter_cons_of_pos h]
    | false => rw [eventLinesFrom_cons_ordinary h, ih, List.filter_cons_of_neg (by simpa using h)]

/-- The empty part after a last line break is no event line, and no event line ends with a carriage
return. -/
theorem eventLinesFrom_linesOf (parts : List (List Char)) :
    eventLinesFrom n ((Text.linesOf parts).map Text.trim) =
      eventLinesFrom n (parts.map Text.trim) := by
  induction parts generalizing n with
  | nil => rfl
  | cons part parts ih =>
    cases parts with
    | nil =>
      cases part with
      | nil => rfl
      | cons c part => rfl
    | cons next parts =>
      rw [Text.linesOf, List.map_cons, Text.trim_dropReturn, List.map_cons]
      · cases h : isEventLine (Text.trim part) with
        | true => rw [eventLinesFrom_cons_event h, ih, eventLinesFrom_cons_event h]
        | false => rw [eventLinesFrom_cons_ordinary h, ih, eventLinesFrom_cons_ordinary h]
      · exact nofun

theorem eventLines_eq (output : String) : eventLines output =
    eventLinesFrom 1 ((Text.splitAt '\n' output.toList).map Text.trim) :=
  eventLinesFrom_linesOf _

end

/-! ## What event lines deliver -/

/-- How an event line ends the reading. -/
inductive Ends (line : List Char) (n : Nat) : OutputEnd → Prop
  | finished (meant : Means line .finished) : Ends line n .finished
  | aborted {reason : String} (meant : Means line (.aborted reason)) : Ends line n (.aborted reason)
  | malformed (silent : ∀ event, ¬ Means line event) :
    Ends line n (.malformed n (String.ofList line))

/-- What event lines deliver, and how they end. -/
inductive Delivers : List (List Char × Nat) → List Report → OutputEnd → Prop
  | unfinished : Delivers [] [] .unfinished
  | ends {line : List Char} {n : Nat} {rest : List (List Char × Nat)} {ending : OutputEnd}
    (last : Ends line n ending) : Delivers ((line, n) :: rest) [] ending
  | report {line : List Char} {n : Nat} {rest : List (List Char × Nat)} {report : Report}
    {reports : List Report} {ending : OutputEnd} (meant : Means line (.report report))
    (later : Delivers rest reports ending) : Delivers ((line, n) :: rest) (report :: reports) ending

section

variable {n m : Nat} {line : List Char} {report : Report} {reports reports' : List Report}
variable {ending ending' : OutputEnd} {lines lines' more : List (List Char × Nat)}

theorem means_unique {event event' : EngineEvent} (h : Means line event) (h' : Means line event') :
    event' = event :=
  Option.some.inj ((EngineEvent.ofLine?_eq_some_iff.mpr h').symm.trans
    (EngineEvent.ofLine?_eq_some_iff.mpr h))

theorem Ends.not_report (h : Ends line n ending) : ¬ Means line (.report report) := by
  intro hreport
  cases h with
  | finished meant => cases means_unique meant hreport
  | aborted meant => cases means_unique meant hreport
  | malformed silent => exact silent _ hreport

/-- Lines with one text end the reading in one way, but for the number of a line that is no
event. -/
theorem Ends.alike (h : Ends line n ending) (h' : Ends line m ending') :
    ending'.unnumbered = ending.unnumbered ∧ (n = m → ending' = ending) := by
  cases h with
  | finished meant =>
    cases h' with
    | finished => exact ⟨rfl, fun _ => rfl⟩
    | aborted meant' => cases means_unique meant meant'
    | malformed silent => exact absurd meant (silent _)
  | aborted meant =>
    cases h' with
    | finished meant' => cases means_unique meant meant'
    | aborted meant' =>
      cases means_unique meant meant'
      exact ⟨rfl, fun _ => rfl⟩
    | malformed silent => exact absurd meant (silent _)
  | malformed silent =>
    cases h' with
    | finished meant => exact absurd meant (silent _)
    | aborted meant => exact absurd meant (silent _)
    | malformed => exact ⟨rfl, fun h => by rw [h]⟩

theorem Delivers.alike (h : Delivers lines reports ending) (h' : Delivers lines' reports' ending')
    (same : lines'.map Prod.fst = lines.map Prod.fst) :
    reports' = reports ∧ ending'.unnumbered = ending.unnumbered ∧
      (lines' = lines → ending' = ending) := by
  induction h generalizing lines' reports' with
  | unfinished =>
    cases List.map_eq_nil_iff.mp same
    cases h'
    exact ⟨rfl, rfl, fun _ => rfl⟩
  | ends last =>
    cases h' with
    | unfinished => cases same
    | ends last' =>
      obtain ⟨rfl, -⟩ := List.cons.inj same
      obtain ⟨hending, hnumber⟩ := last.alike last'
      exact ⟨rfl, hending, fun hlines => hnumber (Prod.mk.inj (List.cons.inj hlines).1).2.symm⟩
    | report meant =>
      obtain ⟨rfl, -⟩ := List.cons.inj same
      exact absurd meant last.not_report
  | report meant later ih =>
    cases h' with
    | unfinished => cases same
    | ends last =>
      obtain ⟨rfl, -⟩ := List.cons.inj same
      exact absurd meant last.not_report
    | report meant' later' =>
      obtain ⟨rfl, hrest⟩ := List.cons.inj same
      cases means_unique meant meant'
      obtain ⟨rfl, hending, hlines⟩ := ih later' hrest
      exact ⟨rfl, hending, fun h => hlines (List.cons.inj h).2⟩

/-- Once the reading has ended, no line counts. -/
theorem Delivers.append (h : Delivers lines reports ending) (hending : ending ≠ .unfinished)
    (more : List (List Char × Nat)) : Delivers (lines ++ more) reports ending := by
  induction h with
  | unfinished => exact absurd rfl hending
  | ends last => exact .ends last
  | report meant later ih => exact .report meant (ih hending)

/-- After a line that ends the reading any lines may stand. -/
theorem Delivers.replace (h : Delivers (lines ++ more) reports ending)
    (hends : ∃ line ∈ lines, ∃ ending, Ends line.1 line.2 ending)
    (more' : List (List Char × Nat)) : Delivers (lines ++ more') reports ending := by
  induction lines generalizing reports with
  | nil =>
    obtain ⟨line, hline, -⟩ := hends
    cases hline
  | cons line lines ih =>
    cases h with
    | ends last => exact .ends last
    | report meant later =>
      refine .report meant (ih later ?_)
      obtain ⟨other, hother, ending, last⟩ := hends
      rcases List.mem_cons.mp hother with rfl | hother
      · exact absurd meant last.not_report
      · exact ⟨other, hother, ending, last⟩

theorem readLines_delivers (n : Nat) (lines : List (List Char)) :
    Delivers (eventLinesFrom n lines) (readLines n lines).1 (readLines n lines).2 := by
  induction lines generalizing n with
  | nil => exact .unfinished
  | cons line lines ih =>
    cases hevent : isEventLine line with
    | false =>
      rw [eventLinesFrom_cons_ordinary hevent, readLines, hevent]
      exact ih (n + 1)
    | true =>
      rw [eventLinesFrom_cons_event hevent, readLines, hevent]
      cases hline : EngineEvent.ofLine? line with
      | none =>
        refine .ends (.malformed fun event meant => ?_)
        rw [EngineEvent.ofLine?_eq_some_iff.mpr meant] at hline
        cases hline
      | some event =>
        have meant := EngineEvent.ofLine?_eq_some_iff.mp hline
        cases event with
        | report report => exact .report meant (ih (n + 1))
        | aborted reason => exact .ends (.aborted meant)
        | finished => exact .ends (.finished meant)

theorem read_delivers (output : String) :
    Delivers (eventLines output) (read output).1 (read output).2 :=
  readLines_delivers 1 _

theorem read_eq_iff {output : String} :
    read output = (reports, ending) ↔ Delivers (eventLines output) reports ending := by
  constructor
  · intro h
    have delivers := read_delivers output
    rwa [h] at delivers
  · intro h
    obtain ⟨hreports, -, hending⟩ := h.alike (read_delivers output) rfl
    exact Prod.ext hreports (hending rfl)

end

/-! ## Texts of event lines -/

/-- The event lines of a text, without white space around them. -/
def eventTexts (cs : List Char) : List (List Char) :=
  ((Text.splitAt '\n' cs).map Text.trim).filter isEventLine

theorem eventLines_texts (output : String) :
    (eventLines output).map Prod.fst = eventTexts output.toList := by
  rw [eventLines_eq, eventLinesFrom_fst, eventTexts]

/-- A line may begin after this text. -/
def OpensLine (before : List Char) : Prop := before = [] ∨ ∃ lines, before = lines ++ ['\n']

/-- A line may end before this text. -/
def ClosesLine (after : List Char) : Prop := after = [] ∨ ∃ rest, after = '\n' :: rest

section

variable {before after line : List Char}

theorem eventTexts_break (before after : List Char) :
    eventTexts (before ++ '\n' :: after) = eventTexts before ++ eventTexts after := by
  rw [eventTexts, Text.splitAt_append, List.map_append, List.filter_append, eventTexts, eventTexts]

theorem eventTexts_opened (h : OpensLine before) (cs : List Char) :
    eventTexts (before ++ cs) = eventTexts before ++ eventTexts cs := by
  rcases h with rfl | ⟨lines, rfl⟩
  · rfl
  · rw [List.append_assoc, List.singleton_append, eventTexts_break, eventTexts_break]
    exact congrArg (· ++ eventTexts cs) (List.append_nil (eventTexts lines)).symm

theorem eventTexts_closed (h : ClosesLine after) (cs : List Char) :
    eventTexts (cs ++ after) = eventTexts cs ++ eventTexts after := by
  rcases h with rfl | ⟨rest, rfl⟩
  · rw [List.append_nil]
    exact (List.append_nil (eventTexts cs)).symm
  · rw [eventTexts_break]
    rfl

theorem eventTexts_line (h : '\n' ∉ line) :
    eventTexts line = [Text.trim line].filter isEventLine := by
  rw [eventTexts, Text.splitAt_of_not_mem h, List.map_singleton]

theorem eventTexts_ordinary (h : '\n' ∉ line) (ordinary : isEventLine (Text.trim line) = false) :
    eventTexts line = [] := by
  rw [eventTexts_line h, List.filter_cons_of_neg (by simpa using ordinary), List.filter_nil]

/-- A carriage return before a line break is white space at the end of a line. -/
theorem eventTexts_return (before : List Char) :
    eventTexts (before ++ ['\r']) = eventTexts before := by
  obtain ⟨parts, last, more, others, hbefore, hwhole, hreturn⟩ :=
    @Text.splitAt_cut '\n' before ['\r']
  obtain ⟨rfl, rfl⟩ : more = ['\r'] ∧ others = [] := List.cons.inj hreturn.symm
  rw [eventTexts, eventTexts, hbefore, hwhole, List.map_append, List.map_append, List.map_singleton,
    List.map_singleton, Text.trim_append_blank (List.forall_mem_singleton.mpr rfl)]

end

/-! ## Edits -/

/-- An output is edited in what does not count. -/
inductive Edit : List Char → List Char → Prop
  /-- A line that is no event is put before others. -/
  | ordinary {before after line : List Char} (opened : OpensLine before) (unbroken : '\n' ∉ line)
    (ordinary : isEventLine (Text.trim line) = false) :
    Edit (before ++ after) (before ++ (line ++ '\n' :: after))
  /-- A line that is no event is put after all others. -/
  | ordinaryLast {before line : List Char} (unbroken : '\n' ∉ line)
    (ordinary : isEventLine (Text.trim line) = false) : Edit before (before ++ '\n' :: line)
  /-- White space is put around a line. -/
  | blanks {before after line left right : List Char} (opened : OpensLine before)
    (closed : ClosesLine after) (unbroken : '\n' ∉ left ++ (line ++ right))
    (leftBlank : Text.IsBlank left) (rightBlank : Text.IsBlank right) :
    Edit (before ++ (line ++ after)) (before ++ ((left ++ (line ++ right)) ++ after))
  /-- A line break is given a carriage return. -/
  | lineBreak {before after : List Char} :
    Edit (before ++ '\n' :: after) (before ++ '\r' :: '\n' :: after)
  /-- More is written after the line that ends the reading. -/
  | afterEnd {before more : List Char} (ended : (read (String.ofList before)).2 ≠ .unfinished) :
    Edit before (before ++ '\n' :: more)

/-- What is written after the line that ends the reading does not count. -/
theorem read_afterEnd {output : String} (ended : (read output).2 ≠ .unfinished) (more : List Char) :
    read (String.ofList (output.toList ++ '\n' :: more)) = read output := by
  refine read_eq_iff.mpr ?_
  rw [eventLines_eq, String.toList_ofList, Text.splitAt_append, List.map_append,
    eventLinesFrom_append, ← eventLines_eq]
  exact (read_delivers output).append ended _

/-- An edit leaves the event lines as they are, unless it is one after their end. -/
theorem Edit.eventTexts_eq {cs cs' : List Char} (h : Edit cs cs') :
    eventTexts cs' = eventTexts cs ∨
      ((read (String.ofList cs)).2 ≠ .unfinished ∧ ∃ more, cs' = cs ++ '\n' :: more) := by
  cases h with
  | @ordinary before after line opened unbroken ordinary =>
    left
    rw [eventTexts_opened opened, eventTexts_break, eventTexts_ordinary unbroken ordinary,
      List.nil_append, eventTexts_opened opened]
  | ordinaryLast unbroken ordinary =>
    left
    rw [eventTexts_break, eventTexts_ordinary unbroken ordinary, List.append_nil]
  | @blanks before after line left right opened closed unbroken leftBlank rightBlank =>
    left
    have hline : '\n' ∉ line := fun hmem =>
      unbroken (List.mem_append_right _ (List.mem_append_left _ hmem))
    rw [eventTexts_opened opened, eventTexts_closed closed, eventTexts_line unbroken,
      Text.trim_blank_append leftBlank, Text.trim_append_blank rightBlank, ← eventTexts_line hline,
      ← eventTexts_closed closed, ← eventTexts_opened opened]
  | @lineBreak before after =>
    left
    rw [← List.singleton_append, ← List.append_assoc, eventTexts_break, eventTexts_return,
      eventTexts_break]
  | @afterEnd before more ended => exact .inr ⟨ended, more, rfl⟩

/-- Two outputs are read alike, but for the number of a line that is no event. -/
def Alike (output other : String) : Prop :=
  (read other).1 = (read output).1 ∧ (read other).2.unnumbered = (read output).2.unnumbered

theorem Edit.alike {cs cs' : List Char} (h : Edit cs cs') :
    Alike (String.ofList cs) (String.ofList cs') := by
  rcases h.eventTexts_eq with hsame | ⟨ended, more, rfl⟩
  · obtain ⟨hreports, hending, -⟩ := (read_delivers (String.ofList cs)).alike
      (read_delivers (String.ofList cs')) (by
        rw [eventLines_texts, eventLines_texts, String.toList_ofList, String.toList_ofList, hsame])
    exact ⟨hreports, hending⟩
  · have hread := read_afterEnd ended more
    rw [String.toList_ofList] at hread
    rw [Alike, hread]
    exact ⟨rfl, rfl⟩

theorem Alike.of_edits {cs cs' : List Char} (h : Relation.EqvGen Edit cs cs') :
    Alike (String.ofList cs) (String.ofList cs') := by
  induction h with
  | rel cs cs' h => exact h.alike
  | refl cs => exact ⟨rfl, rfl⟩
  | symm cs cs' h ih => exact ⟨ih.1.symm, ih.2.symm⟩
  | trans cs cs' cs'' h h' ih ih' => exact ⟨ih'.1.trans ih.1, ih'.2.trans ih.2⟩

/-! ## The reading of an output -/

/-- An output delivers the reports of its event lines, in order, up to the first that ends the
reading; so it is read like every output with the same event lines up to there, and edits in what
does not count change nothing but the number of a line that is no event. -/
theorem read_event_lines (output : String) :
    (∀ reports ending, read output = (reports, ending) ↔
      Delivers (eventLines output) reports ending) ∧
    (∀ lines, lines <+: eventLines output → (∃ line ∈ lines, ∃ ending, Ends line.1 line.2 ending) →
      ∀ other, lines <+: eventLines other → read other = read output) ∧
    ∀ other : String, Relation.EqvGen Edit output.toList other.toList → Alike output other := by
  refine ⟨fun reports ending => read_eq_iff, ?_, ?_⟩
  · rintro lines ⟨more, hmore⟩ hends other ⟨more', hmore'⟩
    have delivers := read_delivers output
    rw [← hmore] at delivers
    refine read_eq_iff.mpr ?_
    rw [← hmore']
    exact delivers.replace hends more'
  · intro other edits
    have alike := Alike.of_edits edits
    rwa [String.ofList_toList, String.ofList_toList] at alike

end EngineOutput

end Flaky
