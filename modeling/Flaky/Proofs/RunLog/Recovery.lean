-- SUMMARY: A run log that was cut off: the ids whose lines are whole are read, the first line that is no id is named, and what comes after the last line feed counts for nothing.
import Flaky.Proofs.RunLog

/-!
# Run logs that were cut off

A run that is interrupted leaves its log cut off somewhere. The bytes up to the cut
are the lines of the first few rounds and a part of the next line, which holds no
line feed; so exactly these rounds are read. In a file that holds any other text the
first whole line that is no execution id is told with its number.
-/

namespace Flaky.RunLog

/-! ## Appending -/

/-- Append ids one after the other, whether or not an append fails; also how each one went. -/
def appendAll : RunLog → List ExecutionId → Disk → List (Except RunLogError Unit) × Disk
  | _, [], disk => ([], disk)
  | log, id :: rest, disk =>
    let (outcome, log, disk) := log.append id disk
    let (outcomes, disk) := log.appendAll rest disk
    (outcome :: outcomes, disk)

theorem bytesOf_cons (id : ExecutionId) (ids : List ExecutionId) :
    bytesOf (id :: ids) = Utf8.encode (line id) ++ bytesOf ids := by
  rw [bytesOf, List.flatMap_cons, Utf8.encode_append]
  rfl

/-- Ids whose appends all went well are in the log, in order. -/
theorem KeptIn.appendAll {log : RunLog} {ids : List ExecutionId} {disk disk' : Disk}
    {outcomes : List (Except RunLogError Unit)} {entry : Entry} (kept : log.KeptIn disk entry)
    (happend : log.appendAll ids disk = (outcomes, disk'))
    (hok : ∀ outcome ∈ outcomes, outcome = .ok ()) :
    disk'.find log.path = .ok (entry.grown (bytesOf ids)) := by
  induction ids generalizing log disk entry outcomes with
  | nil =>
    obtain rfl := (Prod.mk.inj happend).2
    rw [kept.find]
    exact congrArg _ entry.grown_nil.symm
  | cons id ids ih =>
    simp only [RunLog.appendAll] at happend
    obtain ⟨rfl, rfl⟩ := Prod.mk.inj happend
    rw [List.forall_mem_cons] at hok
    obtain ⟨hpath, kept⟩ := kept.append (Prod.ext hok.1 rfl : log.append id disk = (.ok (), _))
    have hrest := ih kept rfl hok.2
    rwa [hpath, Entry.grown_grown, ← bytesOf_cons] at hrest

/-- A log that was created as a file is empty. -/
theorem create_file {path : String} {log : RunLog} {disk created : Disk}
    (hcreate : create path disk = (.ok log, created)) (hfile : created.isFile path = true) :
    log = ⟨path, 0⟩ ∧ created.find path = .ok (.file []) := by
  obtain ⟨rfl, entry, kept, hempty⟩ := create_keptIn hcreate
  have hfind : created.find log.path = .ok (.file []) := by
    refine Disk.find_grown hempty ?_ hfile
    rw [kept.find, entry.grown_nil]
  obtain rfl : entry = .file [] := Except.ok.inj (kept.find.symm.trans hfind)
  have hposition : 0 = log.position := kept.endsAt [] rfl
  exact ⟨by rw [hposition], hfind⟩

/-- A log that was created as a file holds the lines of the ids that were put into it. -/
theorem appendAll_created {path : String} {log : RunLog} {ids : List ExecutionId}
    {disk created disk' : Disk} {outcomes : List (Except RunLogError Unit)}
    (hcreate : create path disk = (.ok log, created)) (hfile : created.isFile path = true)
    (happend : log.appendAll ids created = (outcomes, disk'))
    (hok : ∀ outcome ∈ outcomes, outcome = .ok ()) :
    disk'.find path = .ok (.file (bytesOf ids)) := by
  obtain ⟨rfl, hfind⟩ := create_file hcreate hfile
  have kept : KeptIn ⟨path, 0⟩ created (.file []) := by
    refine ⟨hfind, ?_⟩
    rintro _ ⟨⟩
    rfl
  exact kept.appendAll happend hok

/-! ## Cuts -/

/-- The longest list of ids at the front whose lines are whole in the bytes. -/
structure Survivors (ids : List ExecutionId) (bytes : List UInt8) (survivors : List ExecutionId) :
    Prop where
  isPrefix : survivors <+: ids
  whole : bytesOf survivors <+: bytes
  longest : ∀ other, other <+: ids → bytesOf other <+: bytes → other <+: survivors

theorem line_ascii (id : ExecutionId) : ∀ c ∈ line id, c.toNat < 0x80 := by
  intro c hc
  rcases List.mem_append.mp hc with hchar | hbreak
  · exact id.chars_ascii c hchar
  · obtain rfl := List.mem_singleton.mp hbreak
    decide

theorem encode_line_length (id : ExecutionId) :
    (Utf8.encode (line id)).length = id.chars.length + 1 := by
  rw [Utf8.length_encode (line_ascii id), line, List.length_append, List.length_singleton]

/-- Bytes that are cut off in the first line hold no whole line. -/
theorem survivors_nil {id : ExecutionId} {ids : List ExecutionId} {bytes : List UInt8}
    (h : bytes.length ≤ id.chars.length) : Survivors (id :: ids) bytes [] where
  isPrefix := List.nil_prefix
  whole := List.nil_prefix
  longest := by
    intro other hother hwhole
    cases other with
    | nil => exact List.nil_prefix
    | cons first rest =>
      obtain rfl : first = id := (List.cons_prefix_cons.mp hother).1
      have hlength := hwhole.length_le
      rw [bytesOf_cons, List.length_append, encode_line_length] at hlength
      omega

/-- The first line is whole, and the others are as far as the bytes after it go. -/
theorem Survivors.cons {id : ExecutionId} {ids survivors : List ExecutionId} {bytes : List UInt8}
    (h : Survivors ids bytes survivors) :
    Survivors (id :: ids) (Utf8.encode (line id) ++ bytes) (id :: survivors) where
  isPrefix := List.cons_prefix_cons.mpr ⟨rfl, h.isPrefix⟩
  whole := by
    rw [bytesOf_cons]
    exact (List.prefix_append_right_inj _).mpr h.whole
  longest := by
    intro other hother hwhole
    cases other with
    | nil => exact List.nil_prefix
    | cons first rest =>
      obtain ⟨rfl, hrest⟩ := List.cons_prefix_cons.mp hother
      rw [bytesOf_cons] at hwhole
      have hwhole' := (List.prefix_append_right_inj _).mp hwhole
      exact List.cons_prefix_cons.mpr ⟨rfl, h.longest rest hrest hwhole'⟩

/-- Bytes that are cut off anywhere are those of whole lines and of a part of the next one. -/
theorem exists_survivors (ids : List ExecutionId) (n : Nat) :
    ∃ survivors tail, Survivors ids ((bytesOf ids).take n) survivors ∧ '\n' ∉ tail ∧
      (bytesOf ids).take n = Utf8.encode (survivors.flatMap line ++ tail) := by
  induction ids generalizing n with
  | nil =>
    refine ⟨[], [], ⟨List.nil_prefix, List.nil_prefix, fun _ hother _ => hother⟩,
      List.not_mem_nil, ?_⟩
    exact List.take_nil
  | cons id ids ih =>
    have hlength := encode_line_length id
    by_cases hn : id.chars.length < n
    · -- The cut lies after the first line.
      obtain ⟨survivors, tail, hsurvivors, htail, hbytes⟩ := ih (n - (id.chars.length + 1))
      have hcut : (bytesOf (id :: ids)).take n =
          Utf8.encode (line id) ++ (bytesOf ids).take (n - (id.chars.length + 1)) := by
        rw [bytesOf_cons, List.take_append, hlength, List.take_of_length_le (by omega)]
      refine ⟨id :: survivors, tail, hcut ▸ hsurvivors.cons, htail, ?_⟩
      rw [hcut, hbytes, ← Utf8.encode_append, List.flatMap_cons, List.append_assoc]
    · -- The cut lies in the first line, before its line feed.
      have hcut : (bytesOf (id :: ids)).take n = Utf8.encode (id.chars.take n) := by
        have hline : (line id).take n = id.chars.take n := by
          rw [line, List.take_append_of_le_length (by omega)]
        rw [bytesOf_cons, List.take_append_of_le_length (by omega),
          Utf8.take_encode (line_ascii id), hline]
      refine ⟨[], id.chars.take n, survivors_nil ?_, ?_, hcut⟩
      · rw [List.length_take]
        omega
      · exact fun hmem => id.newline_not_mem_chars (List.mem_of_mem_take hmem)

/-! ## Lines that are no ids -/

/-- The first line that is no id is told, with its number. -/
theorem readLines_append_cons {path : String} {n : Nat} {before after : List (List Char)}
    {bad : List Char} (hbefore : ∀ line ∈ before, (ExecutionId.ofChars? line).isSome)
    (hbad : ExecutionId.ofChars? bad = none) :
    readLines path n (before ++ bad :: after) =
      .error (.parse path (n + before.length) (String.ofList bad)) := by
  induction before generalizing n with
  | nil => simp [readLines, hbad]
  | cons first before ih =>
    rw [List.forall_mem_cons] at hbefore
    obtain ⟨id, hid⟩ := Option.isSome_iff_exists.mp hbefore.1
    rw [List.cons_append, readLines, hid]
    simp only [ih hbefore.2, Except.map, List.length_cons]
    congr 2
    omega

/-- Where some line is no id, one is the first. -/
theorem exists_first_bad {lines : List (List Char)}
    (h : ∃ line ∈ lines, ExecutionId.ofChars? line = none) :
    ∃ before bad after, lines = before ++ bad :: after ∧
      (∀ line ∈ before, (ExecutionId.ofChars? line).isSome) ∧
      ExecutionId.ofChars? bad = none := by
  obtain ⟨line, hmem, hline⟩ := h
  have hfound : (lines.find? fun line => (ExecutionId.ofChars? line).isNone).isSome := by
    rw [List.find?_isSome]
    exact ⟨line, hmem, by simp [hline]⟩
  obtain ⟨bad, hfirst⟩ := Option.isSome_iff_exists.mp hfound
  obtain ⟨hbad, before, after, hlines, hbefore⟩ := List.find?_eq_some_iff_append.mp hfirst
  refine ⟨before, bad, after, hlines, ?_, Option.isNone_iff_eq_none.mp hbad⟩
  intro line hline
  simpa [Option.isSome_iff_ne_none] using hbefore line hline

/-! ## Reading -/

/-- A log that was created and written without failure is read as the ids that were put into it,
and cut off anywhere, as those whose lines are whole. In any other text the first whole line that
is no id is told with its number, and what comes after the last line feed counts for nothing. -/
theorem read_recovers (path : String) :
    (∀ ids disk log created outcomes disk', create path disk = (.ok log, created) →
      created.isFile path = true → log.appendAll ids created = (outcomes, disk') →
      (∀ outcome ∈ outcomes, outcome = .ok ()) →
        read path disk' = .ok ids ∧ ∃ content, disk'.find path = .ok (.file content) ∧
          ∀ n cut, cut.find path = .ok (.file (content.take n)) →
            ∃ survivors, Survivors ids (content.take n) survivors ∧
              read path cut = .ok survivors) ∧
    (∀ text, ∃ lines tail, Text.Lined '\n' text lines tail ∧
      ∀ disk, disk.find path = .ok (.file (Utf8.encode text)) →
        ((∃ line ∈ lines, ExecutionId.ofChars? line = none) →
          ∃ before bad after, lines = before ++ bad :: after ∧
            (∀ line ∈ before, (ExecutionId.ofChars? line).isSome) ∧
            ExecutionId.ofChars? bad = none ∧
            read path disk =
              .error (.parse path (before.length + 1) (String.ofList bad))) ∧
        ∀ text' tail' disk', Text.Lined '\n' text' lines tail' →
          disk'.find path = .ok (.file (Utf8.encode text')) →
          read path disk' = read path disk) := by
  constructor
  · intro ids disk log created outcomes disk' hcreate hfile happend hok
    have hfind := appendAll_created hcreate hfile happend hok
    refine ⟨read_bytesOf hfind, bytesOf ids, hfind, ?_⟩
    intro n cut hcut
    obtain ⟨survivors, tail, hsurvivors, htail, hbytes⟩ := exists_survivors ids n
    exact ⟨survivors, hsurvivors, read_torn (hbytes ▸ hcut) htail⟩
  · intro text
    obtain ⟨lines, tail, lined⟩ := Text.Lined.exists_lined '\n' text
    refine ⟨lines, tail, lined, ?_⟩
    intro disk hdisk
    have hread := read_lined hdisk lined
    constructor
    · intro hnot
      obtain ⟨before, bad, after, rfl, hbefore, hbad⟩ := exists_first_bad hnot
      refine ⟨before, bad, after, rfl, hbefore, hbad, ?_⟩
      rw [hread, readLines_append_cons hbefore hbad, Nat.add_comm]
    · intro text' tail' disk' lined' hdisk'
      rw [hread, read_lined hdisk' lined']

/-- A baseline and a seeded round are logged, and the log is cut off in the second line; another
log holds a line that is no id. -/
theorem read_recovers_small :
    let ids : List ExecutionId := [⟨true, ⟨1⟩⟩, ⟨false, ⟨2⟩⟩]
    let written := appendAll ⟨"run.log", 0⟩ ids (create "run.log" .blank).2
    let cut := Disk.blank.withFile ["run.log"] ((bytesOf ids).take 60)
    let spoiled := Disk.blank.withFile ["run.log"] (Utf8.bytes "not an id\nclean_")
    written.1 = [.ok (), .ok ()] ∧ read "run.log" written.2 = .ok ids ∧
      (∃ survivors, Survivors ids ((bytesOf ids).take 60) survivors ∧
        read "run.log" cut = .ok survivors) ∧
      read "run.log" spoiled = .error (.parse "run.log" 1 "not an id") := by
  intro ids written cut spoiled
  obtain ⟨recovers, refuses⟩ := read_recovers "run.log"
  have hok : written.1 = [.ok (), .ok ()] := rfl
  have hcreate : create "run.log" .blank = (.ok ⟨"run.log", 0⟩, (create "run.log" .blank).2) := rfl
  have hfile : Disk.isFile (create "run.log" .blank).2 "run.log" = true := by decide +kernel
  have hgood : ∀ outcome ∈ written.1, outcome = .ok () := by simp [hok]
  obtain ⟨hread, content, hfind, hcut⟩ :=
    recovers ids .blank _ _ written.1 written.2 hcreate hfile rfl hgood
  have hcontent : content = bytesOf ids := by
    have hwritten : written.2.find "run.log" = .ok (.file (bytesOf ids)) :=
      appendAll_created hcreate hfile rfl hgood
    simpa using hfind.symm.trans hwritten
  subst hcontent
  refine ⟨hok, hread, hcut 60 cut rfl, ?_⟩
  obtain ⟨lines, tail, lined, hlines⟩ := refuses "not an id\nclean_".toList
  have hline : lines = ["not an id".toList] := by
    have hparts := congrArg List.dropLast lined.splitAt_eq
    rw [List.dropLast_concat] at hparts
    exact hparts.symm.trans (by decide +kernel)
  have hbad : ExecutionId.ofChars? "not an id".toList = none := by decide +kernel
  obtain ⟨before, bad, after, heq, hbefore, -, hspoiled⟩ :=
    (hlines spoiled rfl).1 ⟨_, by simp [hline], hbad⟩
  cases before with
  | nil =>
    rw [hline, List.nil_append] at heq
    obtain rfl : bad = "not an id".toList := (List.cons.inj heq).1.symm
    exact hspoiled
  | cons first rest =>
    have hfirst : first = "not an id".toList := by
      rw [hline, List.cons_append] at heq
      exact (List.cons.inj heq).1.symm
    have hsome := hbefore first List.mem_cons_self
    rw [hfirst, hbad] at hsome
    cases hsome

end Flaky.RunLog
