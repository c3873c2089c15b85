-- SUMMARY: Appends to a run log that fail part way: the ids that were put in are read exactly if none of them was put in after a part of another line.
import Flaky.Proofs.RunLog.Recovery

/-!
# Appends that fail part way

An append that fails may leave a part of its line, and the next line is written right
after that part. What is read there is no id, or a wrong one: with `clean_` in front,
a seeded round is read as a baseline round. So the log is read as the ids whose appends
went well exactly if none of these came after an append that left something behind.
-/

namespace Flaky

/-! ## Ids after other text -/

namespace ExecutionId

theorem length_chars (id : ExecutionId) :
    id.chars.length = if id.baseline then 42 else 36 := by
  unfold chars
  split
  · rw [List.length_append, id.uuid.length_chars]
    rfl
  · exact id.uuid.length_chars

/-- With parts of other lines in front of it, the text of an id is not read as that id. -/
theorem ofChars?_append {pending : List Char} {id : ExecutionId}
    (hpending : pending ⊆ baselineMark ++ Uuid.digits) :
    ofChars? (pending ++ id.chars) = some id ↔ pending = [] := by
  constructor
  case mpr =>
    rintro rfl
    exact id.ofChars?_chars
  case mp =>
    intro h
    have hsub : pending ++ id.chars ⊆ baselineMark ++ Uuid.digits :=
      List.append_subset.mpr ⟨hpending, id.chars_subset⟩
    have hbrace : '{' ∉ pending ++ id.chars := fun hmem => absurd (hsub hmem) (by decide)
    have hurn : 'u' ∉ pending ++ id.chars := fun hmem => absurd (hsub hmem) (by decide)
    have hlength := id.length_chars
    refine List.length_eq_zero_iff.mp ?_
    unfold ofChars? at h
    split at h
    case isTrue =>
      obtain ⟨uuid, huuid, rfl⟩ := Option.map_eq_some_iff.mp h
      have hdrop := Uuid.length_of_ofChars? huuid (fun hmem => hbrace (List.mem_of_mem_drop hmem))
        (fun hmem => hurn (List.mem_of_mem_drop hmem))
      have hmark : baselineMark.length = 6 := rfl
      rw [List.length_drop, List.length_append, hlength, hmark] at hdrop
      simp only [if_true] at hdrop
      omega
    case isFalse =>
      obtain ⟨uuid, huuid, rfl⟩ := Option.map_eq_some_iff.mp h
      have hwhole := Uuid.length_of_ofChars? huuid hbrace hurn
      rw [List.length_append, hlength] at hwhole
      simp only [Bool.false_eq_true, if_false] at hwhole
      omega

end ExecutionId

namespace RunLog

/-! ## Attempts -/

/-- An append of an id, and how many characters of its line were left behind if it failed. -/
structure Attempt where
  id : ExecutionId
  brokenAfter : Option Nat

namespace Attempt

def succeeded (attempt : Attempt) : Bool := attempt.brokenAfter.isNone

/-- What the append put into the log. -/
def text (attempt : Attempt) : List Char :=
  match attempt.brokenAfter with
  | none => line attempt.id
  | some kept => (line attempt.id).take kept

/-- An append that fails puts in less than its line. -/
def Partial (attempt : Attempt) : Prop :=
  ∀ kept ∈ attempt.brokenAfter, kept < (line attempt.id).length

instance (attempt : Attempt) : Decidable attempt.Partial :=
  inferInstanceAs (Decidable (∀ kept ∈ attempt.brokenAfter, kept < (line attempt.id).length))

/-- The append left no part of a line behind. -/
def Clean (attempt : Attempt) : Prop := ∀ kept ∈ attempt.brokenAfter, kept = 0

instance (attempt : Attempt) : Decidable attempt.Clean :=
  inferInstanceAs (Decidable (∀ kept ∈ attempt.brokenAfter, kept = 0))

end Attempt

/-- The appends of some ids, the first of them with write `n`. -/
def attempts (faults : Nat → Option Fault) : (n : Nat) → List ExecutionId → List Attempt
  | _, [] => []
  | n, id :: rest => ⟨id, (faults n).map (·.kept)⟩ :: attempts faults (n + 1) rest

/-- The ids whose appends went well. -/
def logged (attempts : List Attempt) : List ExecutionId :=
  (attempts.filter (·.succeeded)).map (·.id)

/-- No append that goes well comes after one that left a part of its line behind. -/
def Undisturbed (attempts : List Attempt) : Prop :=
  attempts.Pairwise fun earlier later => later.succeeded = true → earlier.Clean

instance (attempts : List Attempt) : Decidable (Undisturbed attempts) :=
  inferInstanceAs (Decidable (attempts.Pairwise _))

/-! ## What is in the file -/

section

variable {path : String} {id : ExecutionId} {disk : Disk} {old : List UInt8}

/-- An append to a file puts in what its write lets through, and goes well if the write does. -/
theorem append_attempt (hfind : disk.find path = .ok (.file old)) :
    ∃ (outcome : Except RunLogError Unit) (text : List UInt8) (disk' : Disk),
      append ⟨path, old.length⟩ id disk = (outcome, ⟨path, text.length⟩, disk') ∧
      outcome.isOk = (disk.faults disk.writes).isNone ∧
      text = old ++ Utf8.encode (Attempt.text ⟨id, (disk.faults disk.writes).map (·.kept)⟩) ∧
      disk'.find path = .ok (.file text) ∧ disk'.faults = disk.faults ∧
      disk'.writes = disk.writes + 1 := by
  obtain ⟨disk', hwrite, hfind', hfaults, hwrites⟩ :=
    Disk.writeAt_file hfind (Utf8.encode (line id))
  have hpassed : (disk.pass (Utf8.encode (line id))).2 =
      Utf8.encode (Attempt.text ⟨id, (disk.faults disk.writes).map (·.kept)⟩) := by
    unfold Disk.pass
    cases disk.faults disk.writes with
    | none => rfl
    | some fault => exact Utf8.take_encode (line_ascii id) fault.kept
  rw [hpassed] at hwrite hfind'
  cases hfault : disk.faults disk.writes with
  | none =>
    simp only [Disk.pass, hfault] at hwrite
    refine ⟨.ok (), _, disk', ?_, rfl, rfl, ?_, hfaults, hwrites⟩
    · simp only [append, hwrite]
    · rw [← hfault]
      exact hfind'
  | some fault =>
    simp only [Disk.pass, hfault] at hwrite
    refine ⟨.error (.write path fault.error), _, disk', ?_, rfl, rfl, ?_, hfaults, hwrites⟩
    · simp only [append, hwrite]
    · rw [← hfault]
      exact hfind'

/-- The file holds what each append put into it, and an append goes well if its write does. -/
theorem appendAll_attempts (hfind : disk.find path = .ok (.file old))
    (ids : List ExecutionId) :
    (appendAll ⟨path, old.length⟩ ids disk).1.map (·.isOk) =
        (attempts disk.faults disk.writes ids).map (·.succeeded) ∧
      (appendAll ⟨path, old.length⟩ ids disk).2.find path = .ok (.file (old ++
        Utf8.encode ((attempts disk.faults disk.writes ids).flatMap (·.text)))) := by
  induction ids generalizing disk old with
  | nil =>
    refine ⟨rfl, ?_⟩
    rw [appendAll, hfind]
    simp [attempts, Utf8.encode]
  | cons id ids ih =>
    obtain ⟨outcome, text, disk', happend, houtcome, rfl, hfind', hfaults, hwrites⟩ :=
      @append_attempt path id disk old hfind
    obtain ⟨houtcomes, hlast⟩ := ih hfind'
    rw [hfaults, hwrites] at houtcomes hlast
    constructor
    · simp only [appendAll, attempts, happend, List.map_cons, houtcomes, houtcome,
        Attempt.succeeded, Option.isNone_map]
    · simp only [appendAll, attempts, happend, List.flatMap_cons, Utf8.encode_append, hlast,
        List.append_assoc]

end

/-! ## What is read -/

/-- The lines that a reader finds after some text of a broken line, and the text after them. -/
def linesAfter : (pending : List Char) → List Attempt → List (List Char) × List Char
  | pending, [] => ([], pending)
  | pending, attempt :: rest =>
    match attempt.brokenAfter with
    | none =>
      ((pending ++ attempt.id.chars) :: (linesAfter [] rest).1, (linesAfter [] rest).2)
    | some kept => linesAfter (pending ++ attempt.id.chars.take kept) rest

section

variable {attempt : Attempt} {tries : List Attempt} {pending : List Char}

theorem Attempt.text_broken {kept : Nat} (hpartial : attempt.Partial)
    (hbroken : attempt.brokenAfter = some kept) : attempt.text = attempt.id.chars.take kept := by
  have hkept : kept < (line attempt.id).length := hpartial kept hbroken
  rw [line, List.length_append, List.length_singleton] at hkept
  simp only [Attempt.text, hbroken]
  rw [line, List.take_append_of_le_length (by omega)]

theorem linesAfter_lined (hpending : '\n' ∉ pending)
    (hpartial : ∀ attempt ∈ tries, attempt.Partial) :
    Text.Lined '\n' (pending ++ tries.flatMap (·.text)) (linesAfter pending tries).1
      (linesAfter pending tries).2 := by
  induction tries generalizing pending with
  | nil =>
    rw [List.flatMap_nil, List.append_nil]
    exact .nil hpending
  | cons attempt rest ih =>
    rw [List.forall_mem_cons] at hpartial
    have hfree := attempt.id.newline_not_mem_chars
    rw [List.flatMap_cons, linesAfter]
    cases hbroken : attempt.brokenAfter with
    | none =>
      have htext : attempt.text = attempt.id.chars ++ ['\n'] := by
        simp only [Attempt.text, hbroken, line]
      have hline : '\n' ∉ pending ++ attempt.id.chars :=
        fun hmem => (List.mem_append.mp hmem).elim hpending hfree
      have hrest := (ih List.not_mem_nil hpartial.2).cons hline
      simpa [htext] using hrest
    | some kept =>
      have hline : '\n' ∉ pending ++ attempt.id.chars.take kept := fun hmem =>
        (List.mem_append.mp hmem).elim hpending fun hcut => hfree (List.mem_of_mem_take hcut)
      rw [Attempt.text_broken hpartial.1 hbroken, ← List.append_assoc]
      exact ih hline hpartial.2

theorem logged_cons (attempt : Attempt) (rest : List Attempt) :
    logged (attempt :: rest) =
      if attempt.succeeded then attempt.id :: logged rest else logged rest := by
  unfold logged
  rw [List.filter_cons]
  split <;> rfl

theorem readLines_cons_eq_ok {path : String} {n : Nat} {chars : List Char}
    {rest : List (List Char)} {id : ExecutionId} {ids : List ExecutionId} :
    readLines path n (chars :: rest) = .ok (id :: ids) ↔
      ExecutionId.ofChars? chars = some id ∧ readLines path (n + 1) rest = .ok ids := by
  rw [readLines]
  cases ExecutionId.ofChars? chars with
  | none => simp
  | some first => cases readLines path (n + 1) rest <;> simp [Except.map]

theorem take_chars_eq_nil {id : ExecutionId} {kept : Nat} :
    id.chars.take kept = [] ↔ kept = 0 := by
  have hchars : id.chars ≠ [] := by
    intro hnil
    have hlength := id.length_chars
    rw [hnil] at hlength
    split at hlength <;> cases hlength
  simp [List.take_eq_nil_iff, hchars]

/-- The lines are read as the ids whose appends went well exactly if no such append comes after a
part of a line. -/
theorem readLines_linesAfter {path : String} {n : Nat}
    (hpending : pending ⊆ ExecutionId.baselineMark ++ Uuid.digits) :
    readLines path n (linesAfter pending tries).1 = .ok (logged tries) ↔
      (pending = [] ∨ ∀ attempt ∈ tries, attempt.succeeded = false) ∧ Undisturbed tries := by
  induction tries generalizing pending n with
  | nil => simp [linesAfter, readLines, logged, Undisturbed]
  | cons attempt rest ih =>
    rw [Undisturbed, List.pairwise_cons, ← Undisturbed, linesAfter, logged_cons]
    cases hbroken : attempt.brokenAfter with
    | none =>
      have hsucceeded : attempt.succeeded = true := by simp [Attempt.succeeded, hbroken]
      have hclean : attempt.Clean := by simp [Attempt.Clean, hbroken]
      have hrest := ih (n := n + 1) (List.nil_subset (ExecutionId.baselineMark ++ Uuid.digits))
      simp only [hsucceeded, if_true, readLines_cons_eq_ok, ExecutionId.ofChars?_append hpending,
        hrest, hclean, List.forall_mem_cons]
      simp
    | some kept =>
      have hsucceeded : attempt.succeeded = false := by simp [Attempt.succeeded, hbroken]
      have hclean : attempt.Clean ↔ attempt.id.chars.take kept = [] := by
        rw [take_chars_eq_nil]
        simp [Attempt.Clean, hbroken]
      have hcut : attempt.id.chars.take kept ⊆ ExecutionId.baselineMark ++ Uuid.digits :=
        fun c hc => attempt.id.chars_subset (List.mem_of_mem_take hc)
      simp only [hsucceeded, Bool.false_eq_true, if_false,
        ih (List.append_subset.mpr ⟨hpending, hcut⟩), List.append_eq_nil_iff, ← hclean,
        List.forall_mem_cons, true_and]
      constructor
      · rintro ⟨⟨hnil, hpart⟩ | hnone, hrest⟩
        · exact ⟨.inl hnil, fun _ _ _ => hpart, hrest⟩
        · refine ⟨.inr hnone, fun later hlater hlate => ?_, hrest⟩
          rw [hnone later hlater] at hlate
          cases hlate
      · rintro ⟨hnil | hnone, hlater, hrest⟩
        · by_cases hpart : attempt.Clean
          · exact ⟨.inl ⟨hnil, hpart⟩, hrest⟩
          · refine ⟨.inr fun later hmem => ?_, hrest⟩
            exact Bool.eq_false_iff.mpr fun hlate => hpart (hlater later hmem hlate)
        · exact ⟨.inr hnone, hrest⟩

end

/-- Appends to a fresh log put in what their writes let through, and go well if these do. The log
is read as the ids whose appends went well if and only if no append that goes well comes after one
that left a part of its line behind. -/
theorem read_appendAll_iff {path : String} {log : RunLog} {ids : List ExecutionId}
    {disk created : Disk} (hcreate : create path disk = (.ok log, created))
    (hfile : created.isFile path = true)
    (hpartial : ∀ attempt ∈ attempts created.faults created.writes ids, attempt.Partial) :
    let tries := attempts created.faults created.writes ids
    let written := log.appendAll ids created
    written.1.map (·.isOk) = tries.map (·.succeeded) ∧
      written.2.find path = .ok (.file (Utf8.encode (tries.flatMap (·.text)))) ∧
      (read path written.2 = .ok (logged tries) ↔ Undisturbed tries) := by
  intro tries written
  obtain ⟨rfl, hempty⟩ := create_file hcreate hfile
  obtain ⟨houtcomes, hfind⟩ := appendAll_attempts hempty ids
  have hfind : written.2.find path = .ok (.file (Utf8.encode (tries.flatMap (·.text)))) := hfind
  refine ⟨houtcomes, hfind, ?_⟩
  have lined : Text.Lined '\n' (tries.flatMap (·.text)) (linesAfter [] tries).1
      (linesAfter [] tries).2 := linesAfter_lined List.not_mem_nil hpartial
  rw [read_lined hfind lined, readLines_linesAfter (List.nil_subset _)]
  simp [tries]

/-- A disk on which one write fails after ten bytes. -/
def failing (write : Nat) : Disk :=
  { Disk.blank with faults := fun n => if n = write then some ⟨10, .noSpace⟩ else none }

/-- The second of two appends fails, and leaves a part of its line at the end. -/
theorem read_appendAll_last :
    let ids : List ExecutionId := [⟨true, ⟨1⟩⟩, ⟨false, ⟨2⟩⟩]
    let written := appendAll ⟨"run.log", 0⟩ ids (create "run.log" (failing 1)).2
    written.1.map (·.isOk) = [true, false] ∧ read "run.log" written.2 = .ok [⟨true, ⟨1⟩⟩] := by
  intro ids written
  have hcreate : create "run.log" (failing 1) =
      (.ok ⟨"run.log", 0⟩, (create "run.log" (failing 1)).2) := rfl
  have hpartial : ∀ attempt ∈ attempts (failing 1).faults 0 ids, attempt.Partial := by
    decide +kernel
  obtain ⟨houtcomes, -, hread⟩ := read_appendAll_iff hcreate (by decide +kernel) hpartial
  exact ⟨houtcomes, hread.mpr (by decide +kernel)⟩

/-- The first of two appends fails, and the part of its line that it leaves spoils the second. -/
theorem read_appendAll_spoiled :
    let ids : List ExecutionId := [⟨true, ⟨1⟩⟩, ⟨false, ⟨2⟩⟩]
    let written := appendAll ⟨"run.log", 0⟩ ids (create "run.log" (failing 0)).2
    written.1.map (·.isOk) = [false, true] ∧
      read "run.log" written.2 = .error (.parse "run.log" 1
        "clean_000000000000-0000-0000-0000-000000000002") :=
  ⟨rfl, rfl⟩

end RunLog

end Flaky
