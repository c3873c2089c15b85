-- SUMMARY: The shell as an engine: what a process sees of a selection, that printing a file replays it, that reports once printed stay delivered, and runs whose command cannot be started.
import Flaky.Engine.Command
import Flaky.Proofs.EngineOutput.Cut
import Flaky.Proofs.Parameters
import Flaky.Proofs.Run.Course
import Flaky.Proofs.Shell.Scripts
import Flaky.Proofs.Utf8
import Flaky.Shell.Spawn

/-!
# The shell as an engine

An engine that is a command learns of its selection through variables and answers
through what it prints. Both pass through the bytes that the shell works on.
-/

namespace Flaky

/-! ## Octets -/

namespace Octets

theorem toBytes_ofBytes (bs : List UInt8) : toBytes (ofBytes bs) = bs := by
  have same : ∀ b : UInt8, (Char.ofNat b.toNat).toNat.toUInt8 = b := fun b => by
    have hvalid : b.toNat.isValidChar := .inl (Nat.lt_trans b.toNat_lt (by decide))
    rw [Char.ofNat, dif_pos hvalid]
    exact UInt8.ofNat_toNat
  rw [toBytes, ofBytes, List.map_map]
  exact (List.map_congr_left fun b _ => same b).trans (List.map_id bs)

/-- A text that is given to the shell is the text that the shell says. -/
theorem toText_ofText (text : String) : toText (ofText text) = text := by
  rw [toText, ofText, String.toList_ofList, toBytes_ofBytes, Utf8.decodeLossy, Utf8.bytes,
    Utf8.pieces_encode, List.map_map]
  exact (congrArg String.ofList (List.map_id _)).trans String.ofList_toList

end Octets

/-- A text in front of other bytes is read as it is. -/
theorem Utf8.pieces_encode_append (cs : List Char) (rest : List UInt8) :
    pieces (encode cs ++ rest) = cs.map .char ++ pieces rest := by
  induction cs with
  | nil => rfl
  | cons c more ih =>
    rw [encode, List.flatMap_cons, List.append_assoc, pieces, piecesFrom_encodeChar, List.map_cons]
    exact congrArg _ ih

/-! ## Looking up -/

section

variable {β γ : Type} {key : String} {entries : List (String × β)}

theorem lookup_filter_keys (keep : String → Bool) :
    (entries.filter fun entry => keep entry.1).lookup key =
      if keep key then entries.lookup key else none := by
  induction entries with
  | nil => simp
  | cons entry rest ih =>
    obtain ⟨name, value⟩ := entry
    by_cases hkey : key = name
    · subst hkey
      cases hkeep : keep key <;> simp [hkeep, ih]
    · cases hkeep : keep name <;> simp [List.lookup_cons, beq_false_of_ne hkey, hkeep, ih]

theorem lookup_map_values (f : β → γ) :
    (entries.map fun entry => (entry.1, f entry.2)).lookup key = (entries.lookup key).map f := by
  induction entries with
  | nil => rfl
  | cons entry rest ih =>
    rw [List.map_cons, List.lookup_cons, List.lookup_cons, ih]
    cases key == entry.1 <;> rfl

end

/-! ## Reports -/

theorem EngineOutput.readLines_prefix {last : List Char} (ordinary : isEventLine last = false)
    (n : Nat) (lines more : List (List Char)) :
    (readLines n (lines ++ [last])).1 <+: (readLines n (lines ++ more)).1 := by
  induction lines generalizing n with
  | nil =>
    rw [List.nil_append, readLines_ordinary ordinary]
    exact List.nil_prefix
  | cons line lines ih =>
    rw [List.cons_append, List.cons_append, readLines, readLines]
    split
    · cases EngineEvent.ofLine? line with
      | none => exact List.prefix_rfl
      | some event =>
        cases event with
        | report report => exact (List.prefix_cons_inj report).mpr (ih _)
        | finished | aborted reason => exact List.prefix_rfl
    · exact ih _

/-- Whole lines deliver their reports, whatever is printed after them. -/
theorem EngineOutput.read_lines_prefix (text rest : List Char) :
    (read (String.ofList (text ++ ['\n']))).1 <+:
      (read (String.ofList (text ++ '\n' :: rest))).1 := by
  rw [read_eq_parts, read_eq_parts, String.toList_ofList, String.toList_ofList,
    Text.splitAt_append, Text.splitAt_append, List.map_append, List.map_append]
  exact readLines_prefix rfl 1 _ _

/-- An engine delivers the reports of what its command printed. -/
theorem Engine.reports_ofCommand {σ : Type} {spawn : Spawner} {command : Command}
    {directory : String} {selection : Selection} {state : σ} {disk : Disk} {done : Completed}
    (started : spawn (launch command directory selection) disk = .ok done) :
    (ofCommand spawn command directory selection state disk).1.reports =
      (EngineOutput.read (Utf8.decodeLossy done.output)).1 := by
  simp only [ofCommand, started, EngineRun.after]
  exact EngineOutput.reports_ofOutput _ _

namespace Shell

/-! ## What a process sees -/

theorem lookup_processVariables (inherited own : List (String × String)) (key : String) :
    (processVariables inherited own).lookup key = (own.lookup key).or (inherited.lookup key) := by
  rw [processVariables, List.lookup_append,
    lookup_filter_keys fun name => (own.lookup name).isNone]
  cases own.lookup key <;> simp

/-- The names of all parameters of selections. -/
def parameterKeys : List String := Round.plainKeys ++ Round.seedingKeys ++ FilterList.keys

/-- No parameter has a name that means something else in a shell. -/
theorem value?_of_mem_parameterKeys {key : String} (h : key ∈ parameterKeys) (m : Machine) :
    m.value? key = m.bindings.lookup key := by
  simp only [parameterKeys, Round.plainKeys, Round.seedingKeys, FilterList.keys, FilterList.all,
    FilterList.parameter, List.map_cons, List.map_nil, List.cons_append, List.nil_append,
    List.mem_cons, List.not_mem_nil, or_false] at h
  rcases h with rfl | rfl | rfl | rfl | rfl | rfl | rfl | rfl | rfl | rfl | rfl | rfl | rfl <;> rfl

/-- A shell sees a parameter of its selection as it is. Where the selection does not set one, what
    was inherited under its name remains. -/
theorem start_sees_parameters (inherited : List (String × String)) (selection : Selection)
    (disk : Disk) (place : Location) {key : String} (h : key ∈ parameterKeys) :
    ((Machine.start (processVariables inherited selection.parameters) disk place).value? key).map
      Octets.toText = (selection.parameters.lookup key).or (inherited.lookup key) := by
  rw [value?_of_mem_parameterKeys h, Machine.start, lookup_map_values, lookup_processVariables,
    Option.map_map]
  exact (congrFun (congrArg Option.map (funext Octets.toText_ofText)) _).trans Option.map_id'

/-! ## Programs that are started -/

theorem spawn_program (inherited : List (String × String)) {launch : Launch} {disk : Disk}
    {place : Location} {act : List String → Act Unit}
    (plain : ∀ text ∈ launch.command.words ++ launch.environment.map (·.2), hasNul text = false)
    (work : workplace disk launch.directory = .ok place)
    (program : program? launch.command.program = some act) :
    spawn inherited launch disk = .ok (complete (act (launch.command.args.map Octets.ofText))
      (.start (processVariables inherited launch.environment) disk place) disk) := by
  have texts : (launch.command.words ++ launch.environment.map (·.2)).any hasNul = false := by
    rw [List.any_eq_false]
    exact fun text htext => by simp [plain text htext]
  simp only [spawn, texts, work, program]
  rfl

/-! ## Utilities as engines -/

/-- What a utility leaves that is started as a process. -/
theorem complete_useUtility (utility : Utility) (args : List String)
    (given : List (String × String)) (disk : Disk) (place : Location) {p : Performance}
    (performs : utility args [] { disk with workingDirectory := place } = p) :
    complete (useUtility false utility args) (.start given disk place) disk =
      ⟨Octets.toBytes p.output, Octets.toBytes p.complaints, .code p.status,
        { p.disk with workingDirectory := disk.workingDirectory }⟩ := by
  obtain ⟨output, complaints, status, after⟩ := p
  cases complaints <;>
    simp [complete, useUtility, Machine.start, performs, Act.say, Act.lament, Machine.print,
      bind, EStateM.bind, Act.get_apply, Act.set_apply, Act.modify_apply, pure, EStateM.pure,
      Machine.completed]

section

variable {disk : Disk} {place : Location} {path directory : String} {content : List UInt8}

theorem cat_file {arg : String} (named : arg ≠ "-")
    (read : disk.read (Octets.toText arg) = .ok content) (input : List Char) :
    Utility.cat [arg] input disk = ⟨Octets.ofBytes content, [], 0, disk⟩ := by
  simp [Utility.cat, Utility.forEach, Performance.andThen, Utility.succeed, named, read]

/-- An engine that prints a file delivers what the file says, and changes nothing. -/
theorem ofCommand_cat {σ : Type} (inherited : List (String × String)) (selection : Selection)
    (state : σ) (named : path ≠ "-")
    (plain : ∀ text ∈ ["cat", path] ++ selection.parameters.map (·.2), hasNul text = false)
    (work : workplace disk directory = .ok place)
    (read : { disk with workingDirectory := place }.read path = .ok content) :
    Engine.ofCommand (spawn inherited) ⟨"cat", [path]⟩ directory selection state disk =
      ((EngineRun.ofOutput (Utf8.decodeLossy content) (.code 0)).after
        [Engine.commandNote ⟨"cat", [path]⟩ selection], state, disk) := by
  have other : Octets.ofText path ≠ "-" := fun h =>
    named ((Octets.toText_ofText path).symm.trans (congrArg Octets.toText h))
  rw [← Octets.toText_ofText path] at read
  have done := complete_useUtility Utility.cat [Octets.ofText path]
    (processVariables inherited selection.parameters) disk place (cat_file other read [])
  rw [Octets.toBytes_ofBytes] at done
  have started := @spawn_program inherited (Engine.launch ⟨"cat", [path]⟩ directory selection)
    disk place (useUtility false Utility.cat) plain work rfl
  have printed := started.trans (congrArg Except.ok done)
  rw [Engine.ofCommand, printed]
  rfl

example : (Engine.ofCommand (spawn []) ⟨"cat", ["events"]⟩ "/w"
    ⟨.baseline ⟨0⟩ "r" "a", .everything⟩ ()
    { Disk.blank with
      entries := [(["w"], .directory), (["w", "events"], .file (Utf8.bytes
        "\x7b\"event\":\"passed\",\"class\":\"A\",\"method\":\"a\"\x7d\n"))] }).1.reports =
      [.passed ⟨⟨"A", "a"⟩, []⟩] := by
  decide +kernel

end

/-! ## Reports that were printed -/

theorem output_complete (act : Act Unit) (m : Machine) (disk : Disk) :
    (complete act m disk).output = Octets.toBytes (act.leaves m).captured := by
  unfold complete Act.leaves
  cases act m with
  | ok _ after => rfl
  | error flow after => cases flow <;> rfl

/-- What the first commands of a script report in whole lines, the script reports first, whatever
    its other commands do and however it ends. -/
theorem reports_of_first_commands (depth : Nat) (guarded : Bool) (first rest : List Script)
    (m : Machine) (disk : Disk) {text : List Char}
    (printed : (complete (execute depth guarded (.sequence first)) m disk).output =
      Utf8.encode (text ++ ['\n'])) :
    (EngineOutput.read (String.ofList (text ++ ['\n']))).1 <+:
      (EngineOutput.read (Utf8.decodeLossy
        (complete (execute depth guarded (.sequence (first ++ rest))) m disk).output)).1 := by
  obtain ⟨more, hmore⟩ := (execute_printsTo depth guarded first rest m).captured
  have output : (complete (execute depth guarded (.sequence (first ++ rest))) m disk).output =
      Utf8.encode (text ++ ['\n']) ++ Octets.toBytes more := by
    rw [← printed, output_complete, output_complete, ← hmore, Octets.toBytes, List.map_append]
    rfl
  have shown : Utf8.decodeLossy (Utf8.encode (text ++ ['\n']) ++ Octets.toBytes more) =
      String.ofList (text ++ '\n' :: (Utf8.pieces (Octets.toBytes more)).map Utf8.Piece.shown) := by
    rw [Utf8.decodeLossy, Utf8.pieces_encode_append, List.map_append, List.map_map]
    simp [Function.comp_def, Utf8.Piece.shown]
  rw [output, shown]
  exact EngineOutput.read_lines_prefix text _

/-! ## Scripts as engines -/

section

variable {disk : Disk} {place : Location} {content : List UInt8} {script : Script}

/-- The shell that does the script of a file. -/
def Machine.startScript (given : List (String × String)) (disk : Disk) (place : Location)
    (path : String) : Machine :=
  { Machine.start given disk place with name := path }

/-- A shell that is given a file does the script of the file. -/
theorem complete_startShell (inner : (guarded : Bool) → Script → Act Unit)
    (given : List (String × String)) {arg : String}
    (operand : Utility.options [arg] = ([], [arg]))
    (read : { disk with workingDirectory := place }.read (Octets.toText arg) = .ok content)
    (parsed : Script.ofChars? (Octets.ofBytes content) = some script) :
    complete (startShell inner [arg]) (.start given disk place) disk =
      complete (inner false script) (.startScript given disk place arg) disk := by
  simp [complete, startShell, operand, Machine.startScript, Machine.start, runFile, runText,
    read, parsed, Builtin.turn, Act.setStatus, bind, EStateM.bind, Act.get_apply, Act.modify_apply]

/-- An engine that is a script delivers what its first commands report in whole lines before all
    that its other commands report. -/
theorem reports_of_script {σ : Type} (inherited : List (String × String)) (selection : Selection)
    (state : σ) {path directory : String} {first rest : List Script} {text : List Char}
    (operand : Utility.options [Octets.ofText path] = ([], [Octets.ofText path]))
    (plain : ∀ text ∈ ["sh", path] ++ selection.parameters.map (·.2), hasNul text = false)
    (work : workplace disk directory = .ok place)
    (read : { disk with workingDirectory := place }.read path = .ok content)
    (parsed : Script.ofChars? (Octets.ofBytes content) = some (.sequence (first ++ rest)))
    (printed : (complete (execute levels false (.sequence first))
      (.startScript (processVariables inherited selection.parameters) disk place
        (Octets.ofText path)) disk).output = Utf8.encode (text ++ ['\n'])) :
    (EngineOutput.read (String.ofList (text ++ ['\n']))).1 <+:
      (Engine.ofCommand (spawn inherited) ⟨"sh", [path]⟩ directory selection state
        disk).1.reports := by
  rw [← Octets.toText_ofText path] at read
  have program : program? "sh" = some (startShell (execute levels)) := rfl
  -- the number of levels does not matter, and nothing should count down from it
  generalize levels = depth at printed program
  have started := @spawn_program inherited (Engine.launch ⟨"sh", [path]⟩ directory selection)
    disk place _ plain work program
  have done := complete_startShell (execute depth)
    (processVariables inherited selection.parameters) operand read parsed
  have delivered := reports_of_first_commands depth false first rest _ disk printed
  have ran := started.trans (congrArg Except.ok done)
  rwa [Engine.reports_ofCommand ran]

end

/-! ## Commands that cannot be started -/

theorem spawn_error (inherited : List (String × String)) (launch : Launch) (disk : Disk)
    (unknown : program? launch.command.program = none) :
    ∃ cause, spawn inherited launch disk = .error cause := by
  unfold spawn
  dsimp only
  split
  · exact ⟨_, rfl⟩
  · cases workplace disk launch.directory with
    | error e => exact ⟨e, rfl⟩
    | ok place => exact ⟨_, by rw [unknown]⟩

/-- What an engine does whose command cannot be started. -/
def Unstarted (command : Command) (did : EngineRun) : Prop :=
  did.reports = [] ∧ ∃ cause, did.failure = some (.spawn command.text cause)

/-- With a command that is no program every run fails, by what keeps it from its baseline or by the
    one call in which the command cannot be started. -/
theorem run_unstartable {σ : Type} (inherited : List (String × String)) {command : Command}
    (unknown : program? command.program = none) (directory : String)
    (instrumentation : Instrumentation) (plan : RunPlan) (state : σ) (disk : Disk) :
    let (result, s) := run (Engine.ofCommand (spawn inherited) command directory) instrumentation
      plan (.start plan state disk)
    (∃ error, result = .error error ∧ s.turns = []) ∨
      ∃ did cause, s.turns = [plan.turn plan.baseline did] ∧ did.reports = [] ∧
        result = .error (.engine plan.baseline.id (.spawn command.text cause)) := by
  have fails : ∀ selection (state : σ) disk, Unstarted command
      (Engine.ofCommand (spawn inherited) command directory selection state disk).1 := by
    intro selection state disk
    obtain ⟨cause, hcause⟩ :=
      spawn_error inherited (Engine.launch command directory selection) disk unknown
    rw [Engine.ofCommand, hcause]
    exact ⟨rfl, cause, rfl⟩
  obtain ⟨acts, course, moved⟩ := run_course
    (Engine.ofCommand (spawn inherited) command directory) instrumentation plan state disk
  have unstarted := moved.calls.forall_turns (Unstarted command) fails
  have failing : ∀ turn ∈ turnsOf acts, turn.did.failure ≠ none := fun turn hturn => by
    obtain ⟨-, cause, failure⟩ := unstarted turn hturn
    simp [failure]
  dsimp only
  rw [moved.turns_start]
  rcases course.failing failing with early | ⟨did, failure, turns, failed, ended⟩
  · exact .inl early
  · obtain ⟨silent, cause, hcause⟩ := unstarted (plan.turn plan.baseline did) (by simp [turns])
    obtain rfl : failure = .spawn command.text cause := Option.some.inj (failed.symm.trans hcause)
    exact .inr ⟨did, cause, turns, silent, ended⟩

end Shell

end Flaky
