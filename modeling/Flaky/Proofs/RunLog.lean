-- SUMMARY: Run logs read back: a log is read as the ids that were put into it, in order.
import Flaky.Proofs.Disk
import Flaky.Proofs.ExecutionId
import Flaky.Proofs.Utf8
import Flaky.RunLog

/-!
# Reading run logs back

The text of an execution id holds no line feed, and is read as the id that it was
written for. So a file that holds the lines of some ids is read as these ids,
however many appends it took to write it, and a part of a line after them counts
for nothing.
-/

namespace Flaky

namespace RunLog

/-- The bytes of the lines of some ids. -/
def bytesOf (ids : List ExecutionId) : List UInt8 := Utf8.encode (ids.flatMap line)

theorem readLines_map (path : String) (n : Nat) (ids : List ExecutionId) :
    readLines path n (ids.map (·.chars)) = .ok ids := by
  induction ids generalizing n with
  | nil => rfl
  | cons id ids ih =>
    rw [List.map_cons, readLines, id.ofChars?_chars]
    simp only [ih, Except.map]

/-- Whole lines are read, and what comes after them is not. -/
theorem read_lined {path : String} {disk : Disk} {text tail : List Char}
    {lines : List (List Char)} (h : disk.find path = .ok (.file (Utf8.encode text)))
    (lined : Text.Lined '\n' text lines tail) : read path disk = readLines path 1 lines := by
  have htext : disk.readText path = .ok (String.ofList text) := by
    simp only [Disk.readText, Disk.read, h, Utf8.decode?_encode]
  simp only [read, htext, ofText, String.toList_ofList, wholeLines, lined.splitAt_eq,
    List.dropLast_concat]

theorem lined_ids (ids : List ExecutionId) {tail : List Char} (htail : '\n' ∉ tail) :
    Text.Lined '\n' (ids.flatMap line ++ tail) (ids.map (·.chars)) tail where
  text_eq := by
    rw [List.flatMap_map]
    rfl
  lines_free := by
    intro chars hchars
    obtain ⟨id, -, rfl⟩ := List.mem_map.mp hchars
    exact id.newline_not_mem_chars
  tail_free := htail

/-- A file that holds the lines of some ids and a part of a line is read as these ids. -/
theorem read_torn {path : String} {disk : Disk} {ids : List ExecutionId} {tail : List Char}
    (h : disk.find path = .ok (.file (Utf8.encode (ids.flatMap line ++ tail))))
    (htail : '\n' ∉ tail) : read path disk = .ok ids := by
  rw [read_lined h (lined_ids ids htail), readLines_map]

/-- A file that holds the lines of some ids is read as these ids. -/
theorem read_bytesOf {path : String} {disk : Disk} {ids : List ExecutionId}
    (h : disk.find path = .ok (.file (bytesOf ids))) : read path disk = .ok ids :=
  read_torn (by rwa [List.append_nil]) List.not_mem_nil

/-- What a run log is kept in, its next line belonging at the end of that. -/
structure KeptIn (log : RunLog) (disk : Disk) (entry : Entry) : Prop where
  find : disk.find log.path = .ok entry
  endsAt : entry.EndsAt log.position

/-- A run log that was opened is empty if it is a file. -/
theorem create_keptIn {path : String} {log : RunLog} {disk disk' : Disk}
    (h : RunLog.create path disk = (.ok log, disk')) :
    log.path = path ∧
      ∃ entry, log.KeptIn disk' entry ∧ ∀ content, entry = .file content → content = [] := by
  unfold RunLog.create at h
  split at h
  case h_1 disk₁ hcreate =>
    obtain ⟨hlog, rfl⟩ := Prod.mk.inj h
    obtain rfl := Except.ok.inj hlog
    obtain ⟨entry, hfind, hempty⟩ := Disk.create_find hcreate
    refine ⟨rfl, entry, ⟨hfind, fun content hfile => ?_⟩, hempty⟩
    rw [hempty content hfile]
    rfl
  case h_2 => cases (Prod.mk.inj h).1

/-- The line of an id that was put into a run log is at its end if it is a file. -/
theorem KeptIn.append {log log' : RunLog} {id : ExecutionId} {disk disk' : Disk} {entry : Entry}
    (kept : log.KeptIn disk entry) (h : log.append id disk = (.ok (), log', disk')) :
    log'.path = log.path ∧ log'.KeptIn disk' (entry.grown (Utf8.encode (line id))) := by
  unfold RunLog.append at h
  split at h
  case h_1 position disk₁ hwrite =>
    obtain ⟨-, hrest⟩ := Prod.mk.inj h
    obtain ⟨rfl, rfl⟩ := Prod.mk.inj hrest
    obtain ⟨hfind, rfl⟩ := Disk.writeAt_find kept.find kept.endsAt hwrite
    exact ⟨rfl, hfind, kept.endsAt.grown _⟩
  case h_2 => cases (Prod.mk.inj h).1

/-- A file that was empty at first and has grown by the lines of some ids is read as these ids. -/
theorem read_grown {path : String} {disk : Disk} {ids : List ExecutionId} {entry : Entry}
    (hempty : ∀ content, entry = .file content → content = [])
    (hfind : disk.find path = .ok (entry.grown (bytesOf ids)))
    (hfile : disk.isFile path = true) : read path disk = .ok ids :=
  read_bytesOf (Disk.find_grown hempty hfind hfile)

end RunLog

end Flaky
