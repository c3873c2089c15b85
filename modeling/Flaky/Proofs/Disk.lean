-- SUMMARY: What work on a disk leaves as it was: directories stay, and files stay but for the one that is created or written.
import Flaky.Files.Disk
import Flaky.Proofs.Path

/-!
# What disks keep

Creating directories, and creating and writing a file, leaves every entry of a disk
alone but for the file itself. Directories stay directories, so that a path leads
to the same place afterwards, and two files of one directory are not mixed up.
-/

namespace Flaky

/-- What an entry is once bytes have been put at its end. -/
def Entry.grown : Entry → List UInt8 → Entry
  | .file old, content => .file (old ++ content)
  | .directory, _ => .directory
  | .fullDevice, _ => .fullDevice
  | .sink, _ => .sink

theorem Entry.grown_nil (entry : Entry) : entry.grown [] = entry := by
  cases entry <;> simp [Entry.grown]

theorem Entry.grown_grown (entry : Entry) (first rest : List UInt8) :
    (entry.grown first).grown rest = entry.grown (first ++ rest) := by
  cases entry <;> simp [Entry.grown]

/-- An entry ends at a position if it is a file. -/
def Entry.EndsAt (entry : Entry) (position : Nat) : Prop :=
  ∀ content, entry = .file content → content.length = position

theorem Entry.EndsAt.grown {entry : Entry} {position : Nat} (h : entry.EndsAt position)
    (content : List UInt8) : (entry.grown content).EndsAt (position + content.length) := by
  cases entry with
  | file old =>
    rintro _ ⟨⟩
    rw [List.length_append, h old rfl]
  | directory | fullDevice | sink => nofun

namespace Disk

/-! ## Entries -/

section

variable {disk : Disk} {place other : Location} {entry : Entry}

theorem entry?_nil : disk.entry? [] = some .directory := rfl

theorem ne_nil_of_not_directory (h : disk.entry? place ≠ some .directory) : place ≠ [] :=
  fun hnil => h (hnil ▸ entry?_nil)

theorem find?_setEntry {entries : List (Location × Entry)} :
    (setEntry place entry entries).find? (fun e => e.1 == other) =
      if place = other then some (other, entry) else entries.find? fun e => e.1 == other := by
  induction entries with
  | nil => by_cases h : place = other <;> simp [setEntry, h]
  | cons first rest ih =>
    obtain ⟨firstPlace, firstEntry⟩ := first
    by_cases hfirst : firstPlace = place
    · subst hfirst
      by_cases h : firstPlace = other <;> simp [setEntry, h]
    · rw [setEntry, if_neg hfirst, List.find?_cons, ih, List.find?_cons]
      by_cases hother : firstPlace = other
      · subst hother
        simp [Ne.symm hfirst]
      · simp only [beq_false_of_ne hother]

theorem entry?_set_self (h : place ≠ []) :
    Disk.entry? (disk.set place entry) place = some entry := by
  simp [Disk.entry?, set, find?_setEntry, h]

theorem entry?_set_ne (h : other ≠ place) :
    Disk.entry? (disk.set place entry) other = disk.entry? other := by
  simp [Disk.entry?, set, find?_setEntry, Ne.symm h]

end

/-! ## Keeping -/

/-- A disk keeps its entries but for changed places, and its directories everywhere. -/
structure Keeps (changed : Location → Prop) (disk disk' : Disk) : Prop where
  workingDirectory : disk'.workingDirectory = disk.workingDirectory
  entry : ∀ place entry, ¬ changed place → disk.entry? place = some entry →
    disk'.entry? place = some entry
  directory : ∀ place, disk.entry? place = some .directory → disk'.entry? place = some .directory

namespace Keeps

variable {changed : Location → Prop} {disk disk₁ disk' : Disk}

theorem refl (changed : Location → Prop) (disk : Disk) : Keeps changed disk disk :=
  ⟨rfl, fun _ _ _ h => h, fun _ h => h⟩

theorem trans (h : Keeps changed disk disk₁) (h' : Keeps changed disk₁ disk') :
    Keeps changed disk disk' where
  workingDirectory := h'.workingDirectory.trans h.workingDirectory
  entry place entry hsame hentry := h'.entry place entry hsame (h.entry place entry hsame hentry)
  directory place hdirectory := h'.directory place (h.directory place hdirectory)

theorem mono {changed' : Location → Prop} (h : Keeps changed disk disk')
    (hsub : ∀ place, changed place → changed' place) : Keeps changed' disk disk' where
  workingDirectory := h.workingDirectory
  entry place entry hsame := h.entry place entry fun hchanged => hsame (hsub place hchanged)
  directory := h.directory

/-- Counting a write changes no entry. -/
theorem count (h : Keeps changed disk disk') (writes : Nat) :
    Keeps changed { disk with writes := writes } disk' :=
  ⟨h.workingDirectory, h.entry, h.directory⟩

/-- An entry is put where there was no directory. -/
theorem set {place : Location} {entry : Entry} (h : disk.entry? place ≠ some .directory) :
    Keeps (· = place) disk (disk.set place entry) where
  workingDirectory := rfl
  entry other entry hother hentry := by rw [entry?_set_ne hother, hentry]
  directory other hdirectory := by
    have hother : other ≠ place := fun heq => h (heq ▸ hdirectory)
    rw [entry?_set_ne hother, hdirectory]

/-- An entry is put where there was none. -/
theorem set_new {place : Location} {entry : Entry} (h : disk.entry? place = none) :
    Keeps (fun _ => False) disk (disk.set place entry) where
  workingDirectory := rfl
  entry other entry _ hentry := by
    have hother : other ≠ place := fun heq => by simp [heq, h] at hentry
    rw [entry?_set_ne hother, hentry]
  directory other hdirectory := by
    have hother : other ≠ place := fun heq => by simp [heq, h] at hdirectory
    rw [entry?_set_ne hother, hdirectory]

theorem enter (h : Keeps changed disk disk') {place next : Location} {name : String}
    (henter : disk.enter place name = .ok next) : disk'.enter place name = .ok next := by
  unfold Disk.enter at henter ⊢
  cases hentry : disk.entry? place with
  | none => simp [hentry] at henter
  | some entry =>
    cases entry with
    | directory =>
      rw [hentry] at henter
      rw [h.directory place hentry]
      exact henter
    | file content => simp [hentry] at henter
    | fullDevice => simp [hentry] at henter
    | sink => simp [hentry] at henter

theorem follow (h : Keeps changed disk disk') {names : List String} {place last : Location}
    (hfollow : disk.follow place names = .ok last) : disk'.follow place names = .ok last := by
  induction names generalizing place with
  | nil => exact hfollow
  | cons name rest ih =>
    unfold Disk.follow at hfollow ⊢
    cases henter : disk.enter place name with
    | error error => simp [henter] at hfollow
    | ok next =>
      rw [henter] at hfollow
      rw [h.enter henter]
      exact ih hfollow

/-- A path leads to the same place. -/
theorem locate (h : Keeps changed disk disk') {path : String} {place : Location}
    (hlocate : disk.locate path = .ok place) : disk'.locate path = .ok place := by
  have horigin : disk'.origin path = disk.origin path := by
    simp [origin, h.workingDirectory]
  unfold Disk.locate at hlocate ⊢
  rw [horigin]
  split at hlocate
  case isTrue => cases hlocate
  case isFalse hnul =>
    rw [if_neg hnul]
    split at hlocate
    case isTrue => cases hlocate
    case isFalse hempty =>
      rw [if_neg hempty]
      split at hlocate
      case isTrue => cases hlocate
      case isFalse hlong =>
        rw [if_neg hlong]
        exact h.follow hlocate

end Keeps

/-! ## What a path leads to -/

section

variable {disk disk' : Disk} {path : String} {place : Location} {entry : Entry}

theorem find_eq_ok : disk.find path = .ok entry ↔ ∃ place, disk.locate path = .ok place ∧
    disk.entry? place = some entry ∧ (endsInSlash path = true → entry = .directory) := by
  unfold find
  cases hlocate : disk.locate path with
  | error error => simp
  | ok place =>
    cases hentry : disk.entry? place with
    | none => simp [hentry]
    | some found =>
      cases hslash : endsInSlash path with
      | false => cases found <;> simp [hentry]
      | true => cases found <;> simp [hentry] <;> rintro rfl <;> simp

/-- What a path leads to stays, unless it is at a changed place. -/
theorem Keeps.find {changed : Location → Prop} (h : Keeps changed disk disk')
    (hfind : disk.find path = .ok entry)
    (hsame : ∀ place, disk.locate path = .ok place → ¬ changed place) :
    disk'.find path = .ok entry := by
  obtain ⟨place, hlocate, hentry, hslash⟩ := find_eq_ok.mp hfind
  exact find_eq_ok.mpr
    ⟨place, h.locate hlocate, h.entry place entry (hsame place hlocate) hentry, hslash⟩

end

/-! ## Operations -/

section

variable {disk disk' : Disk} {path : String} {content : List UInt8}

theorem createAlong_keeps (disk : Disk) (place : Location) (names : List String) :
    Keeps (fun _ => False) disk (disk.createAlong place names).2 := by
  induction names generalizing disk place with
  | nil => exact .refl _ disk
  | cons name rest ih =>
    unfold createAlong
    split
    case h_1 => exact .refl _ disk
    case h_2 next _ =>
      split
      case h_1 hnone => exact (Keeps.set_new hnone).trans (ih _ next)
      case h_2 => exact ih disk next
      case h_3 => exact .refl _ disk

theorem createDirectories_keeps (disk : Disk) (path : String) :
    Keeps (fun _ => False) disk (disk.createDirectories path).2 := by
  unfold createDirectories
  split
  · exact .refl _ disk
  · split
    · exact .refl _ disk
    · split
      · exact .refl _ disk
      · exact createAlong_keeps disk _ _

/-- The place of a path. -/
def At (disk : Disk) (path : String) (place : Location) : Prop := disk.locate path = .ok place

theorem create_keeps (disk : Disk) (path : String) :
    Keeps (disk.At path) disk (disk.create path).2 := by
  unfold create
  split
  case h_1 => exact .refl _ disk
  case h_2 place hlocate =>
    have here : ∀ other, other = place → disk.At path other := fun other heq => heq ▸ hlocate
    split
    case isTrue => exact .refl _ disk
    case isFalse =>
      split
      case h_1 => exact .refl _ disk
      case h_2 => exact .refl _ disk
      case h_3 => exact .refl _ disk
      case h_4 hfile => exact (Keeps.set (by simp [hfile])).mono here
      case h_5 hnone =>
        split
        case isTrue => exact (Keeps.set (by simp [hnone])).mono here
        case isFalse => exact .refl _ disk

theorem alter_keeps (disk : Disk) (place : Location) (change : List UInt8 → List UInt8) :
    Keeps (· = place) disk (disk.alter place change) := by
  unfold alter
  split
  case h_1 old hfile => exact .set (by simp [hfile])
  case h_2 => exact .refl _ disk

theorem writeAt_keeps (disk : Disk) (path : String) (position : Nat) (content : List UInt8) :
    Keeps (disk.At path) disk (disk.writeAt path position content).2.2 := by
  unfold writeAt
  simp only
  split
  case h_1 => exact (Keeps.refl _ { disk with writes := disk.writes + 1 }).count disk.writes
  case h_2 place hlocate =>
    have altered := alter_keeps { disk with writes := disk.writes + 1 } place
      (overwrite position (disk.passTo place content).2)
    exact (altered.mono fun other heq => heq ▸ hlocate).count disk.writes

theorem fill_keeps (disk : Disk) (path : String) (content : List UInt8) :
    Keeps (disk.At path) disk (disk.fill path content).2 :=
  writeAt_keeps disk path 0 content

/-- A file is written by creating it and putting its content in. -/
theorem write_keeps (disk : Disk) (path : String) (content : List UInt8) :
    Keeps ((disk.write path content).2.At path) disk (disk.write path content).2 := by
  have created := create_keeps disk path
  unfold write
  split
  case h_1 error disk₁ hcreate =>
    rw [hcreate] at created
    exact created.mono fun _ hat => created.locate hat
  case h_2 disk₁ hcreate =>
    rw [hcreate] at created
    have filled := fill_keeps disk₁ path content
    exact (created.mono fun _ hat => filled.locate (created.locate hat)).trans
      (filled.mono fun _ hat => filled.locate hat)

/-! ## Directories that were created -/

theorem directory_of_enter {place next : Location} {name : String}
    (h : disk.enter place name = .ok next) : disk.entry? place = some .directory := by
  unfold enter at h
  split at h
  case h_1 => cases h
  case h_2 hdirectory => exact hdirectory
  case h_3 => cases h

/-- The way along which directories were created can be followed, and leads to one. -/
theorem follow_createAlong {place : Location} {names : List String}
    (hplace : disk.entry? place = some .directory)
    (h : disk.createAlong place names = (.ok (), disk')) :
    ∃ last, disk'.follow place names = .ok last ∧ disk'.entry? last = some .directory := by
  induction names generalizing disk place with
  | nil =>
    obtain rfl : disk = disk' := (Prod.mk.inj h).2
    exact ⟨place, rfl, hplace⟩
  | cons name rest ih =>
    have kept := createAlong_keeps disk place (name :: rest)
    rw [h] at kept
    unfold createAlong at h
    split at h
    case h_1 => cases (Prod.mk.inj h).1
    case h_2 next henter =>
      have later : ∃ last, disk'.follow next rest = .ok last ∧
          disk'.entry? last = some .directory := by
        split at h
        case h_1 hnone =>
          have hnew : disk.entry? next ≠ some .directory := by simp [hnone]
          exact ih (entry?_set_self (ne_nil_of_not_directory hnew)) h
        case h_2 hdirectory => exact ih hdirectory h
        case h_3 => cases (Prod.mk.inj h).1
      rw [follow, kept.enter henter]
      exact later

/-- A path with a name in it leads to a directory once its directories have been created. -/
theorem createDirectories_isDirectory (hnames : names path ≠ [])
    (h : disk.createDirectories path = (.ok (), disk')) : disk'.isDirectory path = true := by
  have kept := createDirectories_keeps disk path
  rw [h] at kept
  unfold createDirectories at h
  split at h
  case isTrue hempty =>
    rw [String.isEmpty_iff.mp hempty] at hnames
    exact absurd (by decide) hnames
  case isFalse hempty =>
    split at h
    case isTrue => cases (Prod.mk.inj h).1
    case isFalse hnul =>
      split at h
      case isTrue => cases (Prod.mk.inj h).1
      case isFalse hlong =>
        -- the first name could only be entered from a directory
        have horigin : disk.entry? (disk.origin path) = some .directory := by
          obtain ⟨name, rest, hpath⟩ := List.exists_cons_of_ne_nil hnames
          rw [hpath, createAlong] at h
          split at h
          case h_1 => cases (Prod.mk.inj h).1
          case h_2 next henter => exact directory_of_enter henter
        obtain ⟨last, hfollow, hlast⟩ := follow_createAlong horigin h
        have hworking : disk'.workingDirectory = disk.workingDirectory := kept.workingDirectory
        have hlocate : disk'.locate path = .ok last := by
          rw [locate, if_neg hnul, if_neg hempty, if_neg hlong, origin, hworking]
          exact hfollow
        rw [isDirectory, find_eq_ok.mpr ⟨last, hlocate, hlast, fun _ => rfl⟩]

/-! ## What is written -/

/-- A path leads to a file that was created, and the file is empty if it is one. -/
theorem create_find (h : disk.create path = (.ok (), disk')) :
    ∃ entry, disk'.find path = .ok entry ∧ ∀ content, entry = .file content → content = [] := by
  have kept := create_keeps disk path
  rw [h] at kept
  unfold create at h
  split at h
  case h_1 => simp at h
  case h_2 place hlocate =>
    have hlocate' := kept.locate hlocate
    split at h
    case isTrue => simp at h
    case isFalse hslash =>
      have found : ∀ entry, disk'.entry? place = some entry → disk'.find path = .ok entry :=
        fun entry hentry => find_eq_ok.mpr ⟨place, hlocate', hentry, fun hs => absurd hs hslash⟩
      have created : disk.entry? place ≠ some .directory → disk' = disk.set place (.file []) →
          disk'.find path = .ok (.file []) := by
        rintro hentry rfl
        exact found _ (entry?_set_self (ne_nil_of_not_directory hentry))
      split at h
      case h_1 => simp at h
      case h_2 hentry =>
        obtain rfl : disk = disk' := (Prod.mk.inj h).2
        exact ⟨.fullDevice, found _ hentry, by simp⟩
      case h_3 hentry =>
        obtain rfl : disk = disk' := (Prod.mk.inj h).2
        exact ⟨.sink, found _ hentry, by simp⟩
      case h_4 hentry =>
        exact ⟨.file [], created (by simp [hentry]) (Prod.mk.inj h).2.symm, by simp⟩
      case h_5 hentry =>
        split at h
        case isTrue =>
          exact ⟨.file [], created (by simp [hentry]) (Prod.mk.inj h).2.symm, by simp⟩
        case isFalse => simp at h

/-- At the end of a file nothing is written over. -/
theorem overwrite_end (content old : List UInt8) :
    overwrite old.length content old = old ++ content := by
  unfold overwrite
  split
  case isTrue hempty => simp [List.isEmpty_iff.mp hempty]
  case isFalse => simp

/-- Bytes that are written where a file ends are at its end, and in no device. -/
theorem entry?_overwrite {place : Location} {entry : Entry} {position : Nat}
    (hentry : disk.entry? place = some entry) (hend : entry.EndsAt position)
    (content : List UInt8) :
    Disk.entry? (disk.alter place (overwrite position content)) place =
      some (entry.grown content) := by
  cases entry with
  | file old =>
    have hne : disk.entry? place ≠ some .directory := by simp [hentry]
    obtain rfl := hend old rfl
    simp only [alter, hentry, Entry.grown, overwrite_end]
    exact entry?_set_self (ne_nil_of_not_directory hne)
  | directory => simp [alter, hentry, Entry.grown]
  | fullDevice => simp [alter, hentry, Entry.grown]
  | sink => simp [alter, hentry, Entry.grown]

/-- Bytes that were written at the end of a file without failure are there, and in no device. -/
theorem writeAt_find {entry : Entry} {position next : Nat} (hfind : disk.find path = .ok entry)
    (hend : entry.EndsAt position)
    (h : disk.writeAt path position content = (.ok (), next, disk')) :
    disk'.find path = .ok (entry.grown content) ∧ next = position + content.length := by
  have kept := writeAt_keeps disk path position content
  rw [h] at kept
  obtain ⟨place, hlocate, hentry, hslash⟩ := find_eq_ok.mp hfind
  simp only [writeAt, hlocate, Prod.mk.injEq] at h
  obtain ⟨hok, rfl, rfl⟩ := h
  -- a write that goes well passes on all its bytes
  have hpassed : (disk.passTo place content).2 = content := by
    unfold passTo pass at hok ⊢
    split at hok
    case isTrue hfull =>
      rw [if_pos hfull]
      cases content with
      | nil => rfl
      | cons byte rest => cases hok
    case isFalse hroom =>
      rw [if_neg hroom]
      cases hfault : disk.faults disk.writes with
      | some fault => simp [hfault] at hok
      | none => rfl
  rw [hpassed] at kept ⊢
  refine ⟨find_eq_ok.mpr ⟨place, kept.locate hlocate, ?_, fun hs => by rw [hslash hs]; rfl⟩, rfl⟩
  have counted : Disk.entry? { disk with writes := disk.writes + 1 } place = some entry := hentry
  exact entry?_overwrite counted hend content

/-- A write at the end of a file ends as was laid down for it, and the bytes that come through are
    at the end of the file then. -/
theorem writeAt_file {old : List UInt8} (hfind : disk.find path = .ok (.file old))
    (content : List UInt8) :
    ∃ disk' : Disk,
      disk.writeAt path old.length content =
        ((disk.pass content).1, (old ++ (disk.pass content).2).length, disk') ∧
      disk'.find path = .ok (.file (old ++ (disk.pass content).2)) ∧
      disk'.faults = disk.faults ∧ disk'.writes = disk.writes + 1 := by
  have kept := writeAt_keeps disk path old.length content
  obtain ⟨place, hlocate, hentry, hslash⟩ := find_eq_ok.mp hfind
  have hpass : disk.passTo place content = disk.pass content := by
    simp [passTo, hentry]
  have hwrite : disk.writeAt path old.length content = ((disk.pass content).1,
      (old ++ (disk.pass content).2).length, { disk with writes := disk.writes + 1 }.alter place
        (overwrite old.length (disk.pass content).2)) := by
    simp only [writeAt, hlocate, hpass, List.length_append]
  rw [hwrite] at kept
  have counted : Disk.entry? { disk with writes := disk.writes + 1 } place = some (.file old) :=
    hentry
  have hend : (Entry.file old).EndsAt old.length := by
    rintro _ ⟨⟩
    rfl
  have there := entry?_overwrite counted hend (disk.pass content).2
  refine ⟨_, hwrite, ?_, ?_⟩
  · exact find_eq_ok.mpr ⟨place, kept.locate hlocate, there, fun hs => nomatch hslash hs⟩
  · unfold alter
    split <;> exact ⟨rfl, rfl⟩

/-- A path leads to a file that was written, and the file holds what was written if it is one. -/
theorem write_find (h : disk.write path content = (.ok (), disk')) :
    ∃ entry : Entry, disk'.find path = .ok (entry.grown content) ∧
      ∀ content, entry = .file content → content = [] := by
  unfold write at h
  split at h
  case h_1 => cases (Prod.mk.inj h).1
  case h_2 disk₁ hcreate =>
    obtain ⟨entry, hfind, hempty⟩ := create_find hcreate
    have hend : entry.EndsAt 0 := fun content heq => by rw [hempty content heq]; rfl
    obtain ⟨hok, rfl⟩ := Prod.mk.inj h
    exact ⟨entry, (writeAt_find hfind hend (Prod.ext hok rfl)).1, hempty⟩

/-- What has grown from an empty file is a file that holds what was put there. -/
theorem find_grown {entry : Entry} (hempty : ∀ content, entry = .file content → content = [])
    (hfind : disk.find path = .ok (entry.grown content)) (hfile : disk.isFile path = true) :
    disk.find path = .ok (.file content) := by
  rw [isFile, hfind] at hfile
  cases entry with
  | file old =>
    obtain rfl := hempty old rfl
    exact hfind
  | directory => cases hfile
  | fullDevice => cases hfile
  | sink => cases hfile

end

/-! ## Files of one directory -/

/-- Where one name leads that is followed. -/
def step (place : Location) (name : String) : Location :=
  if name = "." then place else if name = ".." then place.dropLast else place ++ [name]

theorem enter_eq {disk : Disk} {place next : Location} {name : String}
    (h : disk.enter place name = .ok next) : next = step place name := by
  unfold enter at h
  unfold step
  split at h
  case h_1 => cases h
  case h_2 =>
    split at h
    case isTrue hdot => rw [if_pos hdot]; exact (Except.ok.inj h).symm
    case isFalse hdot =>
      rw [if_neg hdot]
      split at h
      case isTrue hdots => rw [if_pos hdots]; exact (Except.ok.inj h).symm
      case isFalse hdots =>
        rw [if_neg hdots]
        split at h
        case isTrue => cases h
        case isFalse => exact (Except.ok.inj h).symm
  case h_3 => cases h

theorem follow_eq {disk : Disk} {names : List String} {place last : Location}
    (h : disk.follow place names = .ok last) : last = names.foldl step place := by
  induction names generalizing place with
  | nil => exact (Except.ok.inj h).symm
  | cons name rest ih =>
    unfold follow at h
    split at h
    case h_1 => cases h
    case h_2 next henter =>
      rw [List.foldl_cons, ← enter_eq henter]
      exact ih h

theorem locate_eq {disk : Disk} {path : String} {place : Location}
    (h : disk.locate path = .ok place) :
    place = (names path).foldl step (disk.origin path) := by
  unfold locate at h
  split at h
  case isTrue => cases h
  case isFalse =>
    split at h
    case isTrue => cases h
    case isFalse =>
      split at h
      case isTrue => cases h
      case isFalse => exact follow_eq h

/-- A name that stands for a file or directory and is not taken apart. -/
def isPlain (name : String) : Bool :=
  name != "" && name != "." && name != ".." && !name.toList.contains '/'

theorem isPlain_iff {name : String} : isPlain name = true ↔
    name ≠ "" ∧ name ≠ "." ∧ name ≠ ".." ∧ '/' ∉ name.toList := by
  simp [isPlain, and_assoc]

theorem not_isAbsolute_of_isPlain {name : String} (h : isPlain name = true) :
    Path.isAbsolute name = false := by
  have hslash := (isPlain_iff.mp h).2.2.2
  rw [Path.isAbsolute, beq_eq_false_iff_ne]
  exact fun hhead => hslash (List.mem_of_head? hhead)

theorem names_plain {name : String} (h : isPlain name = true) : names name = [name] := by
  obtain ⟨hne, -, -, hslash⟩ := isPlain_iff.mp h
  rw [names, Path.filter_parts rfl, Text.splitAt_of_not_mem hslash]
  simp [hne]

/-- A plain name that is joined to a path is the last of its names. -/
theorem names_join {base name : String} (h : isPlain name = true) :
    names (Path.join base name) = names base ++ [name] := by
  rw [← names_plain h]
  exact Path.filter_parts_join rfl (not_isAbsolute_of_isPlain h)

theorem origin_join {disk : Disk} {base name : String} (h : isPlain name = true) :
    disk.origin (Path.join base name) = disk.origin base := by
  rw [origin, origin, Path.isAbsolute_join, not_isAbsolute_of_isPlain h, Bool.or_false]

/-- A file in a directory is at its name there. -/
theorem locate_join {disk : Disk} {base name : String} {place : Location}
    (hname : isPlain name = true) (h : disk.locate (Path.join base name) = .ok place) :
    place = (names base).foldl step (disk.origin base) ++ [name] := by
  obtain ⟨-, hdot, hdots, -⟩ := isPlain_iff.mp hname
  rw [locate_eq h, names_join hname, origin_join hname, List.foldl_append, List.foldl_cons,
    List.foldl_nil, step, if_neg hdot, if_neg hdots]

/-- Two paths do not lead to the same place. -/
def Apart (disk : Disk) (path other : String) : Prop :=
  ∀ place, disk.At path place → ¬ disk.At other place

theorem apart_of_locate_ne {disk : Disk} {path other : String}
    (h : disk.locate path ≠ disk.locate other) : disk.Apart path other :=
  fun _ hat hat' => h (hat.trans hat'.symm)

/-- Two files of one directory are apart. -/
theorem apart_join (disk : Disk) (base : String) {name other : String}
    (hname : isPlain name = true) (hother : isPlain other = true) (hne : name ≠ other) :
    disk.Apart (Path.join base name) (Path.join base other) := by
  intro place hat hat'
  have heq := (locate_join hname hat).symm.trans (locate_join hother hat')
  exact hne (by simpa using heq)

end Disk

end Flaky
