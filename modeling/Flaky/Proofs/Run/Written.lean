-- SUMMARY: The artifacts on the disk: what was written at the end of a run is in its files, and writing it touches nothing else.
import Flaky.Proofs.Run.LogFile

/-!
# What the end of a run leaves on the disk

After the last round a run writes its artifacts, one after the other. Each write
touches the file at its path and no other, so the run log stays as the rounds left
it, and an artifact stays as it was written if those after it go elsewhere.
-/

namespace Flaky

/-! ## One artifact -/

section

variable {artifact : Artifact} {path text : String} {disk disk' : Disk}
variable {write : Disk → Except ArtifactError Unit × Disk}

theorem writeText_disk {unopened unwritten : IoError → ArtifactError} :
    (writeText unopened unwritten path text disk).2 = (disk.write path (Utf8.bytes text)).2 := by
  unfold writeText Disk.write
  rcases disk.create path with ⟨cause | _, disk₁⟩
  case error => rfl
  case ok =>
    simp only
    rcases disk₁.fill path (Utf8.bytes text) with ⟨cause | _, disk₂⟩
    case error => rfl
    case ok => rfl

theorem writeText_ok {unopened unwritten : IoError → ArtifactError}
    (h : writeText unopened unwritten path text disk = (.ok (), disk')) :
    disk.write path (Utf8.bytes text) = (.ok (), disk') := by
  unfold writeText at h
  unfold Disk.write
  generalize disk.create path = created at h ⊢
  obtain ⟨cause | _, disk₁⟩ := created
  case error => cases (Prod.mk.inj h).1
  case ok =>
    simp only at h ⊢
    generalize disk₁.fill path (Utf8.bytes text) = filled at h ⊢
    obtain ⟨cause | _, disk₂⟩ := filled
    case error => cases (Prod.mk.inj h).1
    case ok => rw [(Prod.mk.inj h).2]

theorem createParent_keeps (path : String) (disk : Disk) :
    Disk.Keeps (fun _ => False) disk (createParent path disk).2 := by
  unfold createParent
  split
  case h_1 => exact .refl _ disk
  case h_2 parent _ =>
    have kept := Disk.createDirectories_keeps disk parent
    split
    case h_1 disk' hcreate =>
      rw [hcreate] at kept
      exact kept
    case h_2 cause disk' hcreate =>
      rw [hcreate] at kept
      exact kept

/-- The JUnit report is written like any file, once there are directories for it. -/
theorem writeJunit_disk : (writeJunit path text disk).2 = (createParent path disk).2 ∨
    (writeJunit path text disk).2 =
      ((createParent path disk).2.write path (Utf8.bytes text)).2 := by
  unfold writeJunit
  rcases createParent path disk with ⟨error | _, disk₁⟩
  case error => exact .inl rfl
  case ok => exact .inr writeText_disk

theorem writeJunit_ok (h : writeJunit path text disk = (.ok (), disk')) :
    (createParent path disk).2.write path (Utf8.bytes text) = (.ok (), disk') := by
  unfold writeJunit at h
  generalize createParent path disk = placed at h ⊢
  obtain ⟨error | _, disk₁⟩ := placed
  case error => cases (Prod.mk.inj h).1
  case ok => exact writeText_ok h

namespace Artifact.WrittenBy

/-- Writing an artifact touches the file at its path only. -/
theorem keeps (way : artifact.WrittenBy path text write) (disk : Disk) :
    Disk.Keeps ((write disk).2.At path) disk (write disk).2 := by
  have written : ∀ disk : Disk, Disk.Keeps ((disk.write path (Utf8.bytes text)).2.At path) disk
      (disk.write path (Utf8.bytes text)).2 := fun disk => Disk.write_keeps disk path _
  cases way with
  | report =>
    rw [writeReport, writeText_disk]
    exact written disk
  | summary =>
    rw [writeSummary, writeText_disk]
    exact written disk
  | junit =>
    have placed := createParent_keeps path disk
    rcases @writeJunit_disk path text disk with hdisk | hdisk
    · rw [hdisk]
      exact placed.mono fun _ => False.elim
    · rw [hdisk]
      exact (placed.mono fun _ => False.elim).trans (written _)

/-- An artifact that was written is at its path. -/
theorem find (way : artifact.WrittenBy path text write) (h : write disk = (.ok (), disk')) :
    ∃ entry : Entry, disk'.find path = .ok (entry.grown (Utf8.bytes text)) ∧
      ∀ content, entry = .file content → content = [] := by
  cases way with
  | report | summary => exact Disk.write_find (writeText_ok h)
  | junit => exact Disk.write_find (writeJunit_ok h)

end Artifact.WrittenBy

end

/-! ## All artifacts -/

/-- The deed makes something known or writes an artifact. -/
def Deed.isClosing : Deed → Bool
  | .tell _ | .write .. => true
  | .createDirectory .. | .instrument | .execute _ | .openLog _ | .log .. => false

section

variable {σ : Type} {engine : Engine σ} {instrumentation : Instrumentation} {plan : RunPlan}
variable {deeds : List Deed} {world last : World σ}

/-- Closing deeds touch the files at the paths of the artifacts only. -/
theorem Deed.DoAll.closing_keeps (h : Deed.DoAll engine instrumentation plan deeds world last)
    (closing : ∀ deed ∈ deeds, deed.isClosing = true) :
    Disk.Keeps (fun place => ∃ task ∈ deeds.filterMap Deed.task?, last.disk.At task.2.1 place)
      world.disk last.disk := by
  induction h with
  | nil => exact .refl _ _
  | cons first rest ih =>
    rw [List.forall_mem_cons] at closing
    have later := ih closing.2
    cases first with
    | tell => exact later
    | @write artifact path text outcome write state disk disk' log way written =>
      have kept := way.keeps disk
      rw [written] at kept
      refine (kept.mono fun place hat => ?_).trans (later.mono fun place => ?_)
      · exact ⟨_, List.mem_cons_self, later.locate hat⟩
      · rintro ⟨task, htask, hat⟩
        exact ⟨task, List.mem_cons_of_mem _ htask, hat⟩
    | createDirectory | instrument | execute | openLog | missLog | log => cases closing.1

/-- Every artifact that was written is in its file, if those written after it are elsewhere. -/
theorem Deed.DoAll.closing_reads (h : Deed.DoAll engine instrumentation plan deeds world last)
    (closing : ∀ deed ∈ deeds, deed.isClosing = true)
    (unfailing : deeds.filterMap (Deed.failure? plan) = [])
    (apart : (deeds.filterMap Deed.task?).Pairwise fun task later =>
      last.disk.Apart task.2.1 later.2.1) :
    ∀ task ∈ deeds.filterMap Deed.task?, last.disk.isFile task.2.1 = true →
      last.disk.read task.2.1 = .ok (Utf8.bytes task.2.2) := by
  induction h with
  | nil => exact List.forall_mem_nil _
  | cons first rest ih =>
    rw [List.forall_mem_cons] at closing
    cases first with
    | tell => exact ih closing.2 unfailing apart
    | @write artifact path text outcome write state disk disk' log way written =>
      cases outcome with
      | error error => cases unfailing
      | ok done =>
        have htasks : ∀ deeds : List Deed, (.write artifact path text (.ok done) ::
            deeds).filterMap Deed.task? = (artifact, path, text) :: deeds.filterMap Deed.task? :=
          fun _ => rfl
        rw [htasks, List.pairwise_cons] at apart
        rw [htasks, List.forall_mem_cons]
        refine ⟨fun hfile => ?_, ih closing.2 unfailing apart.2⟩
        obtain ⟨entry, hfind, hempty⟩ := way.find written
        -- `apart` is about where paths lead in the end; they lead there from now on
        have kept := rest.closing_keeps closing.2
        have hlast := kept.find hfind fun place hat => by
          rintro ⟨task, htask, hsame⟩
          exact apart.1 task htask place (kept.locate hat) hsame
        rw [Disk.read, Disk.find_grown hempty hlast hfile]
    | createDirectory | instrument | execute | openLog | missLog | log => cases closing.1

theorem FinishedRun.closingDeeds_closing (run : FinishedRun) (writings : List Writing) :
    ∀ deed ∈ run.closingDeeds writings, deed.isClosing = true := by
  intro deed hdeed
  simp only [closingDeeds, List.mem_append, List.mem_map, List.mem_flatMap,
    List.mem_singleton] at hdeed
  rcases hdeed with (⟨event, -, rfl⟩ | ⟨writing, -, hdeed⟩) | rfl
  · rfl
  · obtain rfl | rfl : deed = _ ∨ deed = _ := by simpa [Writing.deeds] using hdeed
    · rfl
    · rfl
  · rfl

/-! ## Whole runs -/

/-- The JUnit report, if there is one, is none of the files in the directory of the run. -/
def RunPlan.JunitApart (plan : RunPlan) (disk : Disk) : Prop :=
  ∀ path, plan.settings.junitPath = some path →
    ∀ file ∈ [plan.directory.runLog, plan.directory.report, plan.directory.summary],
      disk.Apart file path

theorem RunPlan.JunitApart.tasks {run : FinishedRun} {disk : Disk} (h : plan.JunitApart disk) :
    (run.tasks plan.directory plan.settings.junitPath).Pairwise fun task later =>
      disk.Apart task.2.1 later.2.1 := by
  have reports : disk.Apart plan.directory.report plan.directory.summary :=
    disk.apart_join _ (by decide) (by decide) (by decide)
  rcases hpath : plan.settings.junitPath with _ | path
  · simp [FinishedRun.tasks, reports]
  · have apart := h path hpath
    simp [FinishedRun.tasks, reports, apart]

/-- No artifact is written over the run log. -/
theorem RunPlan.JunitApart.log {run : FinishedRun} {disk : Disk} (h : plan.JunitApart disk) :
    ∀ task ∈ run.tasks plan.directory plan.settings.junitPath,
      disk.Apart plan.directory.runLog task.2.1 := by
  have report : disk.Apart plan.directory.runLog plan.directory.report :=
    disk.apart_join _ (by decide) (by decide) (by decide)
  have summary : disk.Apart plan.directory.runLog plan.directory.summary :=
    disk.apart_join _ (by decide) (by decide) (by decide)
  rcases hpath : plan.settings.junitPath with _ | path
  · simp [FinishedRun.tasks, report, summary]
  · have apart := h path hpath
    simp [FinishedRun.tasks, report, summary, apart]

end

end Flaky
