-- SUMMARY: The directories that workers are told of: they are those of the run exactly if the store's path is absolute, or the workspace is the current directory.
import Flaky.Proofs.CommandLine.Request
import Flaky.Proofs.RunLog
import Flaky.Proofs.Run.Phases

/-!
# The directories of workers

A run and the commands that it starts are told of directories by the same paths, but
they do not work in the same place: the commands are started in the root of the
workspace. An absolute path leads both to one place. A relative path of the store
starts with the root, so a command that works in the root goes through the root twice.
-/

namespace Flaky

/-! ## Paths from the root -/

namespace Path

/-- From a root, a path leads where it leads from above the root if it is absolute or the root
goes nowhere. -/
theorem components_from_root {current root path : String} (hcurrent : isAbsolute current = true) :
    components (join (join current root) path) = components (join current path) ↔
      isAbsolute path = true ∨ inner (join current root) = inner current := by
  have hroot : isAbsolute (join current root) = true := by
    rw [isAbsolute_join, hcurrent, Bool.true_or]
  rw [components_join hroot, components_join hcurrent]
  cases isAbsolute path <;> simp

theorem not_isAbsolute_of_not_mem {path : String} (h : '/' ∉ path.toList) :
    isAbsolute path = false := by
  rw [Bool.eq_false_iff]
  intro habsolute
  obtain ⟨rest, hpath⟩ := isAbsolute_iff.mp habsolute
  rw [hpath] at h
  exact h List.mem_cons_self

end Path

theorem Uuid.not_isAbsolute_text (id : Uuid) : Path.isAbsolute id.text = false := by
  apply Path.not_isAbsolute_of_not_mem
  rw [Uuid.text, String.toList_ofList]
  intro hslash
  exact absurd (id.chars_subset hslash) (by decide)

theorem ExecutionId.not_isAbsolute_text (id : ExecutionId) : Path.isAbsolute id.text = false := by
  apply Path.not_isAbsolute_of_not_mem
  rw [ExecutionId.text, String.toList_ofList]
  intro hslash
  exact absurd (id.chars_subset hslash) (by decide)

namespace RunPlan

theorem isAbsolute_artifacts (plan : RunPlan) :
    Path.isAbsolute plan.artifacts = Path.isAbsolute plan.store := by
  have hname : Path.isAbsolute "instrumentation" = false := by decide
  rw [artifacts, RunDirectory.artifacts, Path.isAbsolute_join, hname, Bool.or_false]

theorem isAbsolute_directory (plan : RunPlan) :
    Path.isAbsolute plan.directory.path = Path.isAbsolute plan.store := by
  have hname : Path.isAbsolute "runs" = false := by decide
  rw [RunDirectory.path, RunDirectory.allRuns, Path.isAbsolute_join, Path.isAbsolute_join, hname,
    Uuid.not_isAbsolute_text, Bool.or_false, Bool.or_false]
  rfl

theorem round_runDirectory (plan : RunPlan) (i : Nat) :
    (plan.round i).runDirectory = plan.directory.path := by
  cases i with
  | zero => rw [round, baseline, Round.baseline]
  | succ index => rw [round, seeded, Round.seeded]

theorem round_artifactDirectory (plan : RunPlan) (i : Nat) :
    (plan.round i).artifactDirectory = plan.artifacts := by
  cases i with
  | zero => rw [round, baseline, Round.baseline]
  | succ index => rw [round, seeded, Round.seeded]

theorem isAbsolute_outputDirectory (plan : RunPlan) (i : Nat) :
    Path.isAbsolute (plan.round i).outputDirectory = Path.isAbsolute plan.store := by
  rw [Round.outputDirectory, round_runDirectory, Path.isAbsolute_join, isAbsolute_directory,
    ExecutionId.not_isAbsolute_text, Bool.or_false]

/-- What the engine is asked to execute in a round. -/
def selection (plan : RunPlan) (i : Nat) : Selection := ⟨plan.round i, plan.settings.filter⟩

end RunPlan

namespace CommandLine

variable {surroundings : Surroundings}

/-! ## Workers -/

/-- The path that a worker is told leads from where it works to a directory of the run. -/
def LeadsTo (current : String) (worker : Launch) (told : Launch → Option String)
    (directory : String) : Prop :=
  ∃ path, told worker = some path ∧
    Path.components (Path.join (Path.join current worker.directory) path) =
      Path.components (Path.join current directory)

/-- The commands of a run that is started in the directory `current` mean by the paths that they
are told the directories that the run creates and checks. -/
structure SharesDirectories (current : String) (request : RunRequest surroundings) : Prop where
  output : ∀ i,
    LeadsTo current (Engine.launch request.engine request.root (request.plan.selection i))
      (·.environment.lookup "FLAKEHUNT_OUTPUT_DIR") (request.plan.round i).outputDirectory
  artifacts : ∀ i,
    LeadsTo current (Engine.launch request.engine request.root (request.plan.selection i))
      (·.environment.lookup "FLAKEHUNT_ARTIFACT_DIR") request.plan.artifacts
  instrumentation : ∀ command ∈ request.profile.settings.instrumentation,
    LeadsTo current (Instrumentation.launch command request.root request.plan.artifacts)
      (·.command.args.getLast?) request.plan.artifacts

section

variable {engine : Command} {root : String} (plan : RunPlan) (i : Nat)

theorem lookup_output :
    (Engine.launch engine root (plan.selection i)).environment.lookup "FLAKEHUNT_OUTPUT_DIR" =
      some (plan.round i).outputDirectory := by
  simp [Engine.launch, Selection.parameters, Round.parameters, RunPlan.selection,
    List.lookup_cons]

theorem lookup_artifacts :
    (Engine.launch engine root (plan.selection i)).environment.lookup "FLAKEHUNT_ARTIFACT_DIR" =
      some plan.artifacts := by
  simp [Engine.launch, Selection.parameters, Round.parameters, RunPlan.selection,
    List.lookup_cons, RunPlan.round_artifactDirectory]

end

/-- A path of a relative store leads a worker astray unless the root goes nowhere. -/
theorem leadsTo_iff {current root store path : String} {worker : Launch}
    {told : Launch → Option String} (hcurrent : Path.isAbsolute current = true)
    (hworker : worker.directory = root)
    (hroot : Path.isAbsolute root = true → Path.isAbsolute store = true)
    (htold : told worker = some path) (hpath : Path.isAbsolute path = Path.isAbsolute store) :
    LeadsTo current worker told path ↔ Path.isAbsolute store = true ∨ Path.inner root = [] := by
  have hsame : LeadsTo current worker told path ↔
      Path.isAbsolute path = true ∨
        Path.inner (Path.join current root) = Path.inner current := by
    rw [← Path.components_from_root hcurrent, ← hworker]
    constructor
    · rintro ⟨found, hfound, hleads⟩
      obtain rfl := Option.some.inj (htold.symm.trans hfound)
      exact hleads
    · intro hleads
      exact ⟨path, htold, hleads⟩
  rw [hsame, hpath]
  cases hrelative : Path.isAbsolute root with
  | true => simp [hroot hrelative]
  | false => rw [Path.inner_join hrelative, List.append_right_eq_self]

/-- The commands of a run share its directories if and only if the path of the store is absolute,
as it is where the root is, or the root leads nowhere from the current directory. -/
theorem sharesDirectories_iff (request : RunRequest surroundings) {current : String}
    (hcurrent : Path.isAbsolute current = true) :
    (SharesDirectories current request ↔
      Path.isAbsolute request.plan.store = true ∨ Path.inner request.root = []) ∧
    Path.isAbsolute request.plan.store = (Path.isAbsolute request.root ||
      Path.isAbsolute request.settings.store || Path.isAbsolute request.options.profile) := by
  have hstore := request.isAbsolute_store
  refine ⟨?_, hstore⟩
  have hroot : Path.isAbsolute request.root = true →
      Path.isAbsolute request.plan.store = true := by
    intro habsolute
    rw [hstore, habsolute, Bool.true_or, Bool.true_or]
  constructor
  · intro shares
    refine Iff.mp ?_ (shares.output 0)
    exact leadsTo_iff hcurrent rfl hroot (lookup_output request.plan 0)
      (request.plan.isAbsolute_outputDirectory 0)
  · intro h
    constructor
    case output =>
      intro i
      refine Iff.mpr ?_ h
      exact leadsTo_iff hcurrent rfl hroot (lookup_output request.plan i)
        (request.plan.isAbsolute_outputDirectory i)
    case artifacts =>
      intro i
      refine Iff.mpr ?_ h
      exact leadsTo_iff hcurrent rfl hroot (lookup_artifacts request.plan i)
        request.plan.isAbsolute_artifacts
    case instrumentation =>
      intro command _
      refine Iff.mpr ?_ h
      exact leadsTo_iff hcurrent rfl hroot List.getLast?_concat request.plan.isAbsolute_artifacts

/-- In an absolute root the commands work in the directories of the run. -/
theorem sharesDirectories_rooted :
    ∃ request : RunRequest (.small ["--workspace-root", "/work/sub"]),
      request.root = "/work/sub" ∧ SharesDirectories "/work" request := by
  obtain ⟨request, -, hroot⟩ := Option.map_eq_some_iff.mp
    (by decide +kernel : (RunRequest.find? (.small ["--workspace-root", "/work/sub"])).map
      (·.root) = some "/work/sub")
  obtain ⟨hshares, hstore⟩ := sharesDirectories_iff request (by decide : Path.isAbsolute "/work")
  have habsolute : Path.isAbsolute request.root = true := by
    rw [hroot]
    decide
  refine ⟨request, hroot, hshares.mpr (.inl ?_)⟩
  rw [hstore, habsolute, Bool.true_or, Bool.true_or]

/-- In a root below the current directory they do not. -/
theorem not_sharesDirectories_below :
    ∃ request : RunRequest (.small ["--workspace-root", "sub"]),
      request.root = "sub" ∧ ¬ SharesDirectories "/work" request := by
  obtain ⟨request, -, hfound⟩ := Option.map_eq_some_iff.mp
    (by decide +kernel : (RunRequest.find? (.small ["--workspace-root", "sub"])).map
      (fun request => (request.root, request.plan.store)) =
        some ("sub", "sub/target/flakehunt/default"))
  obtain ⟨hroot, hstore⟩ := Prod.mk.inj hfound
  refine ⟨request, hroot, fun shares => ?_⟩
  have hrelative : Path.isAbsolute request.root = false := by
    rw [hroot]
    decide
  have hleads : Path.isAbsolute request.plan.store = true ∨ Path.inner request.root = [] := by
    refine Iff.mp ?_ (shares.artifacts 0)
    refine leadsTo_iff (by decide) rfl ?_ (lookup_artifacts request.plan 0)
      request.plan.isAbsolute_artifacts
    rw [hrelative]
    exact fun h => nomatch h
  rw [hstore, hroot] at hleads
  revert hleads
  decide +kernel

end CommandLine

end Flaky
