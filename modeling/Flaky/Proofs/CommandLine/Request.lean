-- SUMMARY: Requests to run tests that are in order: what the arguments and the settings come to, and the run that the program makes of them.
import Flaky.CommandLine
import Flaky.Proofs.Path
import Flaky.Proofs.Run.Course

/-!
# Requests to run tests

The program runs tests if its arguments ask for it, its root can be told, its settings
can be loaded and the profile has an engine. A `RunRequest` is all that, with what
each of these steps came to; the run of the program is made of nothing else.
-/

namespace Flaky

/-! ## Settings -/

namespace Settings

theorem ofProfiles_root {root store : String} {profiles : List (String × ProfileSettings)}
    {settings : Settings} (h : ofProfiles root store profiles = .ok settings) :
    settings.root = root := by
  unfold ofProfiles at h
  split at h
  case h_1 => cases h
  case h_2 base _ =>
    simp only at h
    split at h
    case h_1 => cases h
    case h_2 =>
      cases hfilters : compileCustoms base (profiles.filter fun p => p.1 != defaultProfile) with
      | error fault => simp [hfilters, Except.map] at h
      | ok filters =>
        simp only [hfilters, Except.map, Except.ok.injEq] at h
        rw [← h]

theorem ofFields_root {root file : String} {fields : List (String × Datum)} {settings : Settings}
    (h : (ofFields root file fields).result = .ok settings) : settings.root = root := by
  unfold ofFields at h
  simp only at h
  split at h
  case h_1 => cases h
  case h_2 store profiles _ =>
    cases hread : ofProfiles root store profiles with
    | error fault => simp [hread, Except.mapError] at h
    | ok read =>
      simp only [hread, Except.mapError, Except.ok.injEq] at h
      rw [← h]
      exact ofProfiles_root hread

/-- Settings belong to the root that they were loaded for. -/
theorem load_root {disk : Disk} {root : String} {asked : Option String} {settings : Settings}
    (h : (load disk root asked).result = .ok settings) : settings.root = root := by
  unfold load at h
  simp only at h
  split at h
  case h_1 =>
    split at h
    case isTrue => cases h
    case isFalse => exact ofFields_root h
  case h_2 =>
    split at h
    case h_1 => cases h
    case h_2 => exact ofFields_root h

/-- The store of a profile lies in the directory of the stores, under the profile's name. -/
theorem profile_store {settings : Settings} {name : String} {profile : Profile}
    (h : settings.profile name = .ok profile) :
    profile.store = Path.join (Path.join settings.root settings.store) name := by
  unfold Settings.profile at h
  split at h
  case h_1 =>
    simp only [Except.ok.injEq] at h
    rw [← h]
  case h_2 => cases h

end Settings

namespace CommandLine

theorem findProfile_profile {settings : Settings} {options : RunOptions} {profile : Profile}
    {engine : Command} (h : findProfile settings options = .ok (profile, engine)) :
    settings.profile options.profile = .ok profile := by
  unfold findProfile at h
  split at h
  case h_1 => cases h
  case h_2 found hfound =>
    split at h
    case h_1 => cases h
    case h_2 =>
      rw [hfound]
      exact congrArg Except.ok (Prod.mk.inj (Except.ok.inj h)).1

/-! ## Requests -/

/-- A request to run tests, with what it comes to in the surroundings of the program. -/
structure RunRequest (surroundings : Surroundings) where
  invocation : Invocation
  options : RunOptions
  root : String
  settings : Settings
  profile : Profile
  engine : Command
  read : readArguments surroundings.environment surroundings.arguments = .ok invocation
  asked : invocation.request = .run options
  rooted : workspaceRoot surroundings options = .ok root
  loaded : (Settings.load surroundings.disk root options.configFile).result = .ok settings
  found : findProfile settings options = .ok (profile, engine)

namespace RunRequest

variable {surroundings : Surroundings}

def plan (request : RunRequest surroundings) : RunPlan :=
  planOf surroundings request.options request.profile

def instrumentation (request : RunRequest surroundings) : Instrumentation :=
  instrumentationOf surroundings.spawn request.root request.profile

def start (request : RunRequest surroundings) : Session Unit :=
  .start request.plan () surroundings.disk

/-- The engine as it is called in the run. -/
def worker (request : RunRequest surroundings) : Engine Unit :=
  .ofCommand surroundings.spawn request.engine request.root

/-- The run that the program makes, with what it comes to. -/
def ran (request : RunRequest surroundings) : Except RunError Outcome × Session Unit :=
  Flaky.run request.worker request.instrumentation request.plan request.start

/-- The store of the run is absolute if the root, the directory of the stores or the profile's name
is. -/
theorem isAbsolute_store (request : RunRequest surroundings) :
    Path.isAbsolute request.plan.store = (Path.isAbsolute request.root ||
      Path.isAbsolute request.settings.store || Path.isAbsolute request.options.profile) := by
  have hplan : request.plan.store = request.profile.store := rfl
  rw [hplan, Settings.profile_store (findProfile_profile request.found),
    Settings.load_root request.loaded, Path.isAbsolute_join, Path.isAbsolute_join]

/-- The request that the program is started with, if it is one to run tests and in order. -/
def find? (surroundings : Surroundings) : Option (RunRequest surroundings) :=
  match read : readArguments surroundings.environment surroundings.arguments with
  | .error _ => none
  | .ok invocation =>
    match asked : invocation.request with
    | .showRunLog _ | .seed _ _ => none
    | .run options =>
      match rooted : workspaceRoot surroundings options with
      | .error _ => none
      | .ok root =>
        match loaded : (Settings.load surroundings.disk root options.configFile).result with
        | .error _ => none
        | .ok settings =>
          match found : findProfile settings options with
          | .error _ => none
          | .ok (profile, engine) =>
            some ⟨invocation, options, root, settings, profile, engine, read, asked, rooted, loaded,
              found⟩

end RunRequest

/-! ## A small request -/

/-- The program is started with a configuration file that names an engine, and with other arguments
besides. The engine executes no test. -/
def Surroundings.small (arguments : List String) : Surroundings where
  arguments := ["run", "--config-file", "/flaky.toml"] ++ arguments
  environment := fun _ => none
  currentDirectory := .ok "/work"
  disk := Disk.blank.withFile ["flaky.toml"]
    (Utf8.bytes "[profile.default]\nengine-command = \"engine\"\n")
  spawn := fun _ disk =>
    .ok ⟨Utf8.bytes "\x7b\"event\":\"finished\"\x7d\n", [], .code 0, disk⟩
  circumstances := RunPlan.small.circumstances
  outputFault := none
  errorsFault := none

end CommandLine

end Flaky
