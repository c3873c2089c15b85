-- SUMMARY: The settings that a run is made with: each from the command line, else from its profile, else from the default profile, else as embedded.
import Flaky.Proofs.CommandLine.Request
import Flaky.Proofs.Settings.Effective

/-!
# The settings of a run

A run, its engine and its instrumentation are made with settings of four layers: the
command line, the profile that is asked for and the default profile, as the configuration
file gives them, and the embedded settings. Each setting is that of the first layer that
gives it, whatever the layers say of the others.
-/

namespace Flaky

namespace CommandLine

open Settings (Source Gives profilesIn defaultProfile)
open ProfileSettings (Completes)

variable {surroundings : Surroundings}

/-- Each setting of a run is what the command line says of it, and else what the layers say. The
command line cannot take back that a failure is simulated. -/
structure RunRequest.Follows (request : RunRequest surroundings) (layers : ProfileSettings) :
    Prop where
  rounds : request.options.rounds.or layers.rounds = some request.plan.settings.maxRounds
  baseSeed : request.options.baseSeed.or (layers.baseSeed.map ProfileSettings.seedOf) =
    some request.plan.settings.baseSeed
  cap : request.options.cap.or layers.cap = some request.plan.settings.cap
  simulateNonRetryable :
    layers.simulateNonRetryable.map (request.options.simulateNonRetryable || ·) =
      some request.plan.settings.simulateNonRetryable
  mode : layers.mode = some request.plan.settings.perturbation.mode
  testNames : layers.testNames = request.plan.settings.perturbation.testNames
  range : layers.range = request.plan.settings.perturbation.range
  includeClasses : layers.includeClasses = some request.plan.settings.filter.patterns.includeClasses
  includeAnnotations : layers.includeAnnotations =
    some request.plan.settings.filter.patterns.includeAnnotations
  excludeClasses : layers.excludeClasses = some request.plan.settings.filter.patterns.excludeClasses
  excludeAnnotations : layers.excludeAnnotations =
    some request.plan.settings.filter.patterns.excludeAnnotations
  compiled : Filter.compile request.plan.settings.filter.patterns = .ok request.plan.settings.filter
  engine : layers.engine = some request.engine
  instrumentation : request.instrumentation = layers.instrumentation.elim .none fun command =>
    .ofCommand surroundings.spawn command request.root
  junitPath : request.plan.settings.junitPath =
    layers.junitPath.map (Path.join request.plan.store)

theorem findProfile_engine {settings : Settings} {options : RunOptions} {profile : Profile}
    {engine : Command} (h : findProfile settings options = .ok (profile, engine)) :
    profile.settings.engine = some engine := by
  unfold findProfile at h
  split at h
  case h_1 => cases h
  case h_2 found _ =>
    split at h
    case h_1 => cases h
    case h_2 command hcommand =>
      obtain ⟨rfl, rfl⟩ := Prod.mk.inj (Except.ok.inj h)
      exact hcommand

/-- The command line over the settings that hold for the profile. -/
theorem RunRequest.follows (request : RunRequest surroundings) {layers : ProfileSettings}
    (complete : Completes layers request.profile.settings)
    (compiled : Filter.compile request.profile.settings.patterns = .ok request.profile.filter) :
    request.Follows layers := by
  have asked : ∀ {α : Type} {flag own : Option α} {value : α}, own = some value →
      flag.or own = some (flag.getD value) := by
    rintro α flag own value rfl
    cases flag <;> rfl
  have hpatterns : request.plan.settings.filter.patterns = request.profile.settings.patterns :=
    Filter.patterns_of_compile compiled
  exact {
    rounds := asked complete.rounds
    baseSeed := asked complete.baseSeed
    cap := asked complete.cap
    simulateNonRetryable := by
      rw [complete.simulateNonRetryable]
      rfl
    mode := complete.mode
    testNames := complete.testNames
    range := complete.range
    includeClasses := by rw [hpatterns, complete.includeClasses]
    includeAnnotations := by rw [hpatterns, complete.includeAnnotations]
    excludeClasses := by rw [hpatterns, complete.excludeClasses]
    excludeAnnotations := by rw [hpatterns, complete.excludeAnnotations]
    compiled := by
      rw [hpatterns]
      exact compiled
    engine := complete.engine.trans (findProfile_engine request.found)
    instrumentation := by
      rw [complete.instrumentation]
      unfold RunRequest.instrumentation instrumentationOf
      cases request.profile.settings.instrumentation <;> rfl
    junitPath := by
      rw [complete.junitPath]
      rfl }

/-- Each setting that a run is made with is that of the first layer that gives it: the command line,
the profile that is asked for, the default profile, the embedded settings. The settings can be read
and are yet not complete exactly if the file puts a list in the place of the default profile that
ends before the last setting that must be there. No other key of the file may lead to the profiles,
as a quoted key with a dot in it can. -/
theorem runSettings_layered {root : String} {asked : Option String}
    {source : List (String × Datum)} (hsource : Source surroundings.disk root asked source)
    (apart : Layer.Apart "profile" source) :
    (∀ request : RunRequest surroundings,
      request.root = root → request.options.configFile = asked →
      ∃ own user, Gives source request.options.profile own ∧ Gives source defaultProfile user ∧
        request.Follows (own.atop (user.atop .embedded))) ∧
    ((Settings.load surroundings.disk root asked).result =
        .error ⟨asked.getD (Path.join root Settings.standardFile), .incomplete⟩ ↔
      (∃ found, Settings.read (Layer.overlay Settings.embedded source) = .ok found) ∧
        ∃ items, Datum.lookup? defaultProfile (profilesIn source) = some (.list items) ∧
          items.length < 11) := by
  rw [hsource.load]
  refine ⟨?_, Settings.incomplete_iff hsource.proper apart⟩
  intro request hroot hasked
  have hload := request.loaded
  rw [hroot, hasked, hsource.load] at hload
  obtain ⟨own, user, hown, huser, complete, compiled⟩ :=
    Settings.profile_layers hsource.proper apart hload (findProfile_profile request.found)
  exact ⟨own, user, hown, huser, request.follows complete compiled⟩

theorem runSettings_layered_small : ∃ source,
    Source (Surroundings.small []).disk "/work" (some "/flaky.toml") source ∧
      Layer.Apart "profile" source ∧
      ∃ request : RunRequest (.small ["--rounds", "1"]), ∃ own user,
        Gives source request.options.profile own ∧ Gives source defaultProfile user ∧
          request.Follows (own.atop (user.atop .embedded)) := by
  obtain ⟨request, -, hrequest⟩ := Option.map_eq_some_iff.mp
    (by decide +kernel : (RunRequest.find? (.small ["--rounds", "1"])).map
      (fun request => (request.root, request.options.configFile)) =
        some ("/work", some "/flaky.toml"))
  obtain ⟨hroot, hasked⟩ := Prod.mk.inj hrequest
  let text := "[profile.default]\nengine-command = \"engine\"\n"
  have hcontent : Settings.fileText? (Surroundings.small []).disk "/flaky.toml" = some text := by
    decide +kernel
  obtain ⟨source, hsource, hkeys⟩ := Option.map_eq_some_iff.mp
    (by decide +kernel : (Toml.ofText? text).map (·.map Prod.fst) = some ["profile"])
  have apart : Layer.Apart "profile" source := by
    intro field hfield hne
    have hkey : field.1 ∈ source.map Prod.fst := List.mem_map_of_mem hfield
    rw [hkeys, List.mem_singleton] at hkey
    exact absurd hkey hne
  exact ⟨source, .file hcontent hsource, apart, request,
    (runSettings_layered (.file hcontent hsource) apart).1 request hroot hasked⟩

/-! ## A list in the place of the default profile -/

/-- A disk with a configuration file whose default profile is an empty list. -/
def listedDefault : Disk :=
  Disk.blank.withFile ["flaky.toml"] (Utf8.bytes "[profile]\ndefault = []\n")

theorem load_listedDefault :
    (Settings.load listedDefault "/work" (some "/flaky.toml")).result =
      .error ⟨"/flaky.toml", .incomplete⟩ := by
  have herror : (match (Settings.load listedDefault "/work" (some "/flaky.toml")).result with
      | .ok _ => none
      | .error error => some error) = some ⟨"/flaky.toml", .incomplete⟩ := by decide +kernel
  cases hresult : (Settings.load listedDefault "/work" (some "/flaky.toml")).result with
  | ok settings =>
    rw [hresult] at herror
    cases herror
  | error error =>
    rw [hresult] at herror
    exact congrArg Except.error (Option.some.inj herror)

/-- A document can leave the default profile incomplete. -/
theorem not_settings_complete : ¬ ∀ disk root asked file,
    (Settings.load disk root asked).result ≠ .error ⟨file, .incomplete⟩ :=
  fun complete => complete _ _ _ _ load_listedDefault

end CommandLine

end Flaky
