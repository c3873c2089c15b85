-- SUMMARY: The settings of a workspace: the embedded defaults, the configuration file over them, and the profiles that come of both.
import Flaky.Files.Disk
import Flaky.Log
import Flaky.Settings.Effective
import Flaky.Settings.Layer
import Flaky.Toml

/-!
# Settings

A configuration file is laid over the embedded defaults, read, and compiled. Keys
that name no setting are left out with a warning.
-/

namespace Flaky

/-! ## Defaults -/

namespace Settings

/-- Where the configuration file lies in a workspace. -/
def standardFile : String := ".config/flakehunt.toml"

def defaultProfile : String := "default"

/-- The settings that hold where the configuration file says nothing. -/
def embedded : Datum :=
  .table [("store", .table [("dir", .text "target/flakehunt")]),
    ("profile", .table [(defaultProfile, .table
      [("rounds", .integer 5), ("base-seed", .integer 933178),
        ("max-failures-per-test", .text "unlimited"), ("simulate-non-retryable", .bool false),
        ("mode", .text "full"), ("include-classes", .list []), ("include-annotations", .list []),
        ("exclude-classes", .list []), ("exclude-annotations", .list []),
        ("junit", .table [])])])]

end Settings

/-! ## Errors -/

/-- What is wrong with settings. -/
inductive SettingsFault
  /-- There is no file of this name. -/
  | missing (file : String)
  /-- The file is no document. -/
  | malformed
  | setting (e : SettingError)
  | pattern (profile : String) (e : EffectiveSettings.PatternError)
  /-- The default profile lacks a setting. -/
  | incomplete
deriving DecidableEq

namespace SettingsFault

/-- What is wrong, outermost first. -/
def causes : SettingsFault → List String
  | .missing file => [s!"configuration file \"{file}\" not found"]
  | .malformed => ["the file is not a TOML document"]
  | .setting e => [Segment.pathText e.path ++ ": " ++ e.message.getD "invalid value"]
  | .pattern profile (.filter e) => s!"invalid retry filter in profile `{profile}`" :: e.chain
  | .pattern profile (.testNames text) =>
    [s!"invalid test-name-filter `{text}` in profile `{profile}`", "not a regular expression"]
  | .incomplete => ["the default profile is not complete"]

end SettingsFault

/-- An error in the settings of a file. -/
structure SettingsError where
  file : String
  fault : SettingsFault
deriving DecidableEq

def SettingsError.message (e : SettingsError) : String :=
  s!"failed to parse flakehunt config at `{e.file}`"

/-! ## Profiles -/

/-- A profile with all that holds for it. -/
structure Profile where
  name : String
  /-- The directory that belongs to the profile. -/
  store : String
  settings : EffectiveSettings
  filter : Filter

def Profile.junitPath (profile : Profile) : Option String :=
  profile.settings.junitPath.map (Path.join profile.store)

/-- A profile that is not there, and those that are. -/
structure UnknownProfile where
  name : String
  known : List String
deriving DecidableEq

def UnknownProfile.message (e : UnknownProfile) : String :=
  s!"profile `{e.name}` not found (known profiles: " ++ String.intercalate ", " e.known ++ ")"

structure Settings where
  root : String
  /-- The directory of the stores of all profiles, seen from the root. -/
  store : String
  base : EffectiveSettings
  /-- The profiles other than the default one. -/
  customs : List (String × ProfileSettings)
  /-- The filters of all profiles. -/
  filters : List (String × Filter)

namespace Settings

/-- Compile the patterns of every profile in a list. -/
def compileCustoms (base : EffectiveSettings) : List (String × ProfileSettings) →
    Except SettingsFault (List (String × Filter))
  | [] => .ok []
  | (name, own) :: rest =>
    match (base.overlay own).compile with
    | .error e => .error (.pattern name e)
    | .ok filter => (compileCustoms base rest).map ((name, filter) :: ·)

/-- Settings from what was read. The default profile is compiled first. -/
def ofProfiles (root store : String) (profiles : List (String × ProfileSettings)) :
    Except SettingsFault Settings :=
  match (profiles.lookup defaultProfile).bind ProfileSettings.complete? with
  | none => .error .incomplete
  | some base =>
    let customs := profiles.filter fun profile => profile.1 != defaultProfile
    match base.compile with
    | .error e => .error (.pattern defaultProfile e)
    | .ok filter =>
      (compileCustoms base customs).map fun filters =>
        ⟨root, store, base, customs, (defaultProfile, filter) :: filters⟩

/-- What holds for a profile, if it is there. -/
def effective? (settings : Settings) (name : String) : Option EffectiveSettings :=
  match settings.customs.lookup name with
  | some own => some (settings.base.overlay own)
  | none => if name = defaultProfile then some settings.base else none

def knownProfiles (settings : Settings) : List String :=
  (defaultProfile :: settings.customs.map (·.1)).mergeSort (· ≤ ·)

def profile (settings : Settings) (name : String) : Except UnknownProfile Profile :=
  match settings.effective? name, settings.filters.lookup name with
  | some effective, some filter =>
    let store := Path.join (Path.join settings.root settings.store) name
    .ok ⟨name, store, effective, filter⟩
  | _, _ => .error ⟨name, settings.knownProfiles⟩

/-! ## Reading -/

def storeKeys : List String := ["dir"]

def readStore (datum : Datum) : Reading String := do
  match (← RecordData.ofDatum datum).field? storeKeys "dir" with
  | none => .error .here
  | some (segment, dir) => (Dialect.lenient.readText dir).under segment

def readProfiles : Datum → Reading (List (String × ProfileSettings))
  | .table fields => fields.mapM fun (name, datum) =>
      ((ProfileSettings.read datum).under (.key name)).map (name, ·)
  | _ => .error .here

def topKeys : List String := ["store", "profile"]

/-- Read the datum under a key that must be there. -/
def readTop (key : String) (read : Datum → Reading α) (fields : List (String × Datum)) : Reading α :=
  match Datum.lookup? key fields with
  | none => .error .here
  | some datum => (read datum).under (.key key)

/-- The store and the profiles in some data. -/
def read (data : Datum) : Reading (String × List (String × ProfileSettings)) := do
  let fields := Layer.fieldsOf data
  return (← readTop "store" readStore fields, ← readTop "profile" readProfiles fields)

/-! ## Unknown keys -/

/-- The paths in some data that name no setting. -/
def unknownKeys (data : Datum) : List String :=
  let fields := Layer.fieldsOf data
  let inside := fun key : String => ((Datum.lookup? key fields).getD .null)
  ProfileSettings.strangers topKeys data ++
    (ProfileSettings.strangers storeKeys (inside "store")).map ("store." ++ ·) ++
    (Layer.fieldsOf (inside "profile")).flatMap fun (name, datum) =>
      (ProfileSettings.unknownKeys datum).map fun key => s!"profile.{name}.{key}"

/-- What is said of the unknown keys of a file, in order and each once. -/
def unknownMessage (file : String) (keys : List String) : String :=
  let listed := match (keys.mergeSort (· ≤ ·)).eraseDups with
    | [key] => "key: " ++ key
    | keys => "keys:\n" ++ String.join (keys.map fun key => "\n  - " ++ key)
  s!"in config file {file}, ignoring unknown configuration {listed}"

/-- The warning of the unknown keys of a file, whose path is shown from the root. -/
def warnings (root file : String) (keys : List String) : List LogEntry :=
  if keys.isEmpty then []
  else [⟨.settings, .warn, unknownMessage ((Path.strip? root file).getD file) keys, []⟩]

/-! ## Files -/

/-- What came of a configuration file: the settings or an error, and what is logged besides. -/
structure Loaded where
  result : Except SettingsError Settings
  logs : List LogEntry

/-- The content of a configuration file, found under its name or with `.toml` added to it. -/
def fileText? (disk : Disk) (file : String) : Option String := do
  let path ← [file, file ++ ".toml"].find? disk.isFile
  let content ← (disk.read path).toOption
  let content := if content.take 3 = [0xEF, 0xBB, 0xBF] then content.drop 3 else content
  return Utf8.decodeLossy content

/-- The data of a source over the embedded ones. -/
def ofFields (root file : String) (fields : List (String × Datum)) : Loaded :=
  let data := Layer.overlay embedded fields
  match read data with
  | .error e => ⟨.error ⟨file, .setting e⟩, []⟩
  | .ok (store, profiles) =>
    ⟨(ofProfiles root store profiles).mapError (⟨file, ·⟩),
      warnings root file (unknownKeys data)⟩

/-- The settings of a workspace. A file that is asked for must be there; the standard file need not. -/
def load (disk : Disk) (root : String) (asked : Option String) : Loaded :=
  let file := asked.getD (Path.join root standardFile)
  match fileText? disk file with
  | none =>
    if asked.isSome then ⟨.error ⟨file, .missing file⟩, []⟩ else ofFields root file []
  | some text =>
    match Toml.ofText? text with
    | none => ⟨.error ⟨file, .malformed⟩, []⟩
    | some fields => ofFields root file fields

end Settings

end Flaky
