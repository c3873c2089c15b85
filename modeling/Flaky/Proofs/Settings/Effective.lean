-- SUMMARY: What holds for a profile: each setting as the file gives it for the profile, else as it gives it for the default profile, else as it is embedded.
import Flaky.Proofs.Settings.Layers
import Flaky.Proofs.Toml
import Flaky.Settings

/-!
# Effective settings

The configuration file is laid over the embedded settings before anything is read, so
the default profile that is read is what the file says of it over what is embedded. All
other profiles come from the file alone and are laid over the default profile later. The
default profile that is read is complete, but where the file puts a list in its place.
-/

namespace Flaky

namespace ProfileSettings

/-- The settings that are embedded for the default profile. -/
def embedded : ProfileSettings where
  rounds := some 5
  baseSeed := some 933178
  cap := some .unlimited
  simulateNonRetryable := some false
  mode := some .full
  testNames := .none
  range := .none
  includeClasses := some []
  includeAnnotations := some []
  excludeClasses := some []
  excludeAnnotations := some []
  engine := .none
  instrumentation := .none
  junitPath := .none

end ProfileSettings

namespace Settings

open ProfileSettings (Tells Completes Flat)
open Datum (lookup? ProperFields)

/-! ## Sources -/

/-- The fields of the configuration file of a workspace. There are none if there is no file, and
none was asked for. -/
inductive Source (disk : Disk) (root : String) : Option String → List (String × Datum) → Prop
  | absent (missing : fileText? disk (Path.join root standardFile) = none) :
    Source disk root none []
  | file {asked : Option String} {text : String} {fields : List (String × Datum)}
    (content : fileText? disk (asked.getD (Path.join root standardFile)) = some text)
    (document : Toml.ofText? text = some fields) : Source disk root asked fields

section

variable {disk : Disk} {root : String} {asked : Option String} {source : List (String × Datum)}
variable {settings : Settings}

theorem Source.load (h : Source disk root asked source) :
    Settings.load disk root asked =
      ofFields root (asked.getD (Path.join root standardFile)) source := by
  unfold Settings.load
  cases h with
  | absent missing => simp only [Option.getD_none, missing, Option.isSome_none, Bool.false_eq_true,
      if_false]
  | file content document =>
    simp only [content, document]

/-- What is loaded comes from a source. -/
theorem exists_source (h : (Settings.load disk root asked).result = .ok settings) :
    ∃ source, Source disk root asked source := by
  unfold Settings.load at h
  simp only at h
  split at h
  case h_1 hnone =>
    cases asked with
    | some file => cases h
    | none => exact ⟨[], .absent hnone⟩
  case h_2 text htext =>
    split at h
    case h_1 => cases h
    case h_2 fields hfields => exact ⟨fields, .file htext hfields⟩

theorem Source.proper (h : Source disk root asked source) : ProperFields source := by
  cases h with
  | absent => exact ⟨List.nodup_nil, List.forall_mem_nil _⟩
  | file content document => exact Toml.ofText?_proper document

end

/-! ## What a source gives a profile -/

/-- What a source says of each profile. -/
def profilesIn (source : List (String × Datum)) : List (String × Datum) :=
  Layer.fieldsOf ((lookup? "profile" source).getD .null)

/-- What a source gives a profile: nothing if it does not speak of it. -/
inductive Gives (source : List (String × Datum)) (name : String) : ProfileSettings → Prop
  | nothing (absent : lookup? name (profilesIn source) = none) : Gives source name .none
  | given {datum : Datum} {data : RecordData} {own : ProfileSettings}
    (present : lookup? name (profilesIn source) = some datum)
    (record : RecordData.ofDatum datum = .ok data) (tells : Tells data own) : Gives source name own

/-- The embedded settings of the default profile, as data. -/
def embeddedFields : List (String × Datum) :=
  [("rounds", .integer 5), ("base-seed", .integer 933178),
    ("max-failures-per-test", .text "unlimited"), ("simulate-non-retryable", .bool false),
    ("mode", .text "full"), ("include-classes", .list []), ("include-annotations", .list []),
    ("exclude-classes", .list []), ("exclude-annotations", .list []), ("junit", .table [])]

/-- The embedded profiles, as data. -/
def embeddedProfiles : List (String × Datum) := [(defaultProfile, .table embeddedFields)]

theorem embedded_eq : embedded = .table [("store", .table [("dir", .text "target/flakehunt")]),
    ("profile", .table embeddedProfiles)] := rfl

theorem distinct_embeddedProfiles : Datum.Distinct embeddedProfiles := List.nodup_singleton _

theorem flat_embedded : Flat embeddedFields where
  distinct := by
    unfold Datum.Distinct
    decide
  flat := by simp [embeddedFields, Layer.fieldsOf]

theorem tells_embedded : Tells (.named embeddedFields) .embedded := by
  constructor <;> rfl

/-- What is read as the profiles: what the source says of them over what is embedded. -/
def laidProfiles (source : List (String × Datum)) : List (String × Datum) :=
  Layer.mergeFields (profilesIn source) embeddedProfiles

section

variable {source : List (String × Datum)} {name store : String}
variable {profiles : List (String × ProfileSettings)}

theorem ProperFields.profilesIn (h : ProperFields source) : ProperFields (profilesIn source) := by
  unfold Settings.profilesIn
  cases hlookup : lookup? "profile" source with
  | none => exact ⟨List.nodup_nil, List.forall_mem_nil _⟩
  | some datum => exact (h.lookup? hlookup).fieldsOf

theorem steps_profile : Layer.steps "profile" = [.key "profile"] := by decide +kernel

theorem readTop_eq_ok {α : Type} {key : String} {read : Datum → Reading α} {value : α}
    {fields : List (String × Datum)} (h : readTop key read fields = .ok value) :
    ∃ datum, lookup? key fields = some datum ∧ read datum = .ok value := by
  unfold readTop at h
  split at h
  case h_1 => cases h
  case h_2 datum hdatum => exact ⟨datum, hdatum, eq_ok_of_mapError_eq_ok h⟩

/-- The profiles that are read are those of the source over the embedded ones. -/
theorem readProfiles_of_read (h : ProperFields source) (apart : Layer.Apart "profile" source)
    (hread : Settings.read (Layer.overlay embedded source) = .ok (store, profiles)) :
    readProfiles (.table (laidProfiles source)) = .ok profiles := by
  have hdistinct : Datum.Distinct [("store", .table [("dir", .text "target/flakehunt")]),
      ("profile", .table embeddedProfiles)] := by
    unfold Datum.Distinct
    decide
  obtain ⟨all, hall, -, hlookup⟩ :=
    Layer.lookup?_overlay steps_profile h.distinct hdistinct apart
  rw [← embedded_eq] at hall
  have hbase : lookup? "profile" [("store", .table [("dir", .text "target/flakehunt")]),
      ("profile", .table embeddedProfiles)] = some (.table embeddedProfiles) := rfl
  rw [hbase] at hlookup
  rw [hall] at hread
  obtain ⟨_, -, hread⟩ := exists_of_bind_eq_ok hread
  obtain ⟨found, hfound, hread⟩ := exists_of_bind_eq_ok hread
  obtain ⟨-, rfl⟩ := Prod.mk.inj (Except.ok.inj hread)
  obtain ⟨datum, hdatum, hprofiles⟩ := readTop_eq_ok hfound
  have hlaid := hlookup.symm.trans hdatum
  rw [laidProfiles, Settings.profilesIn]
  cases hsource : lookup? "profile" source with
  | none =>
    rw [hsource] at hlaid
    obtain rfl := Option.some.inj hlaid
    exact hprofiles
  | some user =>
    rw [hsource] at hlaid
    obtain rfl := Option.some.inj hlaid
    cases user with
    | table fields => exact hprofiles
    | _ => cases hprofiles

/-! ## Profiles that are read -/

/-- What is read as a profile is what lies under its name. -/
theorem lookup_readProfiles {fields : List (String × Datum)} (distinct : Datum.Distinct fields)
    (h : readProfiles (.table fields) = .ok profiles) (name : String) :
    (lookup? name fields = none ∧ profiles.lookup name = none) ∨
      ∃ datum own, lookup? name fields = some datum ∧ ProfileSettings.read datum = .ok own ∧
        profiles.lookup name = some own := by
  rw [distinct.lookup?_eq]
  have hmap : fields.mapM (fun field : String × Datum =>
      ((ProfileSettings.read field.2).under (.key field.1)).map (field.1, ·)) = .ok profiles := h
  clear h distinct
  induction fields generalizing profiles with
  | nil =>
    rw [← Except.ok.inj hmap]
    exact .inl ⟨rfl, rfl⟩
  | cons field fields ih =>
    obtain ⟨key, datum⟩ := field
    rw [List.mapM_cons] at hmap
    obtain ⟨first, hfirst, hmap⟩ := exists_of_bind_eq_ok hmap
    obtain ⟨rest, hrest, hcons⟩ := exists_of_bind_eq_ok hmap
    obtain ⟨own, hown, rfl⟩ := exists_of_map_eq_ok hfirst
    rw [← Except.ok.inj hcons, List.lookup_cons, List.lookup_cons]
    cases hname : name == key with
    | true => exact .inr ⟨datum, own, rfl, eq_ok_of_mapError_eq_ok hown, rfl⟩
    | false => exact ih hrest

theorem distinct_laidProfiles : Datum.Distinct (laidProfiles source) :=
  Layer.distinct_mergeFields distinct_embeddedProfiles

/-- A profile other than the default one comes from the source alone. -/
theorem lookup?_laidProfiles (h : ProperFields source) (hname : name ≠ defaultProfile) :
    lookup? name (laidProfiles source) = lookup? name (profilesIn source) := by
  rw [laidProfiles, Layer.lookup?_mergeFields (ProperFields.profilesIn h).distinct
    distinct_embeddedProfiles]
  have hbase : lookup? name embeddedProfiles = none := Datum.lookup?_cons_ne (Ne.symm hname)
  rw [hbase]
  cases hlookup : lookup? name (profilesIn source) with
  | none => rfl
  | some datum =>
    exact congrArg some (Layer.merge_leaf ((ProperFields.profilesIn h).lookup? hlookup) rfl)

theorem lookup?_laidProfiles_default (h : ProperFields source) :
    lookup? defaultProfile (laidProfiles source) =
      Layer.laid (lookup? defaultProfile (profilesIn source)) (some (.table embeddedFields)) := by
  rw [laidProfiles, Layer.lookup?_mergeFields (ProperFields.profilesIn h).distinct
    distinct_embeddedProfiles]
  rfl

/-! ## Layers of the source -/

theorem gives_custom (h : ProperFields source)
    (hread : readProfiles (.table (laidProfiles source)) = .ok profiles)
    (hname : name ≠ defaultProfile) {own : ProfileSettings}
    (hown : profiles.lookup name = some own) : Gives source name own := by
  rcases lookup_readProfiles distinct_laidProfiles hread name with
    ⟨-, hnone⟩ | ⟨datum, read, hlookup, hdatum, hsome⟩
  · cases hown.symm.trans hnone
  · obtain rfl := Option.some.inj (hown.symm.trans hsome)
    obtain ⟨data, hdata, tells⟩ := ProfileSettings.read_eq_ok_iff.mp hdatum
    rw [lookup?_laidProfiles h hname] at hlookup
    exact .given hlookup hdata tells

/-- What is read as the default profile is what the source gives it over what is embedded, unless
the source puts a list in its place. -/
theorem gives_default (h : ProperFields source)
    (hread : readProfiles (.table (laidProfiles source)) = .ok profiles) :
    ∃ user read, Gives source defaultProfile user ∧ profiles.lookup defaultProfile = some read ∧
      (((∀ items, lookup? defaultProfile (profilesIn source) ≠ some (.list items)) ∧
          read = user.atop .embedded) ∨
        ∃ items, lookup? defaultProfile (profilesIn source) = some (.list items) ∧
          Tells (.positional items) user ∧ read = user) := by
  rcases lookup_readProfiles distinct_laidProfiles hread defaultProfile with
    ⟨hnone, -⟩ | ⟨datum, read, hlookup, hdatum, hsome⟩
  · rw [lookup?_laidProfiles_default h] at hnone
    cases hsource : lookup? defaultProfile (profilesIn source) with
    | none => rw [hsource] at hnone; cases hnone
    | some datum => rw [hsource] at hnone; cases hnone
  · rw [lookup?_laidProfiles_default h] at hlookup
    cases hsource : lookup? defaultProfile (profilesIn source) with
    | none =>
      rw [hsource] at hlookup
      obtain rfl := Option.some.inj hlookup
      have hembedded : ProfileSettings.read (.table embeddedFields) = .ok .embedded :=
        ProfileSettings.read_eq_ok_iff.mpr ⟨_, rfl, tells_embedded⟩
      obtain rfl := Except.ok.inj (hembedded.symm.trans hdatum)
      exact ⟨.none, .embedded, .nothing hsource, hsome, .inl ⟨nofun, rfl⟩⟩
    | some user =>
      rw [hsource] at hlookup
      obtain rfl := Option.some.inj hlookup
      obtain ⟨data, hdata, tells⟩ := ProfileSettings.read_eq_ok_iff.mp hdatum
      have proper := (ProperFields.profilesIn h).lookup? hsource
      cases user with
      | table fields =>
        obtain rfl := Except.ok.inj hdata
        obtain ⟨own, htells, hover⟩ :=
          ProfileSettings.tells_mergeFields proper.fieldsOf flat_embedded tells_embedded rfl tells
        exact ⟨own, read, .given hsource rfl htells, hsome, .inl ⟨nofun, hover.symm⟩⟩
      | list items =>
        obtain rfl := Except.ok.inj hdata
        exact ⟨read, read, .given hsource rfl tells, hsome, .inr ⟨items, rfl, tells, rfl⟩⟩
      | _ => cases hdata

end

/-! ## Profiles that hold -/

section

variable {root store file name : String} {profiles customs : List (String × ProfileSettings)}
variable {settings : Settings} {base : EffectiveSettings} {own : ProfileSettings}
variable {profile : Profile} {filter : Filter} {filters : List (String × Filter)} {source : List (String × Datum)}

theorem lookup_customs : (profiles.filter fun profile => profile.1 != defaultProfile).lookup name =
    if name = defaultProfile then none else profiles.lookup name := by
  induction profiles with
  | nil => simp
  | cons field profiles ih =>
    obtain ⟨key, own⟩ := field
    by_cases hkey : key = defaultProfile
    · rw [List.filter_cons_of_neg (by simpa using hkey), ih, List.lookup_cons]
      split
      case isTrue => rfl
      case isFalse hname => rw [beq_false_of_ne (hkey ▸ hname)]
    · rw [List.filter_cons_of_pos (by simpa using hkey), List.lookup_cons, List.lookup_cons, ih]
      cases hname : name == key with
      | true =>
        obtain rfl : name = key := beq_iff_eq.mp hname
        simp only [if_neg hkey]
      | false => rfl

theorem ofProfiles_eq_ok (h : ofProfiles root store profiles = .ok settings) :
    ∃ read filter filters, profiles.lookup defaultProfile = some read ∧
      read.complete? = some settings.base ∧ settings.base.compile = .ok filter ∧
      settings.customs = profiles.filter (fun profile => profile.1 != defaultProfile) ∧
      compileCustoms settings.base settings.customs = .ok filters ∧
      settings.filters = (defaultProfile, filter) :: filters := by
  unfold ofProfiles at h
  split at h
  case h_1 => cases h
  case h_2 base hbase =>
    obtain ⟨read, hread, hcomplete⟩ := Option.bind_eq_some_iff.mp hbase
    simp only at h
    split at h
    case h_1 => cases h
    case h_2 filter hfilter =>
      obtain ⟨filters, hcustoms, rfl⟩ := exists_of_map_eq_ok h
      exact ⟨read, filter, filters, hread, hcomplete, hfilter, rfl, hcustoms, rfl⟩

/-- The filter under a profile's name is compiled from what holds for the profile. -/
theorem compile_of_compileCustoms (h : compileCustoms base customs = .ok filters)
    (hown : customs.lookup name = some own) (hfilter : filters.lookup name = some filter) :
    (base.overlay own).compile = .ok filter := by
  induction customs generalizing filters with
  | nil => cases hown
  | cons custom customs ih =>
    obtain ⟨key, first⟩ := custom
    rw [compileCustoms] at h
    split at h
    case h_1 => cases h
    case h_2 compiled hcompiled =>
      obtain ⟨rest, hrest, rfl⟩ := exists_of_map_eq_ok h
      rw [List.lookup_cons] at hown hfilter
      cases hname : name == key with
      | true =>
        rw [hname] at hown hfilter
        rw [← Option.some.inj hown, ← Option.some.inj hfilter, hcompiled]
      | false =>
        rw [hname] at hown hfilter
        exact ih hrest hown hfilter

theorem ofFields_eq_ok (h : (ofFields root file source).result = .ok settings) :
    ∃ store profiles, Settings.read (Layer.overlay embedded source) = .ok (store, profiles) ∧
      ofProfiles root store profiles = .ok settings := by
  unfold ofFields at h
  simp only at h
  split at h
  case h_1 => cases h
  case h_2 store profiles hread => exact ⟨store, profiles, hread, eq_ok_of_mapError_eq_ok h⟩

theorem effective?_eq_some (h : settings.effective? name = some base) :
    (∃ own, settings.customs.lookup name = some own ∧ settings.base.overlay own = base) ∨
      name = defaultProfile ∧ settings.base = base := by
  unfold effective? at h
  split at h
  case h_1 own hown => exact .inl ⟨own, hown, Option.some.inj h⟩
  case h_2 =>
    split at h
    case isTrue hname => exact .inr ⟨hname, Option.some.inj h⟩
    case isFalse => cases h

theorem profile_eq_ok (h : settings.profile name = .ok profile) :
    settings.effective? name = some profile.settings ∧
      settings.filters.lookup name = some profile.filter := by
  unfold Settings.profile at h
  split at h
  case h_1 effective filter heffective hfilter =>
    rw [← Except.ok.inj h]
    exact ⟨heffective, hfilter⟩
  case h_2 => cases h

/-- The filter of a profile is compiled from what holds for it: its own settings over those of the
    default profile, or these alone. -/
theorem compile_of_profile (h : ofProfiles root store profiles = .ok settings)
    (hprofile : settings.profile name = .ok profile) :
    profile.settings.compile = .ok profile.filter ∧
      ((name ≠ defaultProfile ∧ ∃ own, profiles.lookup name = some own ∧
          settings.base.overlay own = profile.settings) ∨
        name = defaultProfile ∧ settings.base = profile.settings) := by
  obtain ⟨-, filter, filters, -, -, hfilter, hcustoms, hfilters, hall⟩ := ofProfiles_eq_ok h
  obtain ⟨heffective, hown⟩ := profile_eq_ok hprofile
  rw [hall, List.lookup_cons] at hown
  rcases effective?_eq_some heffective with ⟨own, hsome, hoverlay⟩ | ⟨rfl, hbase⟩
  · have hgiven := hsome
    rw [hcustoms, lookup_customs] at hgiven
    split at hgiven
    case isTrue => cases hgiven
    case isFalse hname =>
      rw [beq_false_of_ne hname] at hown
      rw [← hoverlay]
      exact ⟨compile_of_compileCustoms hfilters hsome hown, .inl ⟨hname, own, hgiven, rfl⟩⟩
  · rw [beq_self_eq_true] at hown
    rw [← hbase, ← Option.some.inj hown]
    exact ⟨hfilter, .inr ⟨rfl, rfl⟩⟩

theorem filter_of_compile (h : base.compile = .ok filter) :
    Filter.compile base.patterns = .ok filter := by
  unfold EffectiveSettings.compile at h
  split at h
  case h_1 => cases h
  case h_2 compiled hcompiled =>
    split at h
    case h_1 => rw [hcompiled, Except.ok.inj h]
    case h_2 =>
      split at h
      case isTrue => rw [hcompiled, Except.ok.inj h]
      case isFalse => cases h

theorem complete_atop_embedded (h : ProfileSettings.Completes own base) :
    ProfileSettings.Completes (own.atop .embedded) base where
  rounds := by rw [ProfileSettings.atop, h.rounds]; rfl
  baseSeed := by
    have hseed := h.baseSeed
    cases hown : own.baseSeed with
    | none => rw [hown] at hseed; cases hseed
    | some seed =>
      rw [ProfileSettings.atop, hown]
      rwa [hown] at hseed
  cap := by rw [ProfileSettings.atop, h.cap]; rfl
  simulateNonRetryable := by rw [ProfileSettings.atop, h.simulateNonRetryable]; rfl
  mode := by rw [ProfileSettings.atop, h.mode]; rfl
  testNames := Option.or_none.trans h.testNames
  range := Option.or_none.trans h.range
  includeClasses := by rw [ProfileSettings.atop, h.includeClasses]; rfl
  includeAnnotations := by rw [ProfileSettings.atop, h.includeAnnotations]; rfl
  excludeClasses := by rw [ProfileSettings.atop, h.excludeClasses]; rfl
  excludeAnnotations := by rw [ProfileSettings.atop, h.excludeAnnotations]; rfl
  engine := Option.or_none.trans h.engine
  instrumentation := Option.or_none.trans h.instrumentation
  junitPath := Option.or_none.trans h.junitPath

/-- The settings that hold for a profile are each what the source gives it, else what the source
gives the default profile, else what is embedded; its filter is compiled from them. -/
theorem profile_layers (h : ProperFields source) (apart : Layer.Apart "profile" source)
    (hload : (ofFields root file source).result = .ok settings)
    (hprofile : settings.profile name = .ok profile) :
    ∃ own user, Gives source name own ∧ Gives source defaultProfile user ∧
      ProfileSettings.Completes (own.atop (user.atop .embedded)) profile.settings ∧
      Filter.compile profile.settings.patterns = .ok profile.filter := by
  obtain ⟨store, profiles, hread, hprofiles⟩ := ofFields_eq_ok hload
  have hlaid := readProfiles_of_read h apart hread
  obtain ⟨read, -, -, hlookup, hcomplete, -⟩ := ofProfiles_eq_ok hprofiles
  obtain ⟨user, found, gives, hfound, hlayers⟩ := gives_default h hlaid
  obtain rfl := Option.some.inj (hlookup.symm.trans hfound)
  have complete : ProfileSettings.Completes (user.atop .embedded) settings.base := by
    have hbase := ProfileSettings.completes_of_complete? hcomplete
    rcases hlayers with ⟨-, rfl⟩ | ⟨items, -, -, rfl⟩
    · exact hbase
    · exact complete_atop_embedded hbase
  obtain ⟨hcompile, ⟨hname, own, hown, hoverlay⟩ | ⟨rfl, hbase⟩⟩ :=
    compile_of_profile hprofiles hprofile
  · exact ⟨own, user, gives_custom h hlaid hname hown, gives, hoverlay ▸ complete.atop own,
      filter_of_compile hcompile⟩
  · refine ⟨user, user, gives, gives, ?_, filter_of_compile hcompile⟩
    rw [ProfileSettings.atop_atop, ← hbase]
    exact complete

/-! ## Default profiles that are not complete -/

theorem sufficient_embedded : ProfileSettings.Sufficient .embedded :=
  ⟨rfl, rfl, rfl, rfl, rfl, rfl, rfl, rfl, rfl⟩

theorem compileCustoms_ne_incomplete : compileCustoms base customs ≠ .error .incomplete := by
  induction customs with
  | nil => exact nofun
  | cons custom customs ih =>
    obtain ⟨key, own⟩ := custom
    rw [compileCustoms]
    split
    case h_1 => exact nofun
    case h_2 =>
      cases hrest : compileCustoms base customs with
      | error fault =>
        intro h
        rw [hrest] at ih
        exact ih (congrArg Except.error (Except.error.inj h))
      | ok rest => exact nofun

theorem ofProfiles_incomplete_iff : ofProfiles root store profiles = .error .incomplete ↔
    (profiles.lookup defaultProfile).bind ProfileSettings.complete? = none := by
  constructor
  · intro h
    unfold ofProfiles at h
    split at h
    case h_1 hnone => exact hnone
    case h_2 base hbase =>
      simp only at h
      split at h
      case h_1 => cases h
      case h_2 =>
        cases hcustoms : compileCustoms base
            (profiles.filter fun profile => profile.1 != defaultProfile) with
        | error fault =>
          rw [hcustoms] at h
          obtain rfl := Except.error.inj h
          exact absurd hcustoms compileCustoms_ne_incomplete
        | ok filters =>
          rw [hcustoms] at h
          cases h
  · intro h
    rw [ofProfiles, h]

theorem ofFields_incomplete_iff : (ofFields root file source).result = .error ⟨file, .incomplete⟩ ↔
    ∃ store profiles, Settings.read (Layer.overlay embedded source) = .ok (store, profiles) ∧
      (profiles.lookup defaultProfile).bind ProfileSettings.complete? = none := by
  simp only [ofFields]
  cases hread : Settings.read (Layer.overlay embedded source) with
  | error e => simp
  | ok found =>
    obtain ⟨store, profiles⟩ := found
    have hmap : (ofProfiles root store profiles).mapError (SettingsError.mk file) =
        .error ⟨file, .incomplete⟩ ↔ ofProfiles root store profiles = .error .incomplete := by
      cases ofProfiles root store profiles <;> simp [Except.mapError]
    refine (hmap.trans ofProfiles_incomplete_iff).trans ?_
    simp

/-- Settings that can be read are complete but where the source puts a list in the place of the
default profile that ends before the last setting that must be there. -/
theorem incomplete_iff (h : ProperFields source) (apart : Layer.Apart "profile" source) :
    (ofFields root file source).result = .error ⟨file, .incomplete⟩ ↔
      (∃ found, Settings.read (Layer.overlay embedded source) = .ok found) ∧
        ∃ items, lookup? defaultProfile (profilesIn source) = some (.list items) ∧
          items.length < 11 := by
  rw [ofFields_incomplete_iff]
  have complete : ∀ {store profiles},
      Settings.read (Layer.overlay embedded source) = .ok (store, profiles) →
      ((profiles.lookup defaultProfile).bind ProfileSettings.complete? = none ↔
        ∃ items, lookup? defaultProfile (profilesIn source) = some (.list items) ∧
          items.length < 11) := by
    intro store profiles hread
    obtain ⟨user, read, -, hlookup, hlayers⟩ :=
      gives_default h (readProfiles_of_read h apart hread)
    rw [hlookup, Option.bind_some, ← Option.not_isSome_iff_eq_none,
      ProfileSettings.complete?_isSome_iff]
    rcases hlayers with ⟨hnolist, rfl⟩ | ⟨items, hlist, tells, rfl⟩
    · refine iff_of_false (fun hinsufficient => hinsufficient (sufficient_embedded.atop user)) ?_
      rintro ⟨items, hlist, -⟩
      exact hnolist items hlist
    · have proper : ∀ item ∈ items, item.Proper := by
        cases (ProperFields.profilesIn h).lookup? hlist with
        | list proper => exact proper
      rw [ProfileSettings.sufficient_positional proper tells, Nat.not_le]
      constructor
      · exact fun hlength => ⟨items, hlist, hlength⟩
      · rintro ⟨items', hlist', hlength⟩
        obtain rfl : items = items' := by
          rw [hlist] at hlist'
          cases hlist'
          rfl
        exact hlength
  constructor
  · rintro ⟨store, profiles, hread, hnone⟩
    exact ⟨⟨_, hread⟩, (complete hread).mp hnone⟩
  · rintro ⟨⟨⟨store, profiles⟩, hread⟩, hlist⟩
    exact ⟨store, profiles, hread, (complete hread).mpr hlist⟩

end

end Settings

end Flaky
