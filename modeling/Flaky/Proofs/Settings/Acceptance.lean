-- SUMMARY: Which profiles are accepted: those that together have no pattern that does not compile, in whatever order they are visited.
import Flaky.Proofs.Settings.Effective

/-!
# Accepted profiles

Profiles are compiled one after the other, each with what the default profile says where
it says nothing itself. What compiling one of them comes to is said by the first of its
patterns that does not compile, so whether all are accepted does not depend on the order
in which they are visited; of several that are at fault the order chooses one, but for
the default profile, which goes first. All of this takes a default profile that is
complete.
-/

namespace Flaky

open EffectiveSettings (PatternError)

/-! ## Patterns in their places -/

/-- A pattern of a profile: one of a list, or that of the test names. -/
inductive PlacedPattern
  | glob (kind : FilterList) (text : String)
  | testNames (text : String)

/-- What is wrong with a pattern that does not compile. -/
def PlacedPattern.error? : PlacedPattern → Option PatternError
  | .glob kind text =>
    match Glob.ofText text with
    | .error cause => some (.filter ⟨kind, text, cause⟩)
    | .ok _ => none
  | .testNames text => if Regex.isValid text then none else some (.testNames text)

namespace ProfileSettings

/-- The list that some settings give, if they give it. -/
def list? (own : ProfileSettings) : FilterList → Option (List String)
  | .includeClasses => own.includeClasses
  | .includeAnnotations => own.includeAnnotations
  | .excludeClasses => own.excludeClasses
  | .excludeAnnotations => own.excludeAnnotations

/-- The patterns that some settings give: list by list, and that of the test names last. -/
def patterns (own : ProfileSettings) : List PlacedPattern :=
  (FilterList.all.flatMap fun kind => ((own.list? kind).getD []).map (.glob kind)) ++
    own.testNames.toList.map .testNames

def Compiles (own : ProfileSettings) : Prop := ∀ pattern ∈ own.patterns, pattern.error? = .none

/-- What is wrong with the first pattern that does not compile. -/
def firstError? (own : ProfileSettings) : Option PatternError :=
  own.patterns.findSome? PlacedPattern.error?

theorem firstError?_eq_none_iff {own : ProfileSettings} :
    own.firstError? = .none ↔ own.Compiles :=
  List.findSome?_eq_none_iff

end ProfileSettings

/-! ## Compiling one profile -/

/-- The error of a computation that fails. -/
def refusal? {ε α : Type} : Except ε α → Option ε
  | .ok _ => none
  | .error e => some e

theorem Filter.refusal?_compileList {kind : FilterList} {texts : List String} :
    (refusal? (compileList kind texts)).map PatternError.filter =
      (texts.map (.glob kind)).findSome? PlacedPattern.error? := by
  induction texts with
  | nil => rfl
  | cons text rest ih =>
    rw [compileList, List.map_cons, List.findSome?_cons, ← ih, PlacedPattern.error?]
    cases Glob.ofText text with
    | error cause => rfl
    | ok glob => cases compileList kind rest <;> rfl

theorem Filter.refusal?_compile {patterns : FilterPatterns} :
    (refusal? (Filter.compile patterns)).map PatternError.filter =
      (FilterList.all.flatMap fun kind => (patterns.list kind).map (.glob kind)).findSome?
        PlacedPattern.error? := by
  simp only [FilterList.all, List.flatMap_cons, List.flatMap_nil, List.append_nil,
    List.findSome?_append, ← refusal?_compileList, FilterPatterns.list, Filter.compile]
  cases compileList .includeClasses patterns.includeClasses with
  | error e => rfl
  | ok includeClasses =>
    cases compileList .includeAnnotations patterns.includeAnnotations with
    | error e => rfl
    | ok includeAnnotations =>
      cases compileList .excludeClasses patterns.excludeClasses with
      | error e => rfl
      | ok excludeClasses =>
        cases compileList .excludeAnnotations patterns.excludeAnnotations <;> rfl

section

variable {own fallback : ProfileSettings} {base : EffectiveSettings}

namespace ProfileSettings

theorem Completes.list? (h : Completes own base) (kind : FilterList) :
    own.list? kind = some (base.patterns.list kind) := by
  cases kind with
  | includeClasses => exact h.includeClasses
  | includeAnnotations => exact h.includeAnnotations
  | excludeClasses => exact h.excludeClasses
  | excludeAnnotations => exact h.excludeAnnotations

/-- Settings that hold are refused for the first of their patterns that does not compile. -/
theorem Completes.refusal?_compile (h : Completes own base) :
    refusal? base.compile = own.firstError? := by
  rw [firstError?, patterns, List.findSome?_append]
  simp only [h.list?, Option.getD_some, ← Filter.refusal?_compile, h.testNames]
  rw [EffectiveSettings.compile]
  cases Filter.compile base.patterns with
  | error e => rfl
  | ok filter =>
    cases base.testNames with
    | none => rfl
    | some text =>
      cases hvalid : Regex.isValid text <;> simp [hvalid, refusal?, PlacedPattern.error?]

theorem Completes.compile_eq_error_iff (h : Completes own base) {e : PatternError} :
    base.compile = .error e ↔ own.firstError? = some e := by
  rw [← h.refusal?_compile]
  cases base.compile <;> simp [refusal?]

theorem Completes.exists_compile_iff (h : Completes own base) :
    (∃ filter, base.compile = .ok filter) ↔ own.Compiles := by
  rw [← firstError?_eq_none_iff, ← h.refusal?_compile]
  cases base.compile <;> simp [refusal?]

end ProfileSettings

/-- A profile has the filter of the lists that some settings tell, and their test names. -/
structure Profile.Carries (profile : Profile) (layers : ProfileSettings) : Prop where
  lists : ∀ kind, layers.list? kind = some (profile.filter.patterns.list kind)
  compiled : Filter.compile profile.filter.patterns = .ok profile.filter
  testNames : profile.settings.testNames = layers.testNames

theorem Profile.carries {profile : Profile}
    (complete : ProfileSettings.Completes own profile.settings)
    (compiled : profile.settings.compile = .ok profile.filter) : profile.Carries own := by
  have hcompile := Settings.filter_of_compile compiled
  have hpatterns := Filter.patterns_of_compile hcompile
  refine ⟨fun kind => ?_, ?_, complete.testNames.symm⟩
  · rw [hpatterns]
    exact complete.list? kind
  · rw [hpatterns]
    exact hcompile

/-! ## Compiling the profiles -/

namespace Settings

open ProfileSettings (Completes Sufficient)

variable {root store name : String} {customs profiles visited : List (String × ProfileSettings)}
variable {settings : Settings} {filters : List (String × Filter)} {fault : SettingsFault}
variable {profile : Profile}

theorem compileCustoms_eq_error (h : compileCustoms base customs = .error fault) :
    ∃ custom ∈ customs, ∃ e, fault = .pattern custom.1 e ∧
      (base.overlay custom.2).compile = .error e := by
  induction customs generalizing fault with
  | nil => cases h
  | cons custom rest ih =>
    obtain ⟨name, own⟩ := custom
    rw [compileCustoms] at h
    split at h
    case h_1 e he => exact ⟨_, List.mem_cons_self, e, (Except.error.inj h).symm, he⟩
    case h_2 =>
      cases hrest : compileCustoms base rest with
      | ok filters =>
        rw [hrest] at h
        cases h
      | error later =>
        rw [hrest] at h
        obtain rfl := Except.error.inj h
        obtain ⟨custom, hcustom, hfault⟩ := ih hrest
        exact ⟨custom, List.mem_cons_of_mem _ hcustom, hfault⟩

/-- There is a filter for each of the profiles, under its name. -/
theorem compileCustoms_eq_ok (h : compileCustoms base customs = .ok filters) :
    (∀ custom ∈ customs, ∃ filter, (base.overlay custom.2).compile = .ok filter) ∧
      filters.map Prod.fst = customs.map Prod.fst := by
  induction customs generalizing filters with
  | nil =>
    obtain rfl := Except.ok.inj h
    exact ⟨List.forall_mem_nil _, rfl⟩
  | cons custom rest ih =>
    obtain ⟨name, own⟩ := custom
    rw [compileCustoms] at h
    split at h
    case h_1 => cases h
    case h_2 filter hfilter =>
      obtain ⟨others, hothers, rfl⟩ := exists_of_map_eq_ok h
      obtain ⟨compiled, names⟩ := ih hothers
      exact ⟨List.forall_mem_cons.mpr ⟨⟨filter, hfilter⟩, compiled⟩,
        congrArg (List.cons name) names⟩

/-- Compiling the default profile and then the others fails for one of them; for another than the
    default one only if that one compiles. -/
theorem ofProfiles_eq_error (h : ofProfiles root store visited = .error fault)
    (hbase : (visited.lookup defaultProfile).bind ProfileSettings.complete? = some base) :
    (∃ e, fault = .pattern defaultProfile e ∧ base.compile = .error e) ∨
      (∃ filter, base.compile = .ok filter) ∧ ∃ custom ∈ visited, custom.1 ≠ defaultProfile ∧
        ∃ e, fault = .pattern custom.1 e ∧ (base.overlay custom.2).compile = .error e := by
  rw [ofProfiles, hbase] at h
  simp only at h
  split at h
  case h_1 e he => exact .inl ⟨e, (Except.error.inj h).symm, he⟩
  case h_2 filter hfilter =>
    cases hcustoms : compileCustoms base
        (visited.filter fun profile => profile.1 != defaultProfile) with
    | ok filters =>
      rw [hcustoms] at h
      cases h
    | error other =>
      rw [hcustoms] at h
      obtain rfl := Except.error.inj h
      obtain ⟨custom, hcustom, hfault⟩ := compileCustoms_eq_error hcustoms
      obtain ⟨hvisited, hname⟩ := List.mem_filter.mp hcustom
      exact .inr ⟨⟨filter, hfilter⟩, custom, hvisited, bne_iff_ne.mp hname, hfault⟩

theorem lookup_isSome_iff {α : Type} {entries : List (String × α)} :
    (entries.lookup name).isSome = true ↔ name ∈ entries.map Prod.fst := by
  rw [List.lookup_isSome_iff, List.mem_map]
  exact exists_congr fun entry => and_congr_right fun _ => beq_iff_eq.trans eq_comm

/-- Filters are kept under the names of the profiles. -/
theorem filters_isSome_iff (h : ofProfiles root store visited = .ok settings) :
    (settings.filters.lookup name).isSome = true ↔
      name = defaultProfile ∨ name ∈ visited.map Prod.fst := by
  obtain ⟨-, filter, filters, -, -, -, hcustoms, hfilters, hall⟩ := ofProfiles_eq_ok h
  rw [lookup_isSome_iff, hall, List.map_cons, List.mem_cons, (compileCustoms_eq_ok hfilters).2,
    hcustoms]
  by_cases hname : name = defaultProfile <;> simp [hname]

theorem effective?_isSome_iff (h : ofProfiles root store visited = .ok settings) :
    (settings.effective? name).isSome = true ↔
      name = defaultProfile ∨ name ∈ visited.map Prod.fst := by
  obtain ⟨-, -, -, -, -, -, hcustoms, -, -⟩ := ofProfiles_eq_ok h
  have hlookup : settings.customs.lookup name =
      if name = defaultProfile then none else visited.lookup name := by
    rw [hcustoms, lookup_customs]
  rw [effective?, hlookup, ← lookup_isSome_iff]
  by_cases hname : name = defaultProfile
  · simp [hname]
  · cases visited.lookup name <;> simp [hname]

theorem exists_profile_iff : (∃ profile, settings.profile name = .ok profile) ↔
    (settings.effective? name).isSome = true ∧ (settings.filters.lookup name).isSome = true := by
  unfold Settings.profile
  cases settings.effective? name <;> cases settings.filters.lookup name <;> simp

/-! ## Judging profiles -/

/-- What is served of some profiles: each of them under its name and nothing else, with the filter
    of its own lists or, where it has none, those of the default profile. -/
structure Serves (settings : Settings) (fallback : ProfileSettings)
    (profiles : List (String × ProfileSettings)) : Prop where
  found : ∀ name, (∃ profile, settings.profile name = .ok profile) ↔
    name = defaultProfile ∨ name ∈ profiles.map Prod.fst
  /-- For whatever profile something holds, there is a filter. -/
  filtered : ∀ name, (settings.effective? name).isSome = true →
    (settings.filters.lookup name).isSome = true
  carried : ∀ name own, (name, own) ∈ profiles → ∀ profile, settings.profile name = .ok profile →
    profile.Carries (own.atop fallback)

/-- What is right to make of some profiles. They are accepted if all their patterns compile, and
    refused for the first pattern of one of them that does not, the default profile before all. -/
structure Judges (fallback : ProfileSettings) (profiles : List (String × ProfileSettings))
    (result : Except SettingsFault Settings) : Prop where
  accepted : (∃ settings, result = .ok settings) ↔
    ∀ profile ∈ profiles, (profile.2.atop fallback).Compiles
  refused : ∀ fault, result = .error fault → ∃ profile ∈ profiles, ∃ e,
    fault = .pattern profile.1 e ∧ (profile.2.atop fallback).firstError? = some e ∧
      (¬ fallback.Compiles → profile.1 = defaultProfile)
  served : ∀ settings, result = .ok settings → settings.Serves fallback profiles

/-- Some profiles, the default one among them, in the order in which they are visited. -/
structure Visits (visited : List (String × ProfileSettings)) (fallback : ProfileSettings)
    (profiles : List (String × ProfileSettings)) : Prop where
  distinct : (profiles.map Prod.fst).Nodup
  present : (defaultProfile, fallback) ∈ profiles
  order : visited.Perm profiles

namespace Visits

theorem lookup (h : Visits visited fallback profiles) (hown : (name, own) ∈ profiles) :
    visited.lookup name = some own :=
  lookup_of_mem ((h.order.map Prod.fst).nodup_iff.mpr h.distinct) (h.order.mem_iff.mpr hown)

theorem default_of_mem (h : Visits visited fallback profiles)
    (hown : (defaultProfile, own) ∈ profiles) : own = fallback :=
  Option.some.inj ((h.lookup hown).symm.trans (h.lookup h.present))

theorem bind_complete? (h : Visits visited fallback profiles) :
    (visited.lookup defaultProfile).bind ProfileSettings.complete? = fallback.complete? := by
  rw [h.lookup h.present]
  rfl

theorem completes (h : Visits visited fallback profiles)
    (hresult : ofProfiles root store visited = .ok settings) :
    Completes fallback settings.base := by
  obtain ⟨read, -, -, hread, hcomplete, -⟩ := ofProfiles_eq_ok hresult
  obtain rfl := Option.some.inj (hread.symm.trans (h.lookup h.present))
  exact ProfileSettings.completes_of_complete? hcomplete

theorem compiles (h : Visits visited fallback profiles)
    (hresult : ofProfiles root store visited = .ok settings)
    (hown : (name, own) ∈ profiles) : (own.atop fallback).Compiles := by
  have complete := h.completes hresult
  obtain ⟨_, filter, _, -, -, hfilter, hcustoms, hfilters, -⟩ := ofProfiles_eq_ok hresult
  by_cases hname : name = defaultProfile
  · subst hname
    rw [h.default_of_mem hown, ProfileSettings.atop_self]
    exact complete.exists_compile_iff.mp ⟨filter, hfilter⟩
  · have hcustom : (name, own) ∈ settings.customs := by
      rw [hcustoms]
      exact List.mem_filter.mpr ⟨h.order.mem_iff.mpr hown, bne_iff_ne.mpr hname⟩
    exact (complete.atop own).exists_compile_iff.mp
      ((compileCustoms_eq_ok hfilters).1 _ hcustom)

theorem serves (h : Visits visited fallback profiles)
    (hresult : ofProfiles root store visited = .ok settings) :
    settings.Serves fallback profiles := by
  refine ⟨fun name => ?_, fun name heffective => ?_, fun name own hown profile hprofile => ?_⟩
  · rw [exists_profile_iff, effective?_isSome_iff hresult, filters_isSome_iff hresult, and_self,
      (h.order.map Prod.fst).mem_iff]
  · exact (filters_isSome_iff hresult).mpr ((effective?_isSome_iff hresult).mp heffective)
  · have complete := h.completes hresult
    obtain ⟨hcompile, ⟨-, found, hfound, hoverlay⟩ | ⟨rfl, hbase⟩⟩ :=
      compile_of_profile hresult hprofile
    · obtain rfl := Option.some.inj (hfound.symm.trans (h.lookup hown))
      exact Profile.carries (hoverlay ▸ complete.atop found) hcompile
    · rw [h.default_of_mem hown, ProfileSettings.atop_self]
      exact Profile.carries (hbase ▸ complete) hcompile

theorem refused (h : Visits visited fallback profiles) (hbase : fallback.complete? = some base)
    (hresult : ofProfiles root store visited = .error fault) : ∃ profile ∈ profiles, ∃ e,
      fault = .pattern profile.1 e ∧ (profile.2.atop fallback).firstError? = some e ∧
        (¬ fallback.Compiles → profile.1 = defaultProfile) := by
  have complete := ProfileSettings.completes_of_complete? hbase
  rcases ofProfiles_eq_error hresult (h.bind_complete?.trans hbase) with
    ⟨e, rfl, he⟩ | ⟨hcompiles, custom, hcustom, -, e, rfl, he⟩
  · refine ⟨_, h.present, e, rfl, ?_, fun _ => rfl⟩
    rw [ProfileSettings.atop_self]
    exact complete.compile_eq_error_iff.mp he
  · exact ⟨custom, h.order.mem_iff.mp hcustom, e, rfl,
      (complete.atop custom.2).compile_eq_error_iff.mp he,
      fun hnot => absurd (complete.exists_compile_iff.mp hcompiles) hnot⟩

/-- Over a default profile that is complete, profiles are judged right. -/
theorem judges (h : Visits visited fallback profiles) (hbase : fallback.complete? = some base) :
    Judges fallback profiles (ofProfiles root store visited) := by
  refine ⟨?_, fun fault => h.refused hbase, fun settings => h.serves⟩
  cases hresult : ofProfiles root store visited with
  | error fault =>
    obtain ⟨profile, hprofile, e, -, he, -⟩ := h.refused hbase hresult
    refine iff_of_false (fun ⟨_, hok⟩ => by cases hok) fun hall => ?_
    rw [ProfileSettings.firstError?_eq_none_iff.mpr (hall profile hprofile)] at he
    cases he
  | ok settings =>
    exact iff_of_true ⟨settings, rfl⟩ fun profile hprofile => h.compiles hresult hprofile

/-- Without a complete default profile nothing is accepted, and nothing is refused for a pattern. -/
theorem not_judges (h : Visits visited fallback profiles) (hnone : fallback.complete? = none) :
    ¬ Judges fallback profiles (ofProfiles root store visited) := by
  intro judges
  have hincomplete : ofProfiles root store visited = .error .incomplete :=
    ofProfiles_incomplete_iff.mpr (h.bind_complete?.trans hnone)
  obtain ⟨_, -, e, hfault, -⟩ := judges.refused _ hincomplete
  cases hfault

end Visits

/-- Profiles are judged right, in whatever order they are visited, exactly if the default profile
lacks none of the settings that it must give. -/
theorem ofProfiles_judges_iff (h : Visits visited fallback profiles) (root store : String) :
    Judges fallback profiles (ofProfiles root store visited) ↔ Sufficient fallback := by
  rw [← ProfileSettings.complete?_isSome_iff]
  cases hbase : fallback.complete? with
  | none => exact iff_of_false (h.not_judges hbase) Bool.false_ne_true
  | some base => exact iff_of_true (h.judges hbase) rfl

theorem ofProfiles_judges_inherited :
    let fallback := { ProfileSettings.embedded with excludeClasses := some ["com.{a,}*"] }
    let reversed := { ProfileSettings.none with includeClasses := some ["a", "[z-a]"] }
    let profiles := [("nightly", .none), (defaultProfile, fallback), ("ci", reversed)]
    Visits profiles.reverse fallback profiles ∧ Sufficient fallback ∧
      Judges fallback profiles (ofProfiles "/work" "target/flakehunt" profiles.reverse) := by
  intro fallback reversed profiles
  have visits : Visits profiles.reverse fallback profiles :=
    ⟨by decide, by simp [profiles], List.reverse_perm profiles⟩
  have sufficient : Sufficient fallback := ⟨rfl, rfl, rfl, rfl, rfl, rfl, rfl, rfl, rfl⟩
  exact ⟨visits, sufficient,
    (ofProfiles_judges_iff visits "/work" "target/flakehunt").mpr sufficient⟩

/-- The profiles of a document with a list in the place of the default profile are refused for none
of their patterns, of which there are none. -/
theorem not_ofProfiles_judges : ¬ ∀ text fields root store fallback profiles visited,
    Toml.ofText? text = some fields →
    Settings.read (Layer.overlay embedded fields) = .ok (store, profiles) →
    Visits visited fallback profiles →
    Judges fallback profiles (ofProfiles root store visited) := by
  intro judges
  obtain ⟨fields, hfields, hread⟩ := Option.map_eq_some_iff.mp
    (by decide +kernel : (Toml.ofText? "[profile]\ndefault = []\n").map (fun fields =>
      (Settings.read (Layer.overlay embedded fields)).toOption) =
        some (some ("target/flakehunt", [(defaultProfile, ProfileSettings.none)])))
  have visits : Visits [(defaultProfile, .none)] .none [(defaultProfile, .none)] :=
    ⟨List.nodup_singleton _, List.mem_singleton_self _, .rfl⟩
  cases hresult : Settings.read (Layer.overlay embedded fields) with
  | error e =>
    rw [hresult] at hread
    cases hread
  | ok found =>
    rw [hresult] at hread
    obtain rfl := Option.some.inj hread
    exact visits.not_judges rfl (judges _ fields "/work" _ _ _ _ hfields hresult visits)

end Settings

end

end Flaky
