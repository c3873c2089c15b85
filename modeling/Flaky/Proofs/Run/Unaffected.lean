-- SUMMARY: Failing writes change nothing that a run comes to: two runs of an engine that does not look at the disk call it alike, end alike and hand the same texts to their artifacts.
import Flaky.Proofs.Run.Diary

/-!
# Runs on which failing writes have no effect

An engine is blind if what it does follows from what it has been given to execute.
What a run with such an engine comes to follows from its plan, unless it was
hindered: a directory that it needs could not be created, or its instrumentation
was not in place. So two runs that were not hindered come to the same, whichever of
their writes failed, and each write that failed is told of once.
-/

namespace Flaky

/-! ## Courses of blind engines -/

/-- What the engine does and how it goes on do not depend on the disk. -/
def Engine.Blind {σ : Type} (engine : Engine σ) : Prop :=
  ∀ selection state disk disk',
    (engine selection state disk).1 = (engine selection state disk').1 ∧
    (engine selection state disk).2.1 = (engine selection state disk').2.1

/-- The error says that a directory could not be created or that the instrumentation was not in
    place. -/
def RunError.hinders : RunError → Bool
  | .directory _ _ | .instrumentation _ => true
  | .engine _ _ => false

/-- A run broke off because it lacked something that it needs. -/
def hindered {α : Type} : Except RunError α → Bool
  | .error error => error.hinders
  | .ok _ => false

@[simp] theorem hindered_map {α β : Type} {f : α → β} {result : Except RunError α} :
    hindered (result.map f) = hindered result := by
  cases result <;> rfl

section

variable {σ : Type} {engine : Engine σ} {plan : RunPlan} {state last last' : σ}

/-- A blind engine that is called on the same does the same. -/
theorem Engine.Blind.cons_agree (blind : engine.Blind) {selection : Selection}
    {did did' : EngineRun} {turns turns' : List EngineTurn}
    (h : engine.Calls (⟨selection, did⟩ :: turns) state last)
    (h' : engine.Calls (⟨selection, did'⟩ :: turns') state last') :
    did = did' ∧ ∃ next, engine.Calls turns next last ∧ engine.Calls turns' next last' := by
  cases h with
  | @cons _ _ _ next _ disk _ call rest =>
    cases h' with
    | @cons _ _ _ next' _ disk' _ call' rest' =>
      obtain ⟨hdid, hnext⟩ := blind selection state disk disk'
      rw [call, call'] at hdid hnext
      obtain rfl : next = next' := hnext
      exact ⟨hdid, next, rest, rest'⟩

/-- Seeded rounds of a blind engine take one course only. -/
theorem SeededRun.agree (blind : engine.Blind) {baseline : List Report} {before : Phase}
    {seeded : List (List Report)} {acts acts' : List Act}
    {result result' : Except RunError (List RoundRecord × RunStatus)}
    (h : SeededRun plan baseline before seeded acts result)
    (h' : SeededRun plan baseline before seeded acts' result')
    (calls : engine.Calls (turnsOf acts) state last)
    (calls' : engine.Calls (turnsOf acts') state last')
    (free : hindered result = false) (free' : hindered result' = false) :
    acts = acts' ∧ result = result' := by
  -- both courses make the same call, so the other one goes on as this one does
  induction h generalizing acts' result' state with
  | unplaced => cases free
  | @failed before seeded did error failure =>
    cases h' with
    | unplaced => cases free'
    | failed failure' =>
      obtain ⟨rfl, -⟩ := blind.cons_agree calls calls'
      obtain rfl : error = _ := Option.some.inj (failure.symm.trans failure')
      exact ⟨rfl, rfl⟩
    | stopped failure' | later failure' =>
      obtain ⟨rfl, -⟩ := blind.cons_agree calls calls'
      cases failure.symm.trans failure'
  | @stopped before seeded did status failure stop =>
    cases h' with
    | unplaced => cases free'
    | failed failure' =>
      obtain ⟨rfl, -⟩ := blind.cons_agree calls calls'
      cases failure.symm.trans failure'
    | stopped failure' stop' =>
      obtain ⟨rfl, -⟩ := blind.cons_agree calls calls'
      obtain rfl : status = _ := Option.some.inj (stop.symm.trans stop')
      exact ⟨rfl, rfl⟩
    | later failure' stop' =>
      obtain ⟨rfl, -⟩ := blind.cons_agree calls calls'
      cases stop.symm.trans stop'
  | @later before seeded did acts result failure stop rest ih =>
    cases h' with
    | unplaced => cases free'
    | failed failure' =>
      obtain ⟨rfl, -⟩ := blind.cons_agree calls calls'
      cases failure.symm.trans failure'
    | stopped failure' stop' =>
      obtain ⟨rfl, -⟩ := blind.cons_agree calls calls'
      cases stop.symm.trans stop'
    | later failure' stop' rest' =>
      obtain ⟨rfl, next, later, later'⟩ := blind.cons_agree calls calls'
      rw [hindered_map] at free free'
      obtain ⟨rfl, rfl⟩ := ih rest' later later' free free'
      exact ⟨rfl, rfl⟩

/-- The rounds of a blind engine take one course only, the baseline included. -/
theorem SeededRun.agree_opening (blind : engine.Blind) {did did' : EngineRun}
    {acts acts' : List Act}
    {result result' : Except RunError (List RoundRecord × RunStatus)}
    (h : SeededRun plan did.reports .baseline [] acts result)
    (h' : SeededRun plan did'.reports .baseline [] acts' result')
    (calls : engine.Calls (turnsOf (plan.opening did ++ acts)) state last)
    (calls' : engine.Calls (turnsOf (plan.opening did' ++ acts')) state last')
    (free : hindered result = false) (free' : hindered result' = false) :
    did = did' ∧ acts = acts' ∧ result = result' := by
  rw [turnsOf_append] at calls calls'
  obtain ⟨rfl, next, later, later'⟩ := blind.cons_agree calls calls'
  exact ⟨rfl, h.agree blind h' later later' free free'⟩

/-- A run of a blind engine takes one course only. -/
theorem Course.agree (blind : engine.Blind) {acts acts' : List Act}
    {result result' : Except RunError Outcome} (h : Course plan acts result)
    (h' : Course plan acts' result') (calls : engine.Calls (turnsOf acts) state last)
    (calls' : engine.Calls (turnsOf acts') state last') (free : hindered result = false)
    (free' : hindered result' = false) : acts = acts' ∧ result = result' := by
  have lastly : ∀ {acts : List Act} {before after : Phase},
      turnsOf (acts ++ [.enter before after]) = turnsOf acts := by simp
  cases h with
  | noDirectory | uninstrumented | baselineUnplaced => cases free
  | @unperturbedFailed did error single failure =>
    cases h' with
    | unperturbedFailed _ failure' =>
      obtain ⟨rfl, -⟩ := blind.cons_agree calls calls'
      obtain rfl : error = _ := Option.some.inj (failure.symm.trans failure')
      exact ⟨rfl, rfl⟩
    | unperturbed _ failure' =>
      obtain ⟨rfl, -⟩ := blind.cons_agree calls calls'
      cases failure.symm.trans failure'
    | noDirectory many | uninstrumented many | baselineUnplaced many
    | baselineFailed many | broken many | finished many => exact absurd single many
  | @unperturbed did single failure =>
    cases h' with
    | unperturbedFailed _ failure' =>
      obtain ⟨rfl, -⟩ := blind.cons_agree calls calls'
      cases failure.symm.trans failure'
    | unperturbed _ failure' =>
      obtain ⟨rfl, -⟩ := blind.cons_agree calls calls'
      exact ⟨rfl, rfl⟩
    | noDirectory many | uninstrumented many | baselineUnplaced many
    | baselineFailed many | broken many | finished many => exact absurd single many
  | @baselineFailed did error many failure =>
    cases h' with
    | unperturbedFailed single | unperturbed single => exact absurd single many
    | noDirectory | uninstrumented | baselineUnplaced => cases free'
    | baselineFailed _ failure' =>
      obtain ⟨rfl, -⟩ := blind.cons_agree calls calls'
      obtain rfl : error = _ := Option.some.inj (failure.symm.trans failure')
      exact ⟨rfl, rfl⟩
    | broken _ failure' | finished _ failure' =>
      simp only [turnsOf_append] at calls'
      obtain ⟨rfl, -⟩ := blind.cons_agree calls calls'
      cases failure.symm.trans failure'
  | @broken did acts error many failure rounds =>
    cases h' with
    | unperturbedFailed single | unperturbed single => exact absurd single many
    | noDirectory | uninstrumented | baselineUnplaced => cases free'
    | baselineFailed _ failure' =>
      rw [turnsOf_append] at calls
      obtain ⟨rfl, -⟩ := blind.cons_agree calls calls'
      cases failure.symm.trans failure'
    | broken _ _ rounds' =>
      obtain ⟨rfl, rfl, herror⟩ :=
        rounds.agree_opening blind rounds' calls calls' free free'
      exact ⟨rfl, congrArg Except.error (Except.error.inj herror)⟩
    | finished _ _ rounds' =>
      rw [lastly] at calls'
      obtain ⟨-, -, hresult⟩ := rounds.agree_opening blind rounds' calls calls' free rfl
      cases hresult
  | @finished did acts records status many failure rounds =>
    rw [lastly] at calls
    cases h' with
    | unperturbedFailed single | unperturbed single => exact absurd single many
    | noDirectory | uninstrumented | baselineUnplaced => cases free'
    | baselineFailed _ failure' =>
      rw [turnsOf_append] at calls
      obtain ⟨rfl, -⟩ := blind.cons_agree calls calls'
      cases failure.symm.trans failure'
    | broken _ _ rounds' =>
      obtain ⟨-, -, hresult⟩ := rounds.agree_opening blind rounds' calls calls' rfl free'
      cases hresult
    | finished _ _ rounds' =>
      rw [lastly] at calls'
      obtain ⟨rfl, rfl, hresult⟩ := rounds.agree_opening blind rounds' calls calls' rfl rfl
      obtain ⟨rfl, rfl⟩ := Prod.mk.inj (Except.ok.inj hresult)
      exact ⟨rfl, rfl⟩

end

/-! ## Failed writes -/

namespace Deed

/-- The text that the deed hands to the write of an artifact. -/
def task? : Deed → Option (Artifact × String × String)
  | .write artifact path text _ => some (artifact, path, text)
  | .tell _ | .createDirectory .. | .instrument | .execute _ | .openLog _ | .log .. => none

/-- The deed works on the run log. -/
def onLog : Deed → Bool
  | .openLog _ | .log .. => true
  | .tell _ | .createDirectory .. | .instrument | .execute _ | .write .. => false

/-- The artifact that the deed failed to put where it belongs. -/
def failure? (plan : RunPlan) : Deed → Option (Artifact × String × ArtifactError)
  | .openLog (.error error) | .log _ (.error error) =>
    some (.runLog, plan.directory.runLog, .runLog error)
  | .write artifact path _ (.error error) => some (artifact, path, error)
  | .openLog (.ok ()) | .log _ (.ok ()) | .write _ _ _ (.ok ()) => none
  | .tell _ | .createDirectory .. | .instrument | .execute _ => none

end Deed

/-- The artifact that the event says could not be put where it belongs. -/
def RunEvent.failure? : RunEvent → Option (Artifact × String × ArtifactError)
  | .artifactFailed artifact path error => some (artifact, path, error)
  | .runStarted .. | .instrumentationReady _ | .roundStarted .. | .roundFinished .. |
    .runAborted _ | .artifactWritten .. | .runFinished .. => none

/-- The texts that a run hands to the writes of its artifacts once it comes to a result. -/
def RunPlan.tasks (plan : RunPlan) :
    Except RunError Outcome → List (Artifact × String × String)
  | .ok (.finished outcome) => outcome.finished.tasks outcome.directory plan.settings.junitPath
  | .ok (.unperturbed _) | .error _ => []

section

variable {plan : RunPlan} {deeds : List Deed} {result : Except RunError Outcome}

theorem FinishedRun.closingDeeds_task (run : FinishedRun) (writings : List Writing) :
    (run.closingDeeds writings).filterMap Deed.task? = writings.map (·.task) := by
  rw [← filterMap_worksOf fun _ => rfl, worksOf_closingDeeds, List.filterMap_map]
  exact congrFun List.filterMap_eq_map _

/-- No deed up to the last round writes an artifact. -/
theorem RunPlan.rounds_task (opened : Except RunLogError Unit) (rounds : List FinishedRound) :
    (plan.openingDeeds opened ++ rounds.flatMap plan.roundDeeds).filterMap Deed.task? = [] := by
  rw [← filterMap_worksOf fun _ => rfl, worksOf_append, worksOf_openingDeeds, worksOf_rounds]
  simp only [List.filterMap_append, List.filterMap_flatMap, List.append_eq_nil_iff,
    List.flatMap_eq_nil_iff]
  refine ⟨rfl, fun finished _ => ⟨rfl, ?_⟩⟩
  unfold FinishedRound.logDeed?
  cases finished.logged <;> rfl

theorem RunPlan.Broken.task {round : Round} {error : RunError}
    (h : plan.Broken round deeds error) : deeds.filterMap Deed.task? = [] := by
  cases h <;> rfl

/-- The texts that are handed to writes follow from what the run comes to. -/
theorem Diary.tasks (h : Diary plan deeds result) :
    deeds.filterMap Deed.task? = plan.tasks result := by
  cases h with
  | unperturbedFailed | unperturbed | noDirectory | uninstrumented => rfl
  | broken many consecutive broken =>
    rw [List.cons_append, List.filterMap_cons_none rfl, ← List.append_assoc, List.filterMap_append,
      RunPlan.rounds_task, broken.task]
    rfl
  | finished many consecutive hrun tasks =>
    rw [List.cons_append, List.filterMap_cons_none rfl, ← List.append_assoc, List.filterMap_append,
      RunPlan.rounds_task, FinishedRun.closingDeeds_task, tasks]
    rfl

/-- The run log is not among the artifacts whose texts are handed over as a whole. -/
theorem RunPlan.tasks_not_log {task : Artifact × String × String} (h : task ∈ plan.tasks result) :
    task.1 ≠ .runLog := by
  unfold RunPlan.tasks at h
  split at h
  case h_1 outcome =>
    cases hpath : plan.settings.junitPath with
    | none =>
      obtain rfl | rfl : task = _ ∨ task = _ := by simpa [FinishedRun.tasks, hpath] using h
      all_goals simp
    | some path =>
      obtain rfl | rfl | rfl : task = _ ∨ task = _ ∨ task = _ := by
        simpa [FinishedRun.tasks, hpath] using h
      all_goals simp
  case h_2 => cases h
  case h_3 => cases h

/-- The failures that are made known are those of the deeds, one for each. -/
theorem Diary.failures (h : Diary plan deeds result) :
    (eventsOf deeds).filterMap RunEvent.failure? = deeds.filterMap (Deed.failure? plan) := by
  refine h.blocks.filterMap_eventsOf fun block hblock => ?_
  cases hblock with
  | openLog opened => cases opened <;> rfl
  | log id outcome => cases outcome <;> rfl
  | write writing => obtain ⟨_, _, _, _ | _⟩ := writing <;> rfl
  | _ => rfl

/-! ### The run log -/

theorem FinishedRun.closingDeeds_onLog (run : FinishedRun) (writings : List Writing) :
    (run.closingDeeds writings).filter Deed.onLog = [] := by
  rw [← filter_worksOf fun _ => rfl, worksOf_closingDeeds, List.filter_eq_nil_iff]
  intro deed hdeed
  obtain ⟨writing, -, rfl⟩ := List.mem_map.mp hdeed
  exact Bool.false_ne_true

/-- Up to the last round the run log is created, and the rounds are put into it. -/
theorem RunPlan.rounds_onLog (opened : Except RunLogError Unit) (rounds : List FinishedRound) :
    (plan.openingDeeds opened ++ rounds.flatMap plan.roundDeeds).filter Deed.onLog =
      .openLog opened :: rounds.filterMap (·.logDeed?) := by
  rw [← filter_worksOf fun _ => rfl, worksOf_append, worksOf_openingDeeds, worksOf_rounds,
    List.filter_append, List.filter_flatMap, List.filterMap_eq_flatMap_toList]
  refine congrArg (Deed.openLog opened :: ·) (List.flatMap_congr fun finished _ => ?_)
  unfold FinishedRound.logDeed?
  cases finished.logged <;> rfl

theorem RunPlan.Broken.onLog {round : Round} {error : RunError}
    (h : plan.Broken round deeds error) : deeds.filter Deed.onLog = [] := by
  cases h <;> rfl

/-- The run log is created before the first round, and every finished round is put into it or none
    is. -/
theorem Diary.onLog (h : Diary plan deeds result) :
    deeds.filter Deed.onLog = [] ∨ ∃ opened rounds, plan.Consecutive 0 opened.isOk rounds ∧
      deeds.filter Deed.onLog = .openLog opened :: rounds.filterMap (·.logDeed?) := by
  have greeted : ∀ deeds, (.tell plan.hello :: deeds).filter Deed.onLog =
      deeds.filter Deed.onLog := fun deeds => List.filter_cons_of_neg (by simp [Deed.onLog])
  cases h with
  | unperturbedFailed | unperturbed | noDirectory | uninstrumented => exact .inl rfl
  | @broken opened rounds deeds error many consecutive broken =>
    refine .inr ⟨opened, rounds, consecutive, ?_⟩
    rw [List.cons_append, greeted, ← List.append_assoc, List.filter_append, RunPlan.rounds_onLog,
      broken.onLog, List.append_nil]
  | @finished opened baseline rounds status run writings many consecutive hrun tasks =>
    refine .inr ⟨opened, baseline :: rounds, consecutive, ?_⟩
    rw [List.cons_append, greeted, ← List.append_assoc, List.filter_append, RunPlan.rounds_onLog,
      FinishedRun.closingDeeds_onLog, List.append_nil]

/-- A run log that could not be created is not worked on again. -/
theorem Diary.unopened (h : Diary plan deeds result) {error : RunLogError}
    (hmem : .openLog (.error error) ∈ deeds) :
    deeds.filter Deed.onLog = [.openLog (.error error)] := by
  have hmem : .openLog (.error error) ∈ deeds.filter Deed.onLog := List.mem_filter.mpr ⟨hmem, rfl⟩
  obtain hnone | ⟨opened, rounds, consecutive, hlog⟩ := h.onLog
  · rw [hnone] at hmem
    cases hmem
  · rw [hlog, List.mem_cons] at hmem
    obtain hopened | hlogged := hmem
    · obtain rfl : .error error = opened := Deed.openLog.inj hopened
      have unlogged : rounds.filterMap (·.logDeed?) = [] := by
        rw [List.filterMap_eq_nil_iff]
        intro finished hfinished
        have hlogged := consecutive.logged finished hfinished
        rw [FinishedRound.logDeed?, Option.map_eq_none_iff]
        exact Option.not_isSome_iff_eq_none.mp (by rw [hlogged]; exact Bool.false_ne_true)
      rw [hlog, unlogged]
    · simp [FinishedRound.logDeed?] at hlogged

/-- The deeds that fail to work on the run log are among those that work on it. -/
theorem Diary.log_failures (h : Diary plan deeds result) :
    (deeds.filterMap (Deed.failure? plan)).filter (·.1 = .runLog) =
      (deeds.filter Deed.onLog).filterMap (Deed.failure? plan) := by
  rw [List.filter_filterMap, List.filterMap_filter]
  refine List.filterMap_congr fun deed hdeed => ?_
  cases deed with
  | write artifact path text outcome =>
    have htask : (artifact, path, text) ∈ plan.tasks result := by
      rw [← h.tasks]
      exact List.mem_filterMap.mpr ⟨_, hdeed, rfl⟩
    have hartifact : artifact ≠ .runLog := RunPlan.tasks_not_log htask
    cases outcome <;> simp [Deed.failure?, Deed.onLog, hartifact]
  | openLog outcome => cases outcome <;> simp [Deed.failure?, Deed.onLog]
  | log id outcome => cases outcome <;> simp [Deed.failure?, Deed.onLog]
  | _ => rfl

end

/-! ## Two runs -/

/-- The deeds of a run account for its artifacts: they hand over the texts that go with what the run
    came to, every failure is made known once, and a run log that could not be created is the one
    failure with the run log, and no round is put into it. -/
structure RunPlan.Accounts (plan : RunPlan) (result : Except RunError Outcome)
    (deeds : List Deed) (events : List RunEvent) : Prop where
  tasks : deeds.filterMap Deed.task? = plan.tasks result
  failures : events.filterMap RunEvent.failure? = deeds.filterMap (Deed.failure? plan)
  unopened : ∀ error, .openLog (.error error) ∈ deeds →
    deeds.filter Deed.onLog = [.openLog (.error error)] ∧
    (events.filterMap RunEvent.failure?).filter (·.1 = .runLog) =
      [(.runLog, plan.directory.runLog, .runLog error)]

theorem Diary.accounts {plan : RunPlan} {deeds : List Deed} {result : Except RunError Outcome}
    (h : Diary plan deeds result) : plan.Accounts result deeds (eventsOf deeds) where
  tasks := h.tasks
  failures := h.failures
  unopened error hmem := by
    refine ⟨h.unopened hmem, ?_⟩
    rw [h.failures, h.log_failures, h.unopened hmem]
    rfl

section

variable {σ : Type}

/-- What a run did about its artifacts. -/
theorem run_accounts (engine : Engine σ) (instrumentation : Instrumentation) (plan : RunPlan)
    (state : σ) (disk : Disk) :
    ∃ deeds, (Session.start plan state disk).Did engine instrumentation plan deeds
        (run engine instrumentation plan (.start plan state disk)).2 ∧
      plan.Accounts (run engine instrumentation plan (.start plan state disk)).1 deeds
        (run engine instrumentation plan (.start plan state disk)).2.events := by
  obtain ⟨deeds, diary, did⟩ := run_diary engine instrumentation plan state disk
  refine ⟨deeds, did, ?_⟩
  rw [did.events]
  exact diary.accounts

/-- Two runs of a blind engine that were not hindered call it alike and come to the same, whichever
    of their writes failed, and each hands over the same texts and tells of each of its failures
    once. -/
theorem run_unaffected {engine : Engine σ} (blind : engine.Blind)
    (instrumentation instrumentation' : Instrumentation) (plan : RunPlan) (state : σ)
    (disk disk' : Disk)
    (free : hindered (run engine instrumentation plan (.start plan state disk)).1 = false)
    (free' : hindered (run engine instrumentation' plan (.start plan state disk')).1 = false) :
    (run engine instrumentation plan (.start plan state disk)).1 =
        (run engine instrumentation' plan (.start plan state disk')).1 ∧
      (run engine instrumentation plan (.start plan state disk)).2.turns =
        (run engine instrumentation' plan (.start plan state disk')).2.turns ∧
      ∃ deeds deeds',
        (Session.start plan state disk).Did engine instrumentation plan deeds
          (run engine instrumentation plan (.start plan state disk)).2 ∧
        (Session.start plan state disk').Did engine instrumentation' plan deeds'
          (run engine instrumentation' plan (.start plan state disk')).2 ∧
        deeds.filterMap Deed.task? = deeds'.filterMap Deed.task? ∧
        plan.Accounts (run engine instrumentation plan (.start plan state disk)).1 deeds
          (run engine instrumentation plan (.start plan state disk)).2.events ∧
        plan.Accounts (run engine instrumentation' plan (.start plan state disk')).1 deeds'
          (run engine instrumentation' plan (.start plan state disk')).2.events := by
  obtain ⟨acts, course, moved⟩ := run_course engine instrumentation plan state disk
  obtain ⟨acts', course', moved'⟩ := run_course engine instrumentation' plan state disk'
  obtain ⟨deeds, did, accounts⟩ := run_accounts engine instrumentation plan state disk
  obtain ⟨deeds', did', accounts'⟩ := run_accounts engine instrumentation' plan state disk'
  obtain ⟨rfl, hresult⟩ := course.agree blind course' moved.calls moved'.calls free free'
  refine ⟨hresult, moved.turns_start.trans moved'.turns_start.symm, deeds, deeds', did, did', ?_,
    accounts, accounts'⟩
  rw [accounts.tasks, accounts'.tasks, hresult]

theorem Engine.small_blind : Engine.small.Blind := fun _ _ _ _ => ⟨rfl, rfl⟩

/-- A disk on which every write fails before its first byte. -/
def Disk.full : Disk := { Disk.blank with faults := fun _ => some ⟨0, .noSpace⟩ }

theorem run_unaffected_full :
    (run .small .none .small (.start .small () .full)).2.events.filterMap RunEvent.failure? ≠ [] ∧
      (run .small .none .small (.start .small () .blank)).1 =
        (run .small .none .small (.start .small () .full)).1 ∧
      (run .small .none .small (.start .small () .blank)).2.turns =
        (run .small .none .small (.start .small () .full)).2.turns := by
  obtain ⟨outcome, hfinished⟩ := small_finishes
  have hfull : hindered (run .small .none .small (.start .small () .full)).1 = false ∧
      (run .small .none .small (.start .small () .full)).2.events.filterMap RunEvent.failure? ≠
        [] := by
    decide +kernel
  obtain ⟨hresult, hturns, -⟩ := run_unaffected Engine.small_blind .none .none .small () .blank
    .full (by rw [hfinished]; rfl) hfull.1
  exact ⟨hfull.2, hresult, hturns⟩

end

end Flaky
