-- SUMMARY: The run log as a file while a run goes on: it grows by the ids that are put into it, and by nothing else unless the engine works on it too.
import Flaky.Proofs.RunLog
import Flaky.Proofs.Run.Unaffected

/-!
# The file of the run log

A run works on many files, and its engine may work on any. If the engine leaves the
run log as it is, then the log holds the lines of the rounds that finished, for as
long as nothing went wrong with it: directories that are created and artifacts that
are written elsewhere do not touch it.
-/

namespace Flaky

/-- The engine leaves what the path leads to as it is. -/
def Engine.Spares {σ : Type} (engine : Engine σ) (path : String) : Prop :=
  ∀ selection state disk entry, disk.find path = .ok entry →
    (engine selection state disk).2.2.find path = .ok entry

namespace Deed

/-- The deed neither creates the run log nor fails to put an id into it, and writes no artifact. -/
def isCalm : Deed → Bool
  | .log _ outcome => outcome.isOk
  | .tell _ | .createDirectory .. | .execute _ => true
  | .instrument | .openLog _ | .write .. => false

/-- The id that the deed puts into the run log. -/
def logged? : Deed → Option ExecutionId
  | .log id _ => some id
  | .tell _ | .createDirectory .. | .instrument | .execute _ | .openLog _ | .write .. => none

end Deed

section

variable {σ : Type} {engine : Engine σ} {instrumentation : Instrumentation} {plan : RunPlan}
variable {deeds more : List Deed} {world world' last : World σ} {entry : Entry}

/-- The run log is open, and its next line belongs at the end of the entry that it is kept in. -/
def World.Keeps (world : World σ) (path : String) (entry : Entry) : Prop :=
  ∃ log : RunLog, world.log = some log ∧ log.path = path ∧ log.KeptIn world.disk entry

theorem World.Keeps.find {path : String} (h : world.Keeps path entry) :
    world.disk.find path = .ok entry := by
  obtain ⟨log, -, rfl, kept⟩ := h
  exact kept.find

/-- The run log stays where it is if nothing is put into it and its file stays the same. -/
theorem World.Keeps.still {path : String} (h : world.Keeps path entry)
    (hlog : world'.log = world.log) (hfind : world'.disk.find path = .ok entry) :
    world'.Keeps path entry := by
  obtain ⟨log, hopen, rfl, kept⟩ := h
  exact ⟨log, hlog.trans hopen, rfl, hfind, kept.endsAt⟩

/-! ## Rounds -/

/-- One deed of a round puts its id at the end of the run log, or nothing. -/
theorem Deed.Does.grows {deed : Deed} (spares : engine.Spares plan.directory.runLog)
    (h : deed.Does engine instrumentation plan world world') (calm : deed.isCalm = true)
    (kept : world.Keeps plan.directory.runLog entry) :
    world'.Keeps plan.directory.runLog (entry.grown (RunLog.bytesOf deed.logged?.toList)) := by
  have silent : entry.grown (RunLog.bytesOf []) = entry := entry.grown_nil
  cases h with
  | tell =>
    rw [Deed.logged?, Option.toList_none, silent]
    exact kept
  | @createDirectory path outcome state disk disk' log created =>
    have found := (Disk.createDirectories_keeps disk path).find kept.find fun _ _ => id
    rw [created] at found
    rw [Deed.logged?, Option.toList_none, silent]
    exact kept.still rfl found
  | @execute turn state state' disk disk' log called =>
    have spared := spares turn.selection state disk entry kept.find
    rw [called] at spared
    rw [Deed.logged?, Option.toList_none, silent]
    exact kept.still rfl spared
  | @log id outcome state disk disk' log log' logged =>
    cases outcome with
    | error error => cases calm
    | ok done =>
      have hbytes : RunLog.bytesOf [id] = Utf8.encode (RunLog.line id) := by
        simp [RunLog.bytesOf]
      obtain ⟨_, hopen, hpath, kept⟩ := kept
      obtain rfl := Option.some.inj hopen
      obtain ⟨hpath', kept⟩ := kept.append logged
      rw [Deed.logged?, Option.toList_some, hbytes]
      exact ⟨log', rfl, hpath'.trans hpath, kept⟩
  | instrument => cases calm
  | openLog created => cases calm
  | missLog missed => cases calm
  | write way written => cases calm

theorem Deed.DoAll.grows (spares : engine.Spares plan.directory.runLog)
    (h : Deed.DoAll engine instrumentation plan deeds world last)
    (calm : ∀ deed ∈ deeds, deed.isCalm = true)
    (kept : world.Keeps plan.directory.runLog entry) :
    last.Keeps plan.directory.runLog
      (entry.grown (RunLog.bytesOf (deeds.filterMap Deed.logged?))) := by
  induction h generalizing entry with
  | nil =>
    have silent : entry.grown (RunLog.bytesOf []) = entry := entry.grown_nil
    rw [List.filterMap_nil, silent]
    exact kept
  | @cons deed deeds world world' last first rest ih =>
    rw [List.forall_mem_cons] at calm
    have later := ih calm.2 (first.grows spares calm.1 kept)
    rw [Entry.grown_grown] at later
    cases hid : deed.logged? with
    | none => simpa [hid, RunLog.bytesOf, Utf8.encode] using later
    | some id => simpa [hid, RunLog.bytesOf, Utf8.encode] using later

/-- A round that was put into the run log has done nothing else to it. -/
theorem RunPlan.roundDeeds_calm {finished : FinishedRound}
    (hlogged : finished.logged = some (.ok ())) :
    (∀ deed ∈ plan.roundDeeds finished, deed.isCalm = true) ∧
      (plan.roundDeeds finished).filterMap Deed.logged? = [finished.round.id] := by
  simp only [roundDeeds, callDeeds, logDeeds, logNews, hlogged]
  exact ⟨by simp [Deed.isCalm, Except.isOk, Except.toBool], rfl⟩

theorem RunPlan.rounds_calm {rounds : List FinishedRound}
    (hlogged : ∀ finished ∈ rounds, finished.logged = some (.ok ())) :
    (∀ deed ∈ rounds.flatMap plan.roundDeeds, deed.isCalm = true) ∧
      (rounds.flatMap plan.roundDeeds).filterMap Deed.logged? = rounds.map fun f => f.round.id := by
  induction rounds with
  | nil => exact ⟨List.forall_mem_nil _, rfl⟩
  | cons finished rounds ih =>
    rw [List.forall_mem_cons] at hlogged
    obtain ⟨calm, logs⟩ := plan.roundDeeds_calm hlogged.1
    obtain ⟨calms, ids⟩ := ih hlogged.2
    rw [List.flatMap_cons, List.filterMap_append, logs, ids]
    exact ⟨List.forall_mem_append.mpr ⟨calm, calms⟩, rfl⟩

theorem RunPlan.Broken.calm {round : Round} {error : RunError}
    (h : plan.Broken round deeds error) :
    (∀ deed ∈ deeds, deed.isCalm = true) ∧ deeds.filterMap Deed.logged? = [] := by
  cases h with
  | unplaced => exact ⟨by simp [Deed.isCalm], rfl⟩
  | failed failure => exact ⟨by simp [callDeeds, Deed.isCalm], rfl⟩

theorem RunPlan.Consecutive.ids {n : Nat} {logging : Bool} {rounds : List FinishedRound}
    (h : plan.Consecutive n logging rounds) :
    (rounds.map fun f => f.round.id) =
      (List.range' n rounds.length).map fun i => (plan.round i).id := by
  simpa [Function.comp_def] using congrArg (List.map Round.id) h.order

/-! ## From the creation of the run log on -/

/-- Nothing is made known to be wrong with the run log. -/
def RunPlan.LogFine (plan : RunPlan) (events : List RunEvent) : Prop :=
  ∀ error, .artifactFailed .runLog plan.directory.runLog error ∉ events

/-- Nothing is wrong with the run log if nothing is wrong with any artifact. -/
theorem RunPlan.logFine_of_unfailing {events : List RunEvent}
    (h : events.filterMap RunEvent.failure? = []) : plan.LogFine events := by
  intro error hmem
  cases List.filterMap_eq_nil_iff.mp h _ hmem

theorem RunPlan.LogFine.opened {opened : Except RunLogError Unit}
    (fine : plan.LogFine (eventsOf (plan.openingDeeds opened))) : opened = .ok () := by
  cases opened with
  | ok done => rfl
  | error error =>
    exact absurd (by simp [openingDeeds, instrumentDeeds, logNews]) (fine (.runLog error))

theorem RunPlan.LogFine.logged {n : Nat} {rounds : List FinishedRound}
    (fine : plan.LogFine (eventsOf (rounds.flatMap plan.roundDeeds)))
    (consecutive : plan.Consecutive n true rounds) :
    ∀ finished ∈ rounds, finished.logged = some (.ok ()) := by
  intro finished hmem
  rcases hlogged : finished.logged with _ | error | _
  · have hsome := consecutive.logged finished hmem
    simp [hlogged] at hsome
  · refine absurd ?_ (fine (.runLog error))
    rw [eventsOf, List.filterMap_flatMap, List.mem_flatMap]
    exact ⟨finished, hmem, by simp [roundDeeds, callDeeds, logDeeds, logNews, hlogged, Deed.event?]⟩
  · rfl

/-- After the last round that finished, the run log holds the lines of the rounds that did, if it is
    a file. -/
theorem Deed.DoAll.rounds_grow (spares : engine.Spares plan.directory.runLog)
    {opened : Except RunLogError Unit} {rounds : List FinishedRound}
    (h : Deed.DoAll engine instrumentation plan
      (.tell plan.hello :: plan.openingDeeds opened ++ (rounds.flatMap plan.roundDeeds ++ more))
      world last)
    (consecutive : plan.Consecutive 0 opened.isOk rounds)
    (fine : plan.LogFine (eventsOf (.tell plan.hello :: plan.openingDeeds opened ++
      (rounds.flatMap plan.roundDeeds ++ more)))) :
    ∃ (middle : World σ) (entry : Entry),
      Deed.DoAll engine instrumentation plan more middle last ∧
      (∀ content, entry = .file content → content = []) ∧
      middle.Keeps plan.directory.runLog
        (entry.grown (RunLog.bytesOf (rounds.map fun f => f.round.id))) := by
  obtain rfl : opened = .ok () := @RunPlan.LogFine.opened plan opened fun error hmem =>
    fine error (by simp [hmem])
  have hlogged : ∀ finished ∈ rounds, finished.logged = some (.ok ()) :=
    RunPlan.LogFine.logged (fun error hmem => fine error (by simp [hmem])) consecutive
  -- the run log begins anew when it is created, so nothing before that matters
  have hopening : .tell plan.hello :: plan.openingDeeds (.ok ()) ++
        (rounds.flatMap plan.roundDeeds ++ more) =
      (.tell plan.hello :: plan.instrumentDeeds ++
          [.tell (.instrumentationReady plan.artifacts)]) ++
        .openLog (.ok ()) :: (rounds.flatMap plan.roundDeeds ++ more) := by
    simp [RunPlan.openingDeeds, RunPlan.logNews]
  rw [hopening] at h
  obtain ⟨_, -, opens⟩ := h.split
  cases opens with
  | cons first rest =>
    cases first with
    | openLog created =>
      obtain ⟨hpath, entry, kept, hempty⟩ := RunLog.create_keptIn created
      obtain ⟨middle, inRounds, after⟩ := rest.split
      obtain ⟨calm, ids⟩ := @RunPlan.rounds_calm plan rounds hlogged
      have grown := inRounds.grows spares calm ⟨_, rfl, hpath, kept⟩
      rw [ids] at grown
      exact ⟨middle, entry, after, hempty, grown⟩

end

end Flaky
