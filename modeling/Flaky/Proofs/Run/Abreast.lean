-- SUMMARY: Two runs whose plans differ in their limits only: step by step the engine and the disk see the same of both.
import Flaky.Proofs.Run.History

/-!
# Runs abreast

The limits of a plan, its number of rounds and its cap, reach the events of a run
and its tally. They reach neither the engine nor the disk while rounds go on: two
sessions of plans that differ in their limits only are abreast, and every step of
the run keeps them so. Both fail then in the same step and with the same error, or
neither does. What their tallies make of the rounds is left open here.
-/

namespace Flaky

/-! ## Limits -/

/-- No cap is higher than no limit at all. -/
instance : LE FailureCap where
  le
    | _, .unlimited => True
    | .count max, .count max' => max ≤ max'
    | .unlimited, .count _ => False

/-- The settings differ in their limits only, and the second allows no less. -/
structure RunSettings.Within (settings settings' : RunSettings) : Prop where
  baseSeed : settings.baseSeed = settings'.baseSeed
  simulate : settings.simulateNonRetryable = settings'.simulateNonRetryable
  perturbation : settings.perturbation = settings'.perturbation
  filter : settings.filter = settings'.filter
  maxRounds : settings.maxRounds ≤ settings'.maxRounds
  cap : settings.cap ≤ settings'.cap

/-- Of all that rounds depend on the plans differ in their limits only, and the second allows no
    less. Their rounds get the same ids. -/
structure RunPlan.Within (plan plan' : RunPlan) : Prop where
  settings : plan.settings.Within plan'.settings
  store : plan.store = plan'.store
  runId : plan.circumstances.runId = plan'.circumstances.runId
  roundId : plan.circumstances.roundId = plan'.circumstances.roundId

namespace RunPlan.Within

variable {plan plan' : RunPlan}

theorem directory (h : plan.Within plan') : plan.directory = plan'.directory := by
  rw [RunPlan.directory, RunPlan.directory, h.store, h.runId]

theorem artifacts (h : plan.Within plan') : plan.artifacts = plan'.artifacts := by
  rw [RunPlan.artifacts, RunPlan.artifacts, h.store]

theorem baseline (h : plan.Within plan') : plan.baseline = plan'.baseline := by
  rw [RunPlan.baseline, RunPlan.baseline, h.roundId, h.directory, h.artifacts]

theorem seeded (h : plan.Within plan') (i : Nat) : plan.seeded i = plan'.seeded i := by
  rw [RunPlan.seeded, RunPlan.seeded, h.roundId, h.directory, h.artifacts, h.settings.baseSeed,
    h.settings.perturbation]

end RunPlan.Within

/-! ## Sessions -/

section

variable {σ : Type}

namespace Session

variable {s s' : Session σ}

/-- The engine has been called the same way in both sessions, and what it is called on next is the
    same. -/
structure Abreast (s s' : Session σ) : Prop where
  engine : s.engine = s'.engine
  disk : s.disk = s'.disk
  log : s.log = s'.log
  turns : s.turns = s'.turns

namespace Abreast

theorem emit (h : s.Abreast s') (event event' : RunEvent) :
    (s.emit event).Abreast (s'.emit event') :=
  ⟨h.engine, h.disk, h.log, by simpa using h.turns⟩

theorem note (h : s.Abreast s') (entries entries' : List LogEntry) :
    (s.note entries).Abreast (s'.note entries') :=
  ⟨h.engine, h.disk, h.log, by simpa using h.turns⟩

theorem act (h : s.Abreast s') {act act' : Act} (hturn : turnsOf [act] = turnsOf [act']) :
    (s.act act).Abreast (s'.act act') :=
  ⟨h.engine, h.disk, h.log, by rw [turns_act, turns_act, h.turns, hturn]⟩

theorem advance (h : s.Abreast s') (next : Phase) : (s.advance next).Abreast (s'.advance next) := by
  have entered : (s.act (.enter s.phase next)).Abreast (s'.act (.enter s'.phase next)) := h.act rfl
  exact ⟨entered.engine, entered.disk, entered.log, entered.turns⟩

theorem reset (h : s.Abreast s') (lastRound lastRound' : Bool) :
    (s.reset lastRound).Abreast (s'.reset lastRound') :=
  ⟨h.engine, h.disk, h.log, h.turns⟩

theorem withDisk (h : s.Abreast s') (disk : Disk) :
    Abreast { s with disk := disk } { s' with disk := disk } :=
  ⟨h.engine, rfl, h.log, h.turns⟩

theorem withLog (h : s.Abreast s') (disk : Disk) (log : RunLog) :
    Abreast { s with disk := disk, log := some log } { s' with disk := disk, log := some log } :=
  ⟨h.engine, rfl, rfl, h.turns⟩

end Abreast

end Session

/-! ## Steps -/

/-- Both fail with the same error or neither does, in sessions that are abreast. -/
inductive Alike {α : Type} : Except RunError α × Session σ → Except RunError α × Session σ → Prop
  | failed {error : RunError} {s s' : Session σ} (abreast : s.Abreast s') :
    Alike (.error error, s) (.error error, s')
  | done {a a' : α} {s s' : Session σ} (abreast : s.Abreast s') : Alike (.ok a, s) (.ok a', s')

variable {plan plan' : RunPlan} {s s' : Session σ}

/-- The engine is called on the same and does the same. -/
theorem deliver_abreast (engine : Engine σ) (h : s.Abreast s') (filter : Filter) (round : Round) :
    (deliver engine filter round s).1 = (deliver engine filter round s').1 ∧
      (deliver engine filter round s).2.Abreast (deliver engine filter round s').2 := by
  unfold deliver
  rw [h.engine, h.disk]
  rcases engine ⟨round, filter⟩ s'.engine s'.disk with ⟨did, state, disk⟩
  have called : (s.act (.execute ⟨⟨round, filter⟩, did⟩)).Abreast
      (s'.act (.execute ⟨⟨round, filter⟩, did⟩)) := h.act rfl
  have noted := called.note
    (did.notesBefore ++ s.tally.allNotes did.notesEach did.reports ++ did.notesAfter)
    (did.notesBefore ++ s'.tally.allNotes did.notesEach did.reports ++ did.notesAfter)
  exact ⟨rfl, rfl, rfl, noted.log, noted.turns⟩

theorem executeRound_alike (engine : Engine σ) (within : plan.Within plan') (h : s.Abreast s')
    (round : Round) :
    Alike (executeRound engine plan round s) (executeRound engine plan' round s') := by
  obtain ⟨hfailure, delivered⟩ := deliver_abreast engine
    (h.emit (.roundStarted round plan.settings.maxRounds)
      (.roundStarted round plan'.settings.maxRounds)) plan'.settings.filter round
  unfold executeRound
  rw [within.settings.filter]
  simp only
  generalize deliver engine plan'.settings.filter round (s.emit _) = result
    at hfailure delivered ⊢
  generalize deliver engine plan'.settings.filter round (s'.emit _) = result'
    at hfailure delivered ⊢
  obtain ⟨failure, t⟩ := result
  obtain ⟨failure', t'⟩ := result'
  obtain rfl : failure = failure' := hfailure
  cases failure with
  | some error => exact .failed delivered
  | none =>
    have finished := delivered.emit
      (.roundFinished (round.complete t.tally.result) t.tally.result)
      (.roundFinished (round.complete t'.tally.result) t'.tally.result)
    exact .done ⟨finished.engine, finished.disk, finished.log, finished.turns⟩

theorem executeInDirectory_alike (engine : Engine σ) (within : plan.Within plan') (h : s.Abreast s')
    (round : Round) :
    Alike (executeInDirectory engine plan round s) (executeInDirectory engine plan' round s') := by
  unfold executeInDirectory
  rw [h.disk]
  rcases s'.disk.createDirectories round.outputDirectory with ⟨_ | _, disk⟩
  · exact .failed (h.withDisk disk)
  · exact executeRound_alike engine within (h.withDisk disk) round

theorem logRound_abreast (within : plan.Within plan') (h : s.Abreast s') (round : Round) :
    (logRound plan round s).Abreast (logRound plan' round s') := by
  unfold logRound
  rw [h.log, h.disk, within.directory]
  cases s'.log with
  | none => exact h
  | some log =>
    simp only
    rcases log.append round.id s'.disk with ⟨_ | _, log', disk⟩
    · exact (h.withLog disk log').emit _ _
    · exact h.withLog disk log'

theorem runRound_alike (engine : Engine σ) (within : plan.Within plan') (h : s.Abreast s')
    (round : Round) :
    Alike (runRound engine plan round s) (runRound engine plan' round s') := by
  have executed := executeInDirectory_alike engine within h round
  unfold runRound
  generalize executeInDirectory engine plan round s = result at executed ⊢
  generalize executeInDirectory engine plan' round s' = result' at executed ⊢
  cases executed with
  | failed abreast => exact .failed abreast
  | done abreast => exact .done (logRound_abreast within abreast round)

theorem seededRound_alike (engine : Engine σ) (within : plan.Within plan') (h : s.Abreast s')
    (i : Nat) :
    Alike (seededRound engine plan i s) (seededRound engine plan' i s') := by
  have ran := runRound_alike engine within (h.advance (.seeded i)) (plan'.seeded i)
  unfold seededRound
  rw [within.seeded]
  generalize runRound engine plan (plan'.seeded i) (s.advance (.seeded i)) = result at ran ⊢
  generalize runRound engine plan' (plan'.seeded i) (s'.advance (.seeded i)) = result' at ran ⊢
  cases ran with
  | failed abreast => exact .failed abreast
  | done abreast => exact .done abreast

theorem runUnperturbed_alike (engine : Engine σ) (within : plan.Within plan')
    (h : s.Abreast s') :
    Alike (runUnperturbed engine plan s) (runUnperturbed engine plan' s') := by
  have executed := executeRound_alike engine within (h.advance .baseline) plan'.baseline
  unfold runUnperturbed
  rw [within.baseline]
  generalize executeRound engine plan plan'.baseline (s.advance .baseline) = result at executed ⊢
  generalize executeRound engine plan' plan'.baseline (s'.advance .baseline) = result'
    at executed ⊢
  cases executed with
  | failed abreast => exact .failed abreast
  | done abreast => exact .done (abreast.advance .done)

theorem prepare_alike (within : plan.Within plan') (instrumentation : Instrumentation)
    (h : s.Abreast s') :
    Alike (prepare plan instrumentation s) (prepare plan' instrumentation s') := by
  unfold prepare
  rw [h.disk, within.directory, within.artifacts]
  rcases s'.disk.createDirectories plan'.directory.path with ⟨_ | _, disk⟩
  · exact .failed (h.withDisk disk)
  · have called : (s.act (.instrument plan'.artifacts)).Abreast
        (s'.act (.instrument plan'.artifacts)) := h.act rfl
    have noted := (called.withDisk (instrumentation plan'.artifacts disk).disk).note
      (instrumentation plan'.artifacts disk).notes (instrumentation plan'.artifacts disk).notes
    simp only
    cases (instrumentation plan'.artifacts disk).failure with
    | some error => exact .failed noted
    | none =>
      simp only
      rw [noted.disk]
      split
      · exact .done (noted.emit _ _)
      · exact .failed noted

theorem openRunLog_abreast (within : plan.Within plan') (h : s.Abreast s') :
    (openRunLog plan s).Abreast (openRunLog plan' s') := by
  unfold openRunLog
  rw [h.disk, within.directory]
  rcases RunLog.create plan'.directory.runLog s'.disk with ⟨_ | log, disk⟩
  · exact (h.withDisk disk).emit _ _
  · exact h.withLog disk log

theorem runBaseline_alike (engine : Engine σ) (within : plan.Within plan')
    (instrumentation : Instrumentation) (h : s.Abreast s') :
    Alike (runBaseline engine instrumentation plan s)
      (runBaseline engine instrumentation plan' s') := by
  have prepared := prepare_alike within instrumentation h
  unfold runBaseline
  generalize prepare plan instrumentation s = result at prepared ⊢
  generalize prepare plan' instrumentation s' = result' at prepared ⊢
  cases prepared with
  | failed abreast => exact .failed abreast
  | @done _ _ t t' abreast =>
    have ran := runRound_alike engine within
      ((openRunLog_abreast within abreast).advance .baseline) plan'.baseline
    simp only
    rw [within.baseline]
    generalize runRound engine plan plan'.baseline _ = result at ran ⊢
    generalize runRound engine plan' plan'.baseline _ = result' at ran ⊢
    cases ran with
    | failed abreast => exact .failed abreast
    | done abreast => exact .done (abreast.reset _ _)

end

end Flaky
