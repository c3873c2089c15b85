-- SUMMARY: The grammar of a run's events: which events a run makes known, in which order, and how far one gets that ends with an error.
import Flaky.Proofs.Run.Diary
import Mathlib.Data.List.Forall2

/-!
# The events of a run

`RunPlan.Word` is the grammar of the events of a run that comes to an outcome. It
names the rounds and what is told of the outcome, but not how the engine, the
instrumentation or the disk made it so. A run that ends with an error stops in the
middle of such a word.
-/

namespace Flaky

namespace RunEvent

/-- The event says how the rounds ended, or that the run is over. -/
def isEnd : RunEvent → Bool
  | .runAborted _ | .runFinished .. => true
  | .runStarted .. | .instrumentationReady _ | .roundStarted .. | .roundFinished .. |
    .artifactWritten .. | .artifactFailed .. => false

/-- The round that the event says is started. -/
def started? : RunEvent → Option Round
  | .roundStarted round _ => some round
  | .runStarted .. | .instrumentationReady _ | .roundFinished .. | .runAborted _ |
    .artifactWritten .. | .artifactFailed .. | .runFinished .. => none

end RunEvent

/-! ## The grammar -/

/-- The one event that tells how an artifact was written. -/
inductive RunEvent.Tells : Artifact × String → RunEvent → Prop
  | written {artifact : Artifact} {path : String} :
    Tells (artifact, path) (.artifactWritten artifact path)
  | failed {artifact : Artifact} {path : String} {error : ArtifactError} :
    Tells (artifact, path) (.artifactFailed artifact path error)

namespace RunPlan

/-- The artifacts that a finished run writes as a whole, and where. -/
def targets (plan : RunPlan) : List (Artifact × String) :=
  [(.report, plan.directory.report), (.summary, plan.directory.summary)] ++
    (plan.settings.junitPath.map fun path => (.junit, path)).toList

/-- The events of an attempt to work on the run log. -/
inductive LogWord (plan : RunPlan) : List RunEvent → Prop
  | silent : LogWord plan []
  | failed {error : RunLogError} :
    LogWord plan [.artifactFailed .runLog plan.directory.runLog (.runLog error)]

/-- The events of a round with a record. -/
inductive RoundWord (plan : RunPlan) : RoundRecord → List RunEvent → Prop
  | finished {record : RoundRecord} {result : RoundResult} {log : List RunEvent}
    (hlog : plan.LogWord log) :
    RoundWord plan record (.roundStarted record.round plan.settings.maxRounds ::
      .roundFinished record result :: log)

/-- The events of a run that comes to an outcome. The records of its rounds have not had the
    failures of the baseline subtracted. -/
inductive Word (plan : RunPlan) : Outcome → List RunEvent → Prop
  | unperturbed {record : RoundRecord} {result : RoundResult}
    (single : plan.settings.maxRounds = 0) (hround : record.round = plan.baseline) :
    Word plan (.unperturbed record)
      [plan.hello, .roundStarted plan.baseline 0, .roundFinished record result]
  | finished {baseline : RoundRecord} {records : List RoundRecord} {run : FinishedRun}
    {log : List RunEvent} {rounds : List (List RunEvent)} {artifacts : List RunEvent}
    (many : plan.settings.maxRounds ≠ 0) (hlog : plan.LogWord log)
    (order : (baseline :: records).map (·.round) =
      (List.range (records.length + 1)).map plan.round)
    (hrounds : List.Forall₂ plan.RoundWord (baseline :: records) rounds)
    (hbaseline : run.baseline = baseline) (hrecords : run.rounds = subtractAll baseline records)
    (hartifacts : List.Forall₂ RunEvent.Tells plan.targets artifacts) :
    Word plan (.finished ⟨plan.directory, run⟩)
      (plan.hello :: .instrumentationReady plan.artifacts :: log ++ rounds.flatten ++
        run.status.word ++ artifacts ++ [run.farewell])

/-- A run that comes to an outcome speaks a word of the grammar; one that ends with an error has
    spoken no more than the beginning of a word, and nothing of how its rounds ended. -/
def Speaks (plan : RunPlan) : Except RunError Outcome → List RunEvent → Prop
  | .ok outcome, events => plan.Word outcome events
  | .error _, events =>
    (∃ outcome word, plan.Word outcome word ∧ events <+: word ∧ events ≠ word) ∧
      ∀ event ∈ events, event.isEnd = false

end RunPlan

/-! ## Words of deeds -/

section

variable {plan : RunPlan}

theorem eventsOf_logNews (attempt : Except RunLogError Unit) :
    plan.LogWord (eventsOf (plan.logNews attempt)) := by
  cases attempt with
  | ok done => exact .silent
  | error error => exact .failed

theorem eventsOf_roundDeeds (finished : FinishedRound) :
    plan.RoundWord finished.record (eventsOf (plan.roundDeeds finished)) := by
  have hlog : plan.LogWord (eventsOf (plan.logDeeds finished.round.id finished.logged)) := by
    cases finished.logged with
    | none => exact .silent
    | some attempt => exact eventsOf_logNews attempt
  exact @RunPlan.RoundWord.finished plan finished.record _ _ hlog

theorem eventsOf_flatMap {α : Type} {deeds : α → List Deed} {items : List α} :
    eventsOf (items.flatMap deeds) = (items.map fun item => eventsOf (deeds item)).flatten := by
  rw [eventsOf, List.filterMap_flatMap, List.flatMap_def]
  rfl

theorem eventsOf_rounds (rounds : List FinishedRound) :
    List.Forall₂ plan.RoundWord (rounds.map (·.record))
      (rounds.map fun finished => eventsOf (plan.roundDeeds finished)) := by
  rw [List.forall₂_map_left_iff, List.forall₂_map_right_iff, List.forall₂_same]
  exact fun finished _ => eventsOf_roundDeeds finished

theorem RunPlan.Consecutive.records {n : Nat} {logging : Bool} {rounds : List FinishedRound}
    (h : plan.Consecutive n logging rounds) :
    (rounds.map (·.record)).map (·.round) = (List.range' n rounds.length).map plan.round := by
  rw [List.map_map, ← h.order]
  rfl

@[simp] theorem eventsOf_map_tell (events : List RunEvent) :
    eventsOf (events.map .tell) = events := by
  simp [eventsOf, List.filterMap_map, Function.comp_def, Deed.event?]

theorem Writing.tells (writing : Writing) :
    RunEvent.Tells (writing.artifact, writing.path) writing.news := by
  unfold news
  split
  · exact .written
  · exact .failed

theorem FinishedRun.tasks_targets (run : FinishedRun) :
    (run.tasks plan.directory plan.settings.junitPath).map (fun task => (task.1, task.2.1)) =
      plan.targets := by
  cases hpath : plan.settings.junitPath <;> simp [tasks, RunPlan.targets, hpath]

/-- Every artifact that was to be written is told of once. -/
theorem eventsOf_writings {run : FinishedRun} {writings : List Writing}
    (tasks : writings.map (·.task) = run.tasks plan.directory plan.settings.junitPath) :
    List.Forall₂ RunEvent.Tells plan.targets (eventsOf (writings.flatMap (·.deeds))) := by
  have hevents : eventsOf (writings.flatMap (·.deeds)) = writings.map (·.news) := by
    rw [eventsOf_flatMap, ← List.flatMap_def, ← List.flatMap_pure_eq_map]
    rfl
  rw [hevents, ← run.tasks_targets, ← tasks, List.map_map, List.forall₂_map_left_iff,
    List.forall₂_map_right_iff, List.forall₂_same]
  exact fun writing _ => writing.tells

/-! ## Beginnings of words -/

/-- The run makes known that it starts a round after others, and goes on. -/
theorem RunPlan.exists_word (many : plan.settings.maxRounds ≠ 0) {log : List RunEvent}
    (hlog : plan.LogWord log) {records : List RoundRecord} {rounds : List (List RunEvent)}
    (order : records.map (·.round) = (List.range records.length).map plan.round)
    (hrounds : List.Forall₂ plan.RoundWord records rounds) :
    ∃ outcome event rest, plan.Word outcome
      (plan.hello :: .instrumentationReady plan.artifacts :: log ++ rounds.flatten ++
        .roundStarted (plan.round records.length) plan.settings.maxRounds :: event :: rest) := by
  let result := (Tally.start plan.settings.filter plan.settings.cap).result
  let next := (plan.round records.length).complete result
  obtain ⟨baseline, later, hlist⟩ : ∃ baseline later, records ++ [next] = baseline :: later :=
    List.exists_cons_of_ne_nil (by simp)
  have hlength : later.length = records.length := by
    have h := congrArg List.length hlist
    simp only [List.length_append, List.length_cons, List.length_nil] at h
    omega
  have extended : List.Forall₂ plan.RoundWord (baseline :: later) (rounds ++
      [[.roundStarted next.round plan.settings.maxRounds, .roundFinished next result]]) := by
    rw [← hlist]
    exact List.rel_append hrounds (.cons (.finished .silent) .nil)
  have ordered : (baseline :: later).map (·.round) =
      (List.range (later.length + 1)).map plan.round := by
    rw [← hlist, hlength, List.range_succ, List.map_append, List.map_append, order]
    rfl
  have written : List.Forall₂ RunEvent.Tells plan.targets
      (plan.targets.map fun target => .artifactWritten target.1 target.2) := by
    rw [List.forall₂_map_right_iff, List.forall₂_same]
    exact fun target _ => .written
  have word := @Word.finished plan baseline later (plan.finish baseline later .completed) _ _ _
    many hlog ordered extended rfl rfl written
  simp only [List.flatten_append, List.flatten_singleton, List.append_assoc,
    List.cons_append] at word ⊢
  exact ⟨_, _, _, word⟩

theorem RunPlan.LogWord.not_end {word : List RunEvent} (h : plan.LogWord word) :
    ∀ event ∈ word, event.isEnd = false := by
  cases h <;> simp [RunEvent.isEnd]

theorem RunPlan.RoundWord.not_end {record : RoundRecord} {word : List RunEvent}
    (h : plan.RoundWord record word) : ∀ event ∈ word, event.isEnd = false := by
  cases h with
  | finished hlog => simpa [RunEvent.isEnd] using hlog.not_end

/-- No event up to the start of a round says how the rounds ended. -/
theorem RunPlan.begun_not_end {log : List RunEvent} (hlog : plan.LogWord log)
    {records : List RoundRecord} {rounds : List (List RunEvent)}
    (hrounds : List.Forall₂ plan.RoundWord records rounds) (round : Round) :
    ∀ event ∈ plan.hello :: .instrumentationReady plan.artifacts :: log ++ rounds.flatten ++
      [.roundStarted round plan.settings.maxRounds], event.isEnd = false := by
  have inRounds : ∀ event ∈ rounds.flatten, event.isEnd = false := by
    induction hrounds with
    | nil => exact List.forall_mem_nil _
    | cons first _ ih =>
      rw [List.flatten_cons, List.forall_mem_append]
      exact ⟨first.not_end, ih⟩
  simp only [List.forall_mem_append, List.forall_mem_cons]
  exact ⟨⟨⟨rfl, rfl, hlog.not_end⟩, inRounds⟩, rfl, List.forall_mem_nil _⟩

/-- A run that breaks off before or at the start of a round speaks the beginning of a word. -/
theorem RunPlan.speaks_of_prefix (many : plan.settings.maxRounds ≠ 0) {log : List RunEvent}
    (hlog : plan.LogWord log) {records : List RoundRecord} {rounds : List (List RunEvent)}
    (order : records.map (·.round) = (List.range records.length).map plan.round)
    (hrounds : List.Forall₂ plan.RoundWord records rounds) {events : List RunEvent}
    (hinitial : events <+: plan.hello :: .instrumentationReady plan.artifacts :: log ++
      rounds.flatten ++ [.roundStarted (plan.round records.length) plan.settings.maxRounds])
    (error : RunError) : plan.Speaks (.error error) events := by
  refine ⟨?_, fun event hevent => ?_⟩
  · obtain ⟨outcome, event, rest, word⟩ := exists_word many hlog order hrounds
    rw [List.append_cons] at word
    refine ⟨outcome, _, word, hinitial.trans (List.prefix_append _ _), fun heq => ?_⟩
    have hlength := hinitial.length_le
    rw [heq, @List.length_append _ _ (event :: rest), List.length_cons] at hlength
    omega
  · exact begun_not_end hlog hrounds _ event (hinitial.subset hevent)

/-! ## Words of runs -/

/-- A run that breaks off in a round has made known that it starts that round, or not even that. -/
theorem RunPlan.Broken.eventsOf {round : Round} {deeds : List Deed} {error : RunError}
    (h : plan.Broken round deeds error) :
    eventsOf deeds <+: [.roundStarted round plan.settings.maxRounds] := by
  cases h with
  | unplaced => exact List.nil_prefix
  | failed failure => exact List.prefix_rfl

theorem eventsOf_openingDeeds (opened : Except RunLogError Unit) :
    eventsOf (plan.openingDeeds opened) =
      .instrumentationReady plan.artifacts :: eventsOf (plan.logNews opened) := by
  simp [RunPlan.openingDeeds, RunPlan.instrumentDeeds]

theorem Diary.speaks {deeds : List Deed} {result : Except RunError Outcome}
    (h : Diary plan deeds result) : plan.Speaks result (eventsOf deeds) := by
  cases h with
  | @unperturbedFailed did error single failure =>
    let result := (Tally.start plan.settings.filter plan.settings.cap).result
    have word := @RunPlan.Word.unperturbed plan (plan.baseline.complete result) result single rfl
    refine ⟨⟨_, _, word, ?_, ?_⟩, ?_⟩ <;>
      simp [RunPlan.callDeeds, RunPlan.hello, RunEvent.isEnd, single]
  | @unperturbed did result single unfailing =>
    have word := @RunPlan.Word.unperturbed plan (plan.baseline.complete result) result single rfl
    simpa [RunPlan.callDeeds, RunPlan.Speaks, single] using word
  | noDirectory many =>
    exact @RunPlan.speaks_of_prefix plan many _ .silent [] [] rfl .nil _ (by simp) _
  | uninstrumented many =>
    exact @RunPlan.speaks_of_prefix plan many _ .silent [] [] rfl .nil _
      (by simp [RunPlan.instrumentDeeds]) _
  | @broken opened rounds deeds error many consecutive broken =>
    refine RunPlan.speaks_of_prefix many (eventsOf_logNews opened)
      (by simpa [List.range_eq_range'] using consecutive.records) (eventsOf_rounds rounds) ?_ _
    simp only [eventsOf_append, eventsOf_tell, eventsOf_openingDeeds, eventsOf_flatMap,
      List.length_map, List.cons_append, List.append_assoc, List.prefix_cons_inj,
      List.prefix_append_right_inj]
    exact broken.eventsOf
  | @finished opened baseline rounds status run writings many consecutive hrun tasks =>
    have word := @RunPlan.Word.finished plan _ _ run _ _ _ many (eventsOf_logNews opened)
      (by simpa [List.range_eq_range'] using consecutive.records)
      (eventsOf_rounds (baseline :: rounds)) (by rw [hrun]; rfl) (by rw [hrun]; rfl)
      (eventsOf_writings tasks)
    simpa [RunPlan.Speaks, FinishedRun.closingDeeds, eventsOf_openingDeeds, eventsOf_flatMap]
      using word

/-- The rounds that a run says it starts are those in which it calls its engine. -/
theorem Diary.started {deeds : List Deed} {result : Except RunError Outcome}
    (h : Diary plan deeds result) :
    (eventsOf deeds).filterMap RunEvent.started? =
      (deeds.filterMap Deed.turn?).map EngineTurn.round := by
  rw [List.map_filterMap]
  refine h.blocks.filterMap_eventsOf fun block hblock => ?_
  cases hblock with
  | openLog opened => cases opened <;> rfl
  | log id outcome => cases outcome <;> rfl
  | write writing => obtain ⟨_, _, _, _ | _⟩ := writing <;> rfl
  | _ => rfl

/-- The events of a run are a word of the grammar, with the outcome of the run and the rounds in
    which the engine was called; those of a run that ends with an error are a proper prefix of a
    word. -/
theorem run_events {σ : Type} (engine : Engine σ) (instrumentation : Instrumentation)
    (plan : RunPlan) (state : σ) (disk : Disk) :
    plan.Speaks (run engine instrumentation plan (.start plan state disk)).1
        (run engine instrumentation plan (.start plan state disk)).2.events ∧
      (run engine instrumentation plan (.start plan state disk)).2.events.filterMap
          RunEvent.started? =
        (run engine instrumentation plan (.start plan state disk)).2.turns.map
          EngineTurn.round := by
  obtain ⟨deeds, diary, did⟩ := run_diary engine instrumentation plan state disk
  rw [did.events, did.turns]
  exact ⟨diary.speaks, diary.started⟩

end

end Flaky
