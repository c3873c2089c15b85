-- SUMMARY: What the log has of a run: every round is named when it starts and when it is finished, and there are warnings of an abort and of artifacts that failed, and no others.
import Flaky.Proofs.Run.Events
import Flaky.Run.EventLog

/-!
# The log of a run

A reader of the log sees entries and no events. The ids in them follow the calls of
the engine, whatever becomes of the run, and a warning is there only if the verdict
is open or an artifact is missing.
-/

namespace Flaky

/-! ## Rounds in the log -/

/-- The id that the entry names as that of a round. -/
def LogEntry.executionId? (entry : LogEntry) : Option String := entry.fields.lookup "execution_id"

/-- The ids of rounds in the entries of some events, in order. -/
def namedRounds (events : List RunEvent) : List String :=
  (events.map RunEvent.logEntry).filterMap LogEntry.executionId?

/-- How the log names the round of a turn: once when it starts, and again when it is finished, if
    the engine has not failed. -/
def EngineTurn.named (turn : EngineTurn) : List String :=
  turn.round.id.text :: if turn.did.failure.isNone then [turn.round.id.text] else []

/-- The log of some deeds names the rounds of their turns. -/
def NamesTurns (deeds : List Deed) : Prop :=
  namedRounds (eventsOf deeds) = (deeds.filterMap Deed.turn?).flatMap EngineTurn.named

section

variable {plan : RunPlan} {deeds more : List Deed}

theorem NamesTurns.append (h : NamesTurns deeds) (h' : NamesTurns more) :
    NamesTurns (deeds ++ more) := by
  unfold NamesTurns namedRounds at *
  rw [eventsOf_append, List.map_append, List.filterMap_append, List.filterMap_append,
    List.flatMap_append, h, h']

theorem NamesTurns.flatMap {α : Type} {deedsOf : α → List Deed} {items : List α}
    (h : ∀ item ∈ items, NamesTurns (deedsOf item)) : NamesTurns (items.flatMap deedsOf) := by
  induction items with
  | nil => rfl
  | cons item items ih =>
    rw [List.forall_mem_cons] at h
    exact h.1.append (ih h.2)

theorem NamesTurns.logNews (attempt : Except RunLogError Unit) :
    NamesTurns (plan.logNews attempt) := by
  cases attempt <;> rfl

theorem NamesTurns.openingDeeds (opened : Except RunLogError Unit) :
    NamesTurns (.tell plan.hello :: plan.openingDeeds opened) := by
  have begun : NamesTurns (.tell plan.hello :: plan.instrumentDeeds ++
      [.tell (.instrumentationReady plan.artifacts), .openLog opened]) := rfl
  have news : NamesTurns (plan.logNews opened) := .logNews opened
  exact begun.append news

theorem NamesTurns.callDeeds {round : Round} {did : EngineRun} {error : EngineError}
    (failure : did.failure = some error) : NamesTurns (plan.callDeeds round did) := by
  have named : EngineTurn.named (plan.turn round did) = [round.id.text] := by
    simp [EngineTurn.named, RunPlan.turn, failure, EngineTurn.round]
  exact (congrArg (· ++ []) named).symm

theorem NamesTurns.finishedCall {round : Round} {did : EngineRun} {result : RoundResult}
    (unfailing : did.failure = none) :
    NamesTurns (plan.callDeeds round did ++
      [.tell (.roundFinished (round.complete result) result)]) := by
  have named : EngineTurn.named (plan.turn round did) = [round.id.text, round.id.text] := by
    simp [EngineTurn.named, RunPlan.turn, unfailing, EngineTurn.round]
  exact (congrArg (· ++ []) named).symm

theorem NamesTurns.roundDeeds (finished : FinishedRound) :
    NamesTurns (plan.roundDeeds finished) := by
  have logs : NamesTurns (plan.logDeeds finished.round.id finished.logged) := by
    cases finished.logged with
    | none => rfl
    | some attempt =>
      have logged : NamesTurns [.log finished.round.id attempt] := rfl
      exact logged.append (.logNews attempt)
  have placed : NamesTurns [.createDirectory finished.round.outputDirectory (.ok ())] := rfl
  have called : NamesTurns (plan.callDeeds finished.round finished.did ++
      [.tell (.roundFinished finished.record finished.result)]) :=
    .finishedCall finished.unfailing
  exact (placed.append called).append logs

theorem NamesTurns.closingDeeds (run : FinishedRun) (writings : List Writing) :
    NamesTurns (run.closingDeeds writings) := by
  have ended : NamesTurns (run.status.word.map .tell) := by
    cases run.status <;> rfl
  have written : NamesTurns (writings.flatMap (·.deeds)) := by
    refine .flatMap fun writing _ => ?_
    obtain ⟨_, _, _, _ | _⟩ := writing <;> rfl
  exact (ended.append written).append rfl

/-- Whatever becomes of a run, its log names the rounds of its turns. -/
theorem Diary.namesTurns {result : Except RunError Outcome} (h : Diary plan deeds result) :
    NamesTurns deeds := by
  have hello : NamesTurns [.tell plan.hello] := rfl
  cases h with
  | unperturbedFailed single failure => exact hello.append (.callDeeds failure)
  | unperturbed single unfailing => exact hello.append (.finishedCall unfailing)
  | noDirectory many => rfl
  | uninstrumented many => rfl
  | @broken opened rounds deeds error many consecutive broken =>
    have breaks : NamesTurns deeds := by
      cases broken with
      | unplaced => rfl
      | @failed did error failure =>
        have placed : NamesTurns
          [.createDirectory (plan.round rounds.length).outputDirectory (.ok ())] := rfl
        exact placed.append (.callDeeds failure)
    exact (NamesTurns.openingDeeds opened).append
      ((NamesTurns.flatMap fun finished _ => .roundDeeds finished).append breaks)
  | @finished opened baseline rounds status run writings many consecutive hrun tasks =>
    exact (NamesTurns.openingDeeds opened).append
      ((NamesTurns.flatMap fun finished _ => .roundDeeds finished).append
        (.closingDeeds run writings))

end

/-! ## Warnings -/

/-- The event says that something went wrong. -/
def RunEvent.IsTrouble (event : RunEvent) : Prop :=
  (∃ reason, event = .runAborted reason) ∨
    ∃ artifact path error, event = .artifactFailed artifact path error

theorem RunEvent.logEntry_warn {event : RunEvent} :
    event.logEntry.level = .warn ↔ event.IsTrouble := by
  cases event <;> simp [RunEvent.logEntry, IsTrouble]

theorem RunPlan.Word.mem_runAborted {plan : RunPlan} {outcome : Outcome} {word : List RunEvent}
    (h : plan.Word outcome word) (reason : AbortReason) :
    .runAborted reason ∈ word ↔
      ∃ ended, outcome = .finished ended ∧ ended.undetermined? = some reason := by
  cases h with
  | unperturbed single hround => simp [RunPlan.hello]
  | @finished baseline records run log rounds artifacts many hlog order hrounds _ _ hartifacts =>
    have before : .runAborted reason ∉ plan.hello :: .instrumentationReady plan.artifacts :: log ++
        rounds.flatten := by
      intro hmem
      have still := RunPlan.begun_not_end hlog hrounds plan.baseline _
        (List.mem_append_left _ hmem)
      cases still
    have written : .runAborted reason ∉ artifacts := by
      intro hmem
      obtain ⟨target, tells⟩ : ∃ target, RunEvent.Tells target (.runAborted reason) := by
        obtain ⟨i, hi, hevent⟩ := List.mem_iff_getElem.mp hmem
        have hlength := hartifacts.length_eq
        exact ⟨plan.targets.get ⟨i, hlength ▸ hi⟩, hevent ▸ hartifacts.get (hlength ▸ hi) hi⟩
      cases tells
    have ended : .runAborted reason ∈ run.status.word ↔
        RunOutcome.undetermined? ⟨plan.directory, run⟩ = some reason := by
      cases hstatus : run.status <;>
        simp [RunOutcome.undetermined?, RunStatus.word, hstatus, eq_comm]
    have farewell : .runAborted reason ≠ run.farewell := by simp [FinishedRun.farewell]
    rw [List.mem_append, List.mem_append, List.mem_append, List.mem_singleton, ended]
    simp only [before, written, farewell, false_or, or_false, Outcome.finished.injEq,
      exists_eq_left']

/-! ## Whole runs -/

/-- The log of a run names the round of each turn when it starts, and again when it is finished
    unless the engine has failed. There is a warning exactly if the run was aborted or an artifact
    failed. -/
theorem run_log {σ : Type} (engine : Engine σ) (instrumentation : Instrumentation)
    (plan : RunPlan) (state : σ) (disk : Disk) :
    let ended := run engine instrumentation plan (.start plan state disk)
    namedRounds ended.2.events = ended.2.turns.flatMap EngineTurn.named ∧
      ((∃ entry ∈ ended.2.events.map RunEvent.logEntry, entry.level = .warn) ↔
        (∃ outcome reason, ended.1 = .ok (.finished outcome) ∧
          outcome.undetermined? = some reason) ∨
        ∃ artifact path error, .artifactFailed artifact path error ∈ ended.2.events) := by
  intro ended
  obtain ⟨deeds, diary, did⟩ := run_diary engine instrumentation plan state disk
  have hevents : ended.2.events = eventsOf deeds := did.events
  have hturns : ended.2.turns = deeds.filterMap Deed.turn? := did.turns
  have aborted : (∃ reason, .runAborted reason ∈ ended.2.events) ↔
      ∃ outcome reason, ended.1 = .ok (.finished outcome) ∧
        outcome.undetermined? = some reason := by
    have speaks : plan.Speaks ended.1 ended.2.events := hevents ▸ diary.speaks
    generalize ended.1 = result at speaks ⊢
    cases result with
    | error error =>
      have still : ∀ reason, .runAborted reason ∉ ended.2.events := fun reason hmem =>
        Bool.noConfusion (speaks.2 _ hmem)
      simp [still]
    | ok outcome =>
      simp only [RunPlan.Word.mem_runAborted speaks, Except.ok.injEq]
      exact exists_comm
  refine ⟨?_, ?_⟩
  · rw [hevents, hturns]
    exact diary.namesTurns
  · rw [← aborted]
    simp only [List.mem_map, exists_exists_and_eq_and, RunEvent.logEntry_warn]
    constructor
    · rintro ⟨event, hmem, ⟨reason, rfl⟩ | ⟨artifact, path, error, rfl⟩⟩
      · exact .inl ⟨reason, hmem⟩
      · exact .inr ⟨artifact, path, error, hmem⟩
    · rintro (⟨reason, hmem⟩ | ⟨artifact, path, error, hmem⟩)
      · exact ⟨_, hmem, .inl ⟨reason, rfl⟩⟩
      · exact ⟨_, hmem, .inr ⟨artifact, path, error, rfl⟩⟩

end Flaky
