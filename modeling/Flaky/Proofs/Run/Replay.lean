-- SUMMARY: Runs of prepared rounds: each turn delivers the round that is next, the engine remembers the selections of its turns, and its output directory is always there.
import Flaky.Engine.Replay
import Flaky.Proofs.Disk
import Flaky.Proofs.ExecutionId
import Flaky.Proofs.Run.Diary
import Flaky.Proofs.Run.Selected

/-!
# Runs of prepared rounds

A replaying engine keeps count of its calls, so the turns of a run deliver the
prepared rounds one after the other, whatever becomes of the run. What the engine
remembers shows what runs give to engines: the selections of the rounds, and a
directory for the output unless the tests are executed only once.
-/

namespace Flaky

/-! ## Turns -/

section

variable {respect : Bool} {rounds : List PreparedRound} {turns : List EngineTurn}
variable {calls last : List EngineCall}

/-- The turns deliver the prepared rounds from the next one on, and their selections are
    remembered. -/
theorem Engine.Calls.replay (h : Engine.Calls (Engine.replay respect rounds) turns calls last) :
    last.map (·.selection) = calls.map (·.selection) ++ turns.map (·.selection) ∧
      ∀ i turn, turns[i]? = some turn →
        turn.did = (rounds.getD (calls.length + i) .empty).play respect turn.selection := by
  induction h with
  | nil => simp
  | @cons turn turns calls calls' last disk disk' call rest ih =>
    obtain ⟨hdid, hcalls, -⟩ : _ ∧ _ ∧ _ := by simpa [Engine.replay] using call
    obtain ⟨selections, plays⟩ := ih
    subst hcalls
    refine ⟨by simp [selections], fun i turn' hturn => ?_⟩
    cases i with
    | zero =>
      obtain rfl := Option.some.inj hturn
      simpa using hdid.symm
    | succ i => simpa [Nat.add_assoc, Nat.add_comm 1] using plays i turn' hturn

theorem PreparedRound.mem_play {prepared : PreparedRound} {selection : Selection}
    {report : Report} (h : report ∈ (prepared.play true selection).reports) :
    selection.includes report.test = true := by
  have kept := (List.mem_filter.mp h).2
  rwa [Bool.not_true, Bool.false_or] at kept

end

/-! ## Output directories -/

theorem ExecutionId.isPlain_text (id : ExecutionId) : Disk.isPlain id.text = true := by
  have hslash : '/' ∉ id.chars := fun hmem =>
    absurd (id.chars_subset hmem) (by decide)
  have hlong : 36 ≤ id.text.toList.length := by
    rw [ExecutionId.text, String.toList_ofList, ExecutionId.chars_eq, List.length_append,
      Uuid.length_chars]
    omega
  have hne : ∀ name : String, name.toList.length < 36 → id.text ≠ name := by
    rintro name hshort rfl
    omega
  exact Disk.isPlain_iff.mpr ⟨hne _ (by decide), hne _ (by decide), hne _ (by decide),
    by rwa [ExecutionId.text, String.toList_ofList]⟩

theorem Round.names_outputDirectory (round : Round) :
    Disk.names round.outputDirectory ≠ [] := by
  rw [Round.outputDirectory, Disk.names_join round.id.isPlain_text]
  simp

/-- Every call was made with the output directory of its round there. -/
def EngineCall.Housed (calls : List EngineCall) : Prop := ∀ call ∈ calls, call.hadDirectory = true

section

variable {respect : Bool} {prepared : List PreparedRound} {instrumentation : Instrumentation}
variable {plan : RunPlan} {deeds : List Deed} {world world' last : World (List EngineCall)}

/-- Without a call the engine remembers nothing new. -/
theorem Deed.DoAll.engine {σ : Type} {engine : Engine σ} {world last : World σ}
    (h : Deed.DoAll engine instrumentation plan deeds world last)
    (idle : ∀ deed ∈ deeds, deed.turn? = none) : last.engine = world.engine := by
  induction h with
  | nil => rfl
  | cons first _ ih =>
    rw [List.forall_mem_cons] at idle
    rw [ih idle.2]
    cases first with
    | execute called => exact absurd idle.1 (Option.some_ne_none _)
    | tell | createDirectory | instrument | openLog | missLog | log | write => rfl

theorem Deed.DoAll.housed_call {round : Round} {did : EngineRun}
    (h : Deed.DoAll (Engine.replay respect prepared) instrumentation plan
      (.createDirectory round.outputDirectory (.ok ()) :: plan.callDeeds round did) world last)
    (housed : EngineCall.Housed world.engine) : EngineCall.Housed last.engine := by
  obtain ⟨_, creates, rest⟩ := h.uncons
  obtain ⟨_, tells, rest⟩ := rest.uncons
  obtain ⟨_, executes, rest⟩ := rest.uncons
  cases rest
  cases tells
  cases creates with
  | @createDirectory path outcome state disk disk' log created =>
    have there := Disk.createDirectories_isDirectory round.names_outputDirectory created
    cases executes with
    | @execute turn state state' disk disk' log called =>
      obtain rfl := (Prod.mk.inj (Prod.mk.inj called).2).1
      exact List.forall_mem_append.mpr ⟨housed, List.forall_mem_singleton.mpr there⟩

theorem Deed.DoAll.housed_rounds {rounds : List FinishedRound}
    (h : Deed.DoAll (Engine.replay respect prepared) instrumentation plan
      (rounds.flatMap plan.roundDeeds) world last)
    (housed : EngineCall.Housed world.engine) : EngineCall.Housed last.engine := by
  induction rounds generalizing world with
  | nil =>
    cases h
    exact housed
  | cons finished rounds ih =>
    rw [List.flatMap_cons] at h
    obtain ⟨_, inRound, rest⟩ := h.split
    obtain ⟨_, calls, ends⟩ := Deed.DoAll.split inRound
    refine ih rest ?_
    rw [ends.engine]
    · exact calls.housed_call housed
    · rcases hlogged : finished.logged with _ | _ | _ <;>
        simp [RunPlan.logDeeds, RunPlan.logNews, Deed.turn?]

theorem FinishedRun.closingDeeds_idle (run : FinishedRun) (writings : List Writing) :
    ∀ deed ∈ run.closingDeeds writings, deed.turn? = none := by
  intro deed hdeed
  simp only [closingDeeds, List.mem_append, List.mem_map, List.mem_flatMap,
    List.mem_singleton] at hdeed
  rcases hdeed with (⟨event, -, rfl⟩ | ⟨writing, -, hdeed⟩) | rfl
  · rfl
  · obtain rfl | rfl := List.mem_pair.mp hdeed <;> rfl
  · rfl

/-- In a run that may have seeded rounds every call is made with the output directory there. -/
theorem Diary.housed {result : Except RunError Outcome} (h : Diary plan deeds result)
    (many : plan.settings.maxRounds ≠ 0)
    (done : Deed.DoAll (Engine.replay respect prepared) instrumentation plan deeds world last)
    (housed : EngineCall.Housed world.engine) : EngineCall.Housed last.engine := by
  have opening : ∀ opened, ∀ deed ∈ Deed.tell plan.hello :: plan.openingDeeds opened,
      deed.turn? = none := by
    intro opened
    cases opened <;>
      simp [RunPlan.openingDeeds, RunPlan.instrumentDeeds, RunPlan.logNews, Deed.turn?]
  cases h with
  | unperturbedFailed single failure => exact absurd single many
  | unperturbed single unfailing => exact absurd single many
  | noDirectory _ =>
    rw [done.engine (by simp [Deed.turn?])]
    exact housed
  | uninstrumented _ =>
    rw [done.engine (by simp [RunPlan.instrumentDeeds, Deed.turn?])]
    exact housed
  | @broken opened rounds deeds error _ consecutive broken =>
    obtain ⟨middle, opens, rest⟩ := done.split
    obtain ⟨_, inRounds, breaks⟩ := rest.split
    have begun : EngineCall.Housed middle.engine := by
      rw [opens.engine (opening opened)]
      exact housed
    have ran := inRounds.housed_rounds begun
    cases broken with
    | unplaced =>
      rw [breaks.engine (by simp [Deed.turn?])]
      exact ran
    | failed failure => exact breaks.housed_call ran
  | @finished opened baseline rounds status run writings _ consecutive hrun tasks =>
    obtain ⟨middle, opens, rest⟩ := done.split
    obtain ⟨_, inRounds, closes⟩ := rest.split
    have begun : EngineCall.Housed middle.engine := by
      rw [opens.engine (opening opened)]
      exact housed
    rw [closes.engine (run.closingDeeds_idle writings)]
    exact inRounds.housed_rounds begun

end

/-! ## Whole runs -/

/-- A run of prepared rounds takes them in turn, until it is over; its engine remembers what it was
    called with. Every call found the output directory of its round, if there may be seeded rounds.
    If the engine is to respect the selection, its turns are faithful. -/
theorem run_replay (respect : Bool) (rounds : List PreparedRound)
    (instrumentation : Instrumentation) (plan : RunPlan) (disk : Disk) :
    let s := (run (Engine.replay respect rounds) instrumentation plan (.start plan [] disk)).2
    s.engine.map (·.selection) = s.turns.map (·.selection) ∧
      (∀ i turn, s.turns[i]? = some turn →
        turn.did = (rounds.getD i .empty).play respect turn.selection) ∧
      (plan.settings.maxRounds ≠ 0 → EngineCall.Housed s.engine) ∧
      (respect = true → ∀ turn ∈ s.turns, turn.Faithful) := by
  intro s
  have calls := run_calls (Engine.replay respect rounds) instrumentation plan [] disk
  obtain ⟨selections, plays⟩ := calls.replay
  have plays : ∀ i turn, s.turns[i]? = some turn →
      turn.did = (rounds.getD i .empty).play respect turn.selection := by
    simpa using plays
  refine ⟨selections, plays, fun many => ?_, ?_⟩
  · obtain ⟨deeds, diary, did⟩ :=
      run_diary (Engine.replay respect rounds) instrumentation plan [] disk
    exact diary.housed many did.works (List.forall_mem_nil _)
  · rintro rfl turn hturn report hreport
    obtain ⟨i, hi⟩ := List.mem_iff_getElem?.mp hturn
    rw [EngineTurn.reports, plays i turn hi] at hreport
    exact PreparedRound.mem_play hreport

end Flaky
