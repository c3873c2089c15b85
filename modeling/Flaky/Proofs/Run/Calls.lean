-- SUMMARY: How the tally of a run is called: the reports of each turn of the engine and the result after them, round by round.
import Flaky.Proofs.Run.Course
import Flaky.Proofs.TallyCalls

/-!
# The tally of a run

A run gives its tally the reports of a turn as the engine delivers them, takes the
result if the engine did not fail, and resets the tally before another round. So
the rounds of the calls are the turns, one for one; but a round that is not
placed, after a reset, has no turn.
-/

namespace Flaky

/-! ## Calls and turns -/

/-- What the tally is asked in a turn. -/
def EngineTurn.calls (turn : EngineTurn) : List TallyCall :=
  turn.reports.map .report ++ if turn.did.failure.isNone then [.result] else []

/-- The tally is called turn by turn; the last round may have no turn. -/
def TallyCall.ByTurns (calls : List TallyCall) (turns : List EngineTurn) : Prop :=
  rounds calls = turns.map (·.calls) ∨ rounds calls = turns.map (·.calls) ++ [[]]

section

variable {turn : EngineTurn} {turns : List EngineTurn} {calls : List TallyCall}

theorem EngineTurn.calls_isReset {call : TallyCall} (h : call ∈ turn.calls) :
    call.isReset = false := by
  rw [calls, List.mem_append] at h
  rcases h with h | h
  · obtain ⟨said, -, rfl⟩ := List.mem_map.mp h
    rfl
  · split at h
    · rw [List.mem_singleton.mp h]
      rfl
    · exact absurd h List.not_mem_nil

theorem EngineTurn.mem_reports {report : Report} (h : .report report ∈ turn.calls) :
    report ∈ turn.reports := by
  rw [calls, List.mem_append] at h
  rcases h with h | h
  · obtain ⟨said, hsaid, heq⟩ := List.mem_map.mp h
    rwa [← TallyCall.report.inj heq]
  · split at h
    · cases List.mem_singleton.mp h
    · exact absurd h List.not_mem_nil

namespace TallyCall.ByTurns

theorem nil : ByTurns [] [] := .inr rfl

theorem single : ByTurns turn.calls [turn] :=
  .inl (List.splitOnP_eq_singleton fun _ => turn.calls_isReset)

/-- A reset comes between a turn and those after it. -/
theorem cons {lastRound : Bool} (h : ByTurns calls turns) :
    ByTurns (turn.calls ++ .reset lastRound :: calls) (turn :: turns) := by
  have hrounds : rounds (turn.calls ++ .reset lastRound :: calls) = turn.calls :: rounds calls :=
    List.splitOnP_append_cons_of_forall_mem (fun _ => turn.calls_isReset) _ rfl calls
  rcases h with h | h
  · exact .inl (by rw [hrounds, h, List.map_cons])
  · exact .inr (by rw [hrounds, h, List.map_cons, List.cons_append])

end TallyCall.ByTurns

end

/-! ## Calls between sessions -/

section

variable {σ : Type}

/-- From `s` to `s'` the engine takes turns and the tally is called. -/
structure Session.Asked (s : Session σ) (calls : List TallyCall) (turns : List EngineTurn)
    (s' : Session σ) : Prop where
  tally : s'.tally = s.tally.callAll calls
  turns : s'.turns = s.turns ++ turns

namespace Session.Asked

variable {s s₁ s' : Session σ} {calls more : List TallyCall} {turns others : List EngineTurn}

theorem quiet (h : s.Quiet s') : s.Asked [] [] s' where
  tally := h.tally
  turns := by rw [turns_eq, turns_eq, h.moves, List.append_nil]

theorem advance (s : Session σ) (next : Phase) : s.Asked [] [] (s.advance next) where
  tally := rfl
  turns := turns_act

theorem reset (s : Session σ) (lastRound : Bool) :
    s.Asked [.reset lastRound] [] (s.reset lastRound) where
  tally := rfl
  turns := (List.append_nil _).symm

theorem trans (h : s.Asked calls turns s₁) (h' : s₁.Asked more others s') :
    s.Asked (calls ++ more) (turns ++ others) s' where
  tally := by rw [h'.tally, h.tally, Tally.callAll, Tally.callAll, Tally.callAll, List.foldl_append]
  turns := by rw [h'.turns, h.turns, List.append_assoc]

theorem before (h : s.Asked [] [] s₁) (h' : s₁.Asked calls turns s') : s.Asked calls turns s' :=
  h.trans h'

theorem after (h : s.Asked calls turns s₁) (h' : s₁.Asked [] [] s') : s.Asked calls turns s' := by
  simpa using h.trans h'

end Session.Asked

/-- From `s` to `s'` the engine takes turns, and the tally is called turn by turn. -/
def Session.TakesTurns (s : Session σ) (turns : List EngineTurn) (s' : Session σ) : Prop :=
  ∃ calls, TallyCall.ByTurns calls turns ∧ s.Asked calls turns s'

namespace Session.TakesTurns

variable {s s₁ s₂ s' : Session σ} {turn : EngineTurn} {turns : List EngineTurn}

theorem none (h : s.Asked [] [] s') : s.TakesTurns [] s' := ⟨[], .nil, h⟩

theorem single (h : s.Asked turn.calls [turn] s') : s.TakesTurns [turn] s' := ⟨_, .single, h⟩

/-- A turn, and others after a reset. -/
theorem next {lastRound : Bool} (h : s.Asked turn.calls [turn] s₁)
    (reset : s₂ = s₁.reset lastRound) (rest : s₂.TakesTurns turns s') :
    s.TakesTurns (turn :: turns) s' := by
  obtain ⟨calls, byTurns, asked⟩ := rest
  subst reset
  refine ⟨turn.calls ++ .reset lastRound :: calls, .cons byTurns, ?_⟩
  simpa using (h.trans (.reset s₁ lastRound)).trans asked

theorem before (h : s.Asked [] [] s₁) (h' : s₁.TakesTurns turns s') : s.TakesTurns turns s' :=
  h'.imp fun _ h' => ⟨h'.1, h.before h'.2⟩

theorem after (h : s.TakesTurns turns s₁) (h' : s₁.Asked [] [] s') : s.TakesTurns turns s' :=
  h.imp fun _ h => ⟨h.1, h.2.after h'⟩

end Session.TakesTurns

/-! ## Rounds -/

variable (engine : Engine σ) (plan : RunPlan) (round : Round) (s : Session σ)

theorem deliver_asked :
    ∃ did, (deliver engine plan.settings.filter round s).1 = did.failure ∧
      s.Asked (did.reports.map .report) [plan.turn round did]
        (deliver engine plan.settings.filter round s).2 := by
  obtain ⟨did, hfailure, moved, htally⟩ := deliver_moved engine plan round s
  refine ⟨did, hfailure, ?_, moved.turns⟩
  rw [htally, Tally.addAll, Tally.callAll, List.foldl_map]
  rfl

theorem executeRound_asked :
    ∃ did, s.Asked (plan.turn round did).calls [plan.turn round did]
      (executeRound engine plan round s).2 := by
  have started := Session.Asked.quiet (.emit s (.roundStarted round plan.settings.maxRounds))
  obtain ⟨did, hfailure, asked⟩ :=
    deliver_asked engine plan round (s.emit (.roundStarted round plan.settings.maxRounds))
  refine ⟨did, ?_⟩
  simp only [executeRound]
  split
  case h_1 error s₁ hdeliver =>
    rw [hdeliver] at hfailure asked
    simpa [EngineTurn.calls, EngineTurn.reports, RunPlan.turn, ← hfailure]
      using started.before asked
  case h_2 s₁ hdeliver =>
    rw [hdeliver] at hfailure asked
    have taken : s₁.Asked [.result] [] { s₁ with tally := s₁.tally.freeze } :=
      ⟨rfl, (List.append_nil _).symm⟩
    have frozen := ((started.before asked).trans taken).after
      (.quiet (.emit _ (.roundFinished (round.complete s₁.tally.result) s₁.tally.result)))
    simpa [EngineTurn.calls, EngineTurn.reports, RunPlan.turn, ← hfailure] using frozen

/-- A round is not placed, or the engine has its turn. -/
theorem runRound_asked :
    (∃ error, (runRound engine plan round s).1 = .error error ∧
      s.Asked [] [] (runRound engine plan round s).2) ∨
    ∃ did, s.Asked (plan.turn round did).calls [plan.turn round did]
      (runRound engine plan round s).2 := by
  unfold runRound executeInDirectory
  cases s.disk.createDirectories round.outputDirectory with
  | mk outcome disk =>
    cases outcome with
    | error cause => exact .inl ⟨_, rfl, .quiet (.disk s disk)⟩
    | ok _ =>
      obtain ⟨did, asked⟩ := executeRound_asked engine plan round { s with disk := disk }
      have placed := (Session.Asked.quiet (.disk s disk)).before asked
      refine .inr ⟨did, ?_⟩
      simp only
      split
      case h_1 error s₁ hrun => rwa [hrun] at placed
      case h_2 done s₁ hrun =>
        rw [hrun] at placed
        exact placed.after (.quiet (logRound_quiet plan round s₁))

theorem seededRound_asked (index : Nat) :
    (∃ error, (seededRound engine plan index s).1 = .error error ∧
      s.Asked [] [] (seededRound engine plan index s).2) ∨
    ∃ did, s.Asked (plan.turn (plan.seeded index) did).calls [plan.turn (plan.seeded index) did]
      (seededRound engine plan index s).2 := by
  have entered := Session.Asked.advance s (.seeded index)
  have ran := runRound_asked engine plan (plan.seeded index) (s.advance (.seeded index))
  unfold seededRound
  split
  case h_1 error s₁ hrun =>
    rw [hrun] at ran
    refine ran.imp ?_ ?_
    · rintro ⟨_, -, asked⟩
      exact ⟨error, rfl, entered.before asked⟩
    · rintro ⟨did, asked⟩
      exact ⟨did, entered.before asked⟩
  case h_2 record result s₁ hrun =>
    rw [hrun] at ran
    rcases ran with ⟨_, herror, -⟩ | ⟨did, asked⟩
    · cases herror
    · exact .inr ⟨did, entered.before asked⟩

/-! ## Rounds in a row -/

/-- Rounds end in the session after the first of them, or go on from there if it finished. -/
theorem roundsFrom_session (maxRounds left index : Nat)
    (roundAt : Nat → Session σ → Except RunError (RoundRecord × Option RunStatus) × Session σ)
    (s : Session σ) :
    (roundsFrom maxRounds roundAt left index s).2 = (roundAt index s).2 ∨
    ∃ later, left = later + 1 ∧ (∀ error, (roundAt index s).1 ≠ .error error) ∧
      (roundsFrom maxRounds roundAt left index s).2 =
        (roundsFrom maxRounds roundAt later (index + 1)
          ((roundAt index s).2.reset (index + 2 == maxRounds))).2 := by
  rcases hrun : roundAt index s with ⟨error | ⟨record, status | _⟩, s₁⟩
  · rw [roundsFrom_error hrun]
    exact .inl rfl
  · cases left with
    | zero =>
      unfold roundsFrom
      rw [hrun]
      exact .inl rfl
    | succ later =>
      rw [roundsFrom_next hrun]
      refine .inr ⟨later, rfl, ?_, rfl⟩
      rintro _ ⟨⟩
  · rw [roundsFrom_stop hrun]
    exact .inl rfl

theorem roundsFrom_takesTurns (left index : Nat) :
    ∃ dids, s.TakesTurns (plan.seededTurns index dids)
      (roundsFrom plan.settings.maxRounds (seededRound engine plan) left index s).2 := by
  induction left using Nat.strongRecOn generalizing index s with
  | ind left ih =>
    rcases roundsFrom_session plan.settings.maxRounds left index (seededRound engine plan) s with
      ended | ⟨later, rfl, hok, ended⟩
    · rw [ended]
      rcases seededRound_asked engine plan s index with ⟨_, -, asked⟩ | ⟨did, asked⟩
      · exact ⟨[], .none asked⟩
      · exact ⟨[did], .single asked⟩
    · rw [ended]
      rcases seededRound_asked engine plan s index with ⟨error, herror, -⟩ | ⟨did, asked⟩
      · exact absurd herror (hok error)
      · obtain ⟨dids, rest⟩ := ih later (Nat.lt_succ_self later)
          ((seededRound engine plan index s).2.reset (index + 2 == plan.settings.maxRounds))
          (index + 1)
        refine ⟨did :: dids, ?_⟩
        rw [RunPlan.seededTurns_cons]
        exact .next asked rfl rest

/-! ## Whole runs -/

theorem prepare_asked (instrumentation : Instrumentation) :
    s.Asked [] [] (prepare plan instrumentation s).2 := by
  unfold prepare
  split
  case h_1 cause disk _ => exact .quiet (.disk s disk)
  case h_2 disk _ =>
    have called : s.Asked [] [] { s.act (.instrument plan.artifacts) with
        disk := (instrumentation plan.artifacts disk).disk } := ⟨rfl, Session.turns_act⟩
    have noted := called.before (.quiet (.note _ (instrumentation plan.artifacts disk).notes))
    simp only
    split
    · exact noted
    · split
      · exact noted.before (.quiet (.emit _ _))
      · exact noted

theorem finishRun_asked (baseline : RoundRecord) (records : List RoundRecord)
    (status : RunStatus) : s.Asked [] [] (finishRun plan baseline records status s).2 := by
  have concluded : s.Asked [] [] (conclude status s) := by
    cases status with
    | completed => exact .advance s .done
    | aborted reason => exact (Session.Asked.advance s .aborted).before (.quiet (.emit _ _))
  exact concluded.before
    (.quiet (((Session.Quiet.note _ _).trans (writeReports_quiet ..)).trans (.emit _ _)))

/-- What the tally is asked up to the first seeded round. -/
inductive BaselineAsked (plan : RunPlan) (s : Session σ) :
    Except RunError RoundRecord → Session σ → Prop
  | unplaced {error : RunError} {s' : Session σ} (asked : s.Asked [] [] s') :
    BaselineAsked plan s (.error error) s'
  | failed {did : EngineRun} {error : RunError} {s' : Session σ}
    (asked : s.Asked (plan.turn plan.baseline did).calls [plan.turn plan.baseline did] s') :
    BaselineAsked plan s (.error error) s'
  | finished {did : EngineRun} {record : RoundRecord} {s₁ s' : Session σ} {lastRound : Bool}
    (asked : s.Asked (plan.turn plan.baseline did).calls [plan.turn plan.baseline did] s₁)
    (reset : s' = s₁.reset lastRound) : BaselineAsked plan s (.ok record) s'

theorem runBaseline_asked (instrumentation : Instrumentation) :
    BaselineAsked plan s (runBaseline engine instrumentation plan s).1
      (runBaseline engine instrumentation plan s).2 := by
  have prepared := prepare_asked plan s instrumentation
  unfold runBaseline
  split
  case h_1 error s₁ hprepare =>
    rw [hprepare] at prepared
    exact .unplaced prepared
  case h_2 s₁ hprepare =>
    rw [hprepare] at prepared
    have opened := (prepared.before (.quiet (openRunLog_quiet plan s₁))).before
      (.advance _ .baseline)
    have ran := runRound_asked engine plan plan.baseline ((openRunLog plan s₁).advance .baseline)
    split
    case h_1 error s₂ hrun =>
      rw [hrun] at ran
      rcases ran with ⟨_, -, asked⟩ | ⟨did, asked⟩
      · exact .unplaced (opened.before asked)
      · exact .failed (opened.before asked)
    case h_2 baseline result s₂ hrun =>
      rw [hrun] at ran
      rcases ran with ⟨_, herror, -⟩ | ⟨did, asked⟩
      · cases herror
      · exact .finished (opened.before asked) rfl

/-- The turns of a run are those of the baseline and of seeded rounds, or there is none. -/
def RunPlan.TurnsOf (plan : RunPlan) (turns : List EngineTurn) : Prop :=
  turns = [] ∨ ∃ did dids, turns = plan.turns did dids

theorem runPerturbed_takesTurns (instrumentation : Instrumentation) (left : Nat) :
    ∃ turns, plan.TurnsOf turns ∧
      s.TakesTurns turns (runPerturbed engine instrumentation plan left s).2 := by
  have baselineAsked := runBaseline_asked engine plan s instrumentation
  unfold runPerturbed
  generalize runBaseline engine instrumentation plan s = ended at baselineAsked ⊢
  obtain ⟨result, s₁⟩ := ended
  cases baselineAsked with
  | unplaced asked => exact ⟨[], .inl rfl, .none asked⟩
  | @failed did error _ asked => exact ⟨_, .inr ⟨did, [], rfl⟩, .single asked⟩
  | @finished did baseline s₀ _ lastRound asked reset =>
    obtain ⟨dids, rest⟩ := roundsFrom_takesTurns engine plan s₁ left 0
    refine ⟨plan.turns did dids, .inr ⟨did, dids, rfl⟩, .next asked reset ?_⟩
    simp only [seededRounds]
    generalize roundsFrom plan.settings.maxRounds (seededRound engine plan) left 0 s₁ = ended
      at rest ⊢
    obtain ⟨error | ⟨records, status⟩, s₂⟩ := ended
    · exact rest
    · exact rest.after (finishRun_asked plan s₂ baseline records status)

theorem runUnperturbed_takesTurns :
    ∃ turns, plan.TurnsOf turns ∧ s.TakesTurns turns (runUnperturbed engine plan s).2 := by
  obtain ⟨did, asked⟩ := executeRound_asked engine plan plan.baseline (s.advance .baseline)
  have entered := (Session.Asked.advance s .baseline).before asked
  refine ⟨_, .inr ⟨did, [], rfl⟩, .single ?_⟩
  unfold runUnperturbed
  split
  case h_1 error s₁ hrun => rwa [hrun] at entered
  case h_2 record result s₁ hrun =>
    rw [hrun] at entered
    exact entered.after (.advance s₁ .done)

/-- The tally of a run is called turn by turn, and its turns are those of the rounds in order. -/
theorem run_calls_tally (instrumentation : Instrumentation) (state : σ) (disk : Disk) :
    plan.TurnsOf (run engine instrumentation plan (.start plan state disk)).2.turns ∧
    ∃ calls, TallyCall.ByTurns calls
        (run engine instrumentation plan (.start plan state disk)).2.turns ∧
      (run engine instrumentation plan (.start plan state disk)).2.tally =
        Tally.after plan.settings.filter plan.settings.cap calls := by
  have started := Session.Asked.quiet (.emit (Session.start plan state disk)
    (.runStarted plan.circumstances.runId plan.settings.maxRounds plan.settings.baseSeed))
  have ran : ∃ turns, plan.TurnsOf turns ∧ (Session.start plan state disk).TakesTurns turns
      (run engine instrumentation plan (.start plan state disk)).2 := by
    simp only [run]
    generalize (Session.start plan state disk).emit _ = s at started ⊢
    split
    case h_1 single =>
      obtain ⟨turns, turnsOf, ran⟩ := runUnperturbed_takesTurns engine plan s
      exact ⟨turns, turnsOf, .before started ran⟩
    case h_2 left many =>
      obtain ⟨turns, turnsOf, ran⟩ := runPerturbed_takesTurns engine plan s instrumentation left
      exact ⟨turns, turnsOf, .before started ran⟩
  obtain ⟨turns, turnsOf, calls, byTurns, asked⟩ := ran
  have hturns : (run engine instrumentation plan (.start plan state disk)).2.turns = turns :=
    asked.turns
  rw [hturns]
  exact ⟨turnsOf, calls, byTurns, asked.tally⟩

end

end Flaky
