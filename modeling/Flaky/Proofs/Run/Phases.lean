-- SUMMARY: The phases that a run goes through, the calls of the engine in each of them, and that the rounds come to an end by themselves.
import Flaky.Proofs.Run.Course
import Mathlib.Data.List.Chain
import Mathlib.Data.List.Range

/-!
# Phases of a run

A run visits its phases in order, from the start through the baseline and the
seeded rounds to an end. In the phase of a round the engine is called once. Only
when the directory of a round cannot be created does the run stop in the phase of
that round before its engine is called.
-/

namespace Flaky

/-! ## Visits -/

/-- A phase that a run has been in, with the calls of the engine meanwhile. -/
abbrev Visit := Phase × List EngineTurn

/-- The visits of some acts, beginning in a phase with some calls made. -/
def visitsFrom (phase : Phase) (turns : List EngineTurn) : List Act → List Visit
  | [] => [(phase, turns)]
  | .enter _ after :: acts => (phase, turns) :: visitsFrom after [] acts
  | .execute turn :: acts => visitsFrom phase (turns ++ [turn]) acts
  | .tell _ :: acts | .instrument _ :: acts => visitsFrom phase turns acts

/-- All visits of a session, in order. -/
def Session.visits {σ : Type} (s : Session σ) : List Visit := visitsFrom .init [] s.history

section

variable {phase : Phase} {turns : List EngineTurn} {acts : List Act}

@[simp] theorem visitsFrom_nil : visitsFrom phase turns [] = [(phase, turns)] := rfl

@[simp] theorem visitsFrom_enter {before after : Phase} :
    visitsFrom phase turns (.enter before after :: acts) =
      (phase, turns) :: visitsFrom after [] acts := rfl

@[simp] theorem visitsFrom_execute {turn : EngineTurn} :
    visitsFrom phase turns (.execute turn :: acts) =
      visitsFrom phase (turns ++ [turn]) acts := rfl

@[simp] theorem visitsFrom_instrument {directory : String} :
    visitsFrom phase turns (.instrument directory :: acts) = visitsFrom phase turns acts := rfl

/-- What is only made known is no part of a visit. -/
theorem visitsFrom_moves : visitsFrom phase turns (acts.filter Act.isMove) =
    visitsFrom phase turns acts := by
  induction acts generalizing phase turns with
  | nil => rfl
  | cons act acts ih =>
    cases act with
    | tell step => exact ih
    | enter before after => exact congrArg ((phase, turns) :: ·) ih
    | instrument directory => exact ih
    | execute turn => exact ih

/-- The visits tell the phases in order. -/
theorem visitsFrom_phases :
    (visitsFrom phase turns acts).map Prod.fst = phase :: acts.filterMap Act.entered? := by
  induction acts generalizing phase turns with
  | nil => rfl
  | cons act acts ih =>
    cases act with
    | tell step => exact ih
    | enter before after => exact congrArg (phase :: ·) ih
    | instrument directory => exact ih
    | execute turn => exact ih

/-- The visits tell the calls of the engine in order. -/
theorem visitsFrom_turns :
    (visitsFrom phase turns acts).flatMap Prod.snd = turns ++ turnsOf acts := by
  induction acts generalizing phase turns with
  | nil => simp
  | cons act acts ih =>
    cases act with
    | tell step => exact ih
    | enter before after => simp [ih]
    | instrument directory => simp [ih]
    | execute turn => simp [ih]

theorem visitsFrom_concat_enter {before after : Phase} :
    visitsFrom phase turns (acts ++ [.enter before after]) =
      visitsFrom phase turns acts ++ [(after, [])] := by
  induction acts generalizing phase turns with
  | nil => rfl
  | cons act acts ih =>
    cases act with
    | tell step => exact ih
    | enter before after => simp [ih]
    | instrument directory => simp [ih]
    | execute turn => simp [ih]

end

/-- Every call of the engine is part of a visit. -/
theorem Session.visits_turns {σ : Type} {s : Session σ} :
    s.visits.flatMap Prod.snd = s.turns := by
  rw [visits, visitsFrom_turns, List.nil_append, turns]

/-! ## The order of phases -/

/-- The phases of a run in order, but for its end. -/
def Phase.inOrder : Nat → Phase
  | 0 => .init
  | 1 => .baseline
  | index + 2 => .seeded index

theorem Phase.inOrder_canTransition (n : Nat) :
    (inOrder n).canTransition (inOrder (n + 1)) = true := by
  match n with
  | 0 => rfl
  | 1 => rfl
  | index + 2 => simp [inOrder, canTransition]

/-- The rounds of a run in order. -/
def RunPlan.round (plan : RunPlan) : Nat → Round
  | 0 => plan.baseline
  | index + 1 => plan.seeded index

/-- The visits to rounds from `n` on, with one call of the engine in each. -/
def RunPlan.stages (plan : RunPlan) (n : Nat) (dids : List EngineRun) : List Visit :=
  dids.mapIdx fun i did => (.inOrder (n + i + 1), [plan.turn (plan.round (n + i)) did])

/-- How rounds from `n` on can end that the engine executed, with what the run comes to. In the
    phase of a round that cannot have its directory the engine is not called. -/
inductive RunPlan.Ending (plan : RunPlan) :
    (n : Nat) → List EngineRun → Except RunError Phase → List Visit → Prop
  | unprepared {error : RunError} (noRound : ∀ id e, error ≠ .engine id e) :
    Ending plan 0 [] (.error error) []
  | unplaced {n : Nat} {dids : List EngineRun} {cause : IoError}
    (unfailing : ∀ did ∈ dids, did.failure = none) :
    Ending plan n dids
      (.error (.directory (plan.round (n + dids.length)).outputDirectory cause))
      [(.inOrder (n + dids.length + 1), [])]
  | failed {n : Nat} {dids : List EngineRun} {did : EngineRun} {error : EngineError}
    (unfailing : ∀ did ∈ dids, did.failure = none) (failure : did.failure = some error) :
    Ending plan n (dids ++ [did]) (.error (.engine (plan.round (n + dids.length)).id error)) []
  | ended {n : Nat} {dids : List EngineRun} {last : Phase}
    (unfailing : ∀ did ∈ dids, did.failure = none)
    (legal : (Phase.inOrder (n + dids.length)).canTransition last = true) :
    Ending plan n dids (.ok last) []

section

variable {plan : RunPlan} {n : Nat} {did : EngineRun} {dids : List EngineRun}
variable {result : Except RunError Phase} {ending : List Visit}

theorem RunPlan.stages_cons : plan.stages n (did :: dids) =
    (.inOrder (n + 1), [plan.turn (plan.round n) did]) :: plan.stages (n + 1) dids := by
  simp [stages, List.mapIdx_cons, Nat.add_assoc, Nat.add_comm 1]

theorem RunPlan.stages_phases :
    (plan.stages n dids).map Prod.fst = (List.range' (n + 1) dids.length).map .inOrder := by
  induction dids generalizing n with
  | nil => rfl
  | cons did dids ih =>
    rw [stages_cons, List.map_cons, ih, List.length_cons, List.range'_succ, List.map_cons]

/-- A round that the engine executed comes before the others. -/
theorem RunPlan.Ending.cons (failure : did.failure = none)
    (h : plan.Ending (n + 1) dids result ending) : plan.Ending n (did :: dids) result ending := by
  have shift : ∀ later : List EngineRun, n + 1 + later.length = n + (did :: later).length := by
    intro later
    rw [List.length_cons]
    omega
  cases h with
  | unplaced unfailing =>
    rw [shift]
    exact .unplaced (List.forall_mem_cons.mpr ⟨failure, unfailing⟩)
  | @failed _ dids last error unfailing hlast =>
    rw [shift, ← List.cons_append]
    exact .failed (List.forall_mem_cons.mpr ⟨failure, unfailing⟩) hlast
  | ended unfailing legal =>
    rw [shift] at legal
    exact .ended (List.forall_mem_cons.mpr ⟨failure, unfailing⟩) legal

theorem RunPlan.Ending.phases (h : plan.Ending n dids result ending) :
    ending.map Prod.fst = (List.range' (n + 1 + dids.length) ending.length).map .inOrder := by
  cases h with
  | unprepared noRound => rfl
  | unplaced unfailing => simp [Nat.add_right_comm]
  | failed unfailing failure => rfl
  | ended unfailing legal => rfl

/-- The phase in which a run ends that comes to an outcome. -/
def Outcome.phase : Outcome → Phase
  | .unperturbed _ => .done
  | .finished outcome => outcome.finished.status.phase

/-- The visit to the phase in which a run ends. -/
def lastVisit : Except RunError Phase → List Visit
  | .ok last => [(last, [])]
  | .error _ => []

/-- The visits of seeded rounds, the first of which is among those that there may be. -/
theorem SeededRun.visits {baseline : List Report} {before : Phase} {seeded : List (List Report)}
    {acts : List Act} {result : Except RunError (List RoundRecord × RunStatus)}
    (h : SeededRun plan baseline before seeded acts result)
    (hlt : seeded.length < plan.settings.maxRounds) (phase : Phase) (turns : List EngineTurn) :
    ∃ dids ending, visitsFrom phase turns acts =
        (phase, turns) :: (plan.stages (seeded.length + 1) dids ++ ending) ∧
      plan.Ending (seeded.length + 1) dids (result.map fun ended => ended.2.phase) ending ∧
      seeded.length + dids.length + ending.length ≤ plan.settings.maxRounds := by
  induction h generalizing phase turns with
  | unplaced => exact ⟨[], _, rfl, .unplaced (List.forall_mem_nil _), hlt⟩
  | failed failure => exact ⟨[_], [], rfl, .failed (List.forall_mem_nil _) failure, hlt⟩
  | @stopped _ seeded did status failure stop =>
    have legal : (Phase.inOrder (seeded.length + 1 + 1)).canTransition status.phase = true := by
      cases status <;> rfl
    exact ⟨[did], [], rfl, .ended (by simpa using failure) legal, hlt⟩
  | @later _ seeded did acts result failure stop rest ih =>
    obtain ⟨dids, ending, hvisits, hending, hle⟩ := ih (RunSettings.stop?_none_lt stop hlt)
      (.seeded seeded.length) [plan.turn (plan.seeded seeded.length) did]
    have hlength : (seeded ++ [did.reports]).length = seeded.length + 1 := by simp
    rw [hlength] at hvisits hending hle
    have hresult : (result.map fun ended =>
        ((plan.seeded seeded.length).shows (baseline :: seeded) did.reports :: ended.1,
          ended.2)).map (fun ended => ended.2.phase) = result.map fun ended => ended.2.phase := by
      cases result <;> rfl
    refine ⟨did :: dids, ending, ?_, ?_, ?_⟩
    · rw [RunPlan.stages_cons, visitsFrom_enter, visitsFrom_execute, List.nil_append, hvisits]
      rfl
    · rw [hresult]
      exact hending.cons failure
    · rw [List.length_cons]
      omega

/-- The visits of a run whose baseline is over. -/
theorem SeededRun.opening_visits {did : EngineRun} {acts : List Act}
    {rounds : Except RunError (List RoundRecord × RunStatus)}
    (h : SeededRun plan did.reports .baseline [] acts rounds) (failure : did.failure = none)
    (many : plan.settings.maxRounds ≠ 0) :
    ∃ dids ending, visitsFrom .init [] (plan.opening did ++ acts) =
        (.init, []) :: (plan.stages 0 dids ++ ending) ∧
      plan.Ending 0 dids (rounds.map fun ended => ended.2.phase) ending ∧
      dids.length + ending.length ≤ plan.settings.maxRounds + 1 := by
  obtain ⟨dids, ending, hvisits, hending, hle⟩ :=
    h.visits (Nat.pos_of_ne_zero many) .baseline [plan.turn plan.baseline did]
  refine ⟨did :: dids, ending, ?_, hending.cons failure, ?_⟩
  · rw [RunPlan.stages_cons]
    exact congrArg ((.init, []) :: ·) hvisits
  · simp only [List.length_nil, Nat.zero_add] at hle
    rw [List.length_cons]
    omega

/-- The visits of a run. -/
theorem Course.visits {acts : List Act} {result : Except RunError Outcome}
    (h : Course plan acts result) :
    ∃ dids ending, visitsFrom .init [] acts = (.init, []) :: (plan.stages 0 dids ++ ending) ++
        lastVisit (result.map Outcome.phase) ∧
      plan.Ending 0 dids (result.map Outcome.phase) ending ∧
      dids.length + ending.length ≤ plan.settings.maxRounds + 1 := by
  cases h with
  | unperturbedFailed single failure =>
    exact ⟨[_], [], rfl, .failed (List.forall_mem_nil _) failure, by simp⟩
  | unperturbed single failure =>
    exact ⟨[_], [], rfl, .ended (by simpa using failure) rfl, by simp⟩
  | noDirectory many => exact ⟨[], [], rfl, .unprepared (by simp), by simp⟩
  | uninstrumented many => exact ⟨[], [], rfl, .unprepared (by simp), by simp⟩
  | baselineUnplaced many => exact ⟨[], _, rfl, .unplaced (List.forall_mem_nil _), by simp⟩
  | baselineFailed many failure =>
    exact ⟨[_], [], rfl, .failed (List.forall_mem_nil _) failure, by simp⟩
  | broken many failure rounds =>
    obtain ⟨dids, ending, hvisits, hending, hle⟩ := rounds.opening_visits failure many
    exact ⟨dids, ending, by simpa [lastVisit, Except.map] using hvisits, hending, hle⟩
  | finished many failure rounds =>
    obtain ⟨dids, ending, hvisits, hending, hle⟩ := rounds.opening_visits failure many
    refine ⟨dids, ending, ?_, hending, hle⟩
    rw [visitsFrom_concat_enter, hvisits]
    rfl

/-- A run that comes to an outcome is in the phase that goes with it. -/
theorem Course.phaseAfter_ok {acts : List Act} {outcome : Outcome}
    (h : Course plan acts (.ok outcome)) : phaseAfter .init acts = outcome.phase := by
  cases h with
  | unperturbed single failure => rfl
  | finished many failure rounds =>
    rw [phaseAfter_append]
    rfl

/-! ## Transitions -/

/-- The phases up to the end of a run are in order. -/
theorem RunPlan.Ending.inOrder (h : plan.Ending 0 dids result ending) :
    ((.init, []) :: (plan.stages 0 dids ++ ending)).map Prod.fst =
      (List.range (dids.length + ending.length + 1)).map .inOrder := by
  rw [List.map_cons, List.map_append, stages_phases, h.phases, ← List.map_append,
    Nat.zero_add, List.range'_append_1, List.range_eq_range', List.range'_succ, List.map_cons]
  rfl

/-- Every phase may follow the one before it. -/
theorem RunPlan.Ending.legal (h : plan.Ending 0 dids result ending) :
    (((.init, []) :: (plan.stages 0 dids ++ ending) ++ lastVisit result).map Prod.fst).IsChain
      fun a b => a.canTransition b = true := by
  have ordered : ∀ n, ((List.range (n + 1)).map Phase.inOrder).IsChain
      fun a b => a.canTransition b = true := by
    intro n
    rw [List.isChain_map, List.isChain_range_succ]
    exact fun m _ => Phase.inOrder_canTransition m
  rw [List.map_append, h.inOrder]
  cases result with
  | error error => simpa [lastVisit] using ordered _
  | ok last =>
    cases h with
    | ended unfailing legal =>
      refine (ordered _).append (.singleton _) ?_
      intro before hbefore after hafter
      rw [List.range_succ, List.map_append, List.map_singleton, List.getLast?_concat] at hbefore
      obtain rfl := Option.some.inj hbefore
      obtain rfl := Option.some.inj hafter
      simpa using legal

end

/-! ## Whole runs -/

/-- The phases of a run that came to a result, with the calls of the engine in them, are as they
    ought to be. -/
structure RunPlan.Phased {σ : Type} (plan : RunPlan) (result : Except RunError Outcome)
    (s : Session σ) : Prop where
  legal : s.phases.IsChain fun a b => a.canTransition b = true
  visits : ∃ dids ending, s.visits = (.init, []) :: (plan.stages 0 dids ++ ending) ++
      lastVisit (result.map Outcome.phase) ∧
    plan.Ending 0 dids (result.map Outcome.phase) ending ∧
    dids.length + ending.length ≤ plan.settings.maxRounds + 1
  last : ∀ outcome, result = .ok outcome → s.phase = outcome.phase

section

variable {σ : Type}

theorem run_phased (engine : Engine σ) (instrumentation : Instrumentation) (plan : RunPlan)
    (state : σ) (disk : Disk) :
    plan.Phased (run engine instrumentation plan (.start plan state disk)).1
      (run engine instrumentation plan (.start plan state disk)).2 := by
  obtain ⟨acts, course, moved⟩ := run_course engine instrumentation plan state disk
  generalize run engine instrumentation plan (.start plan state disk) = ended at course moved ⊢
  obtain ⟨result, s⟩ := ended
  have hmoves : s.moves = acts := moved.moves
  have hvisits : s.visits = visitsFrom .init [] acts := by
    rw [Session.visits, ← visitsFrom_moves, ← hmoves]
    rfl
  have hphases : s.phases = (visitsFrom .init [] acts).map Prod.fst := by
    rw [Session.phases_eq, hmoves, visitsFrom_phases]
  obtain ⟨dids, ending, heq, hending, hle⟩ := course.visits
  refine ⟨?_, ⟨dids, ending, hvisits.trans heq, hending, hle⟩, ?_⟩
  · rw [hphases, heq]
    exact hending.legal
  · rintro outcome rfl
    exact moved.phase.trans course.phaseAfter_ok

/-- Executing a round is one call of the engine; only the engine works on the disk. -/
theorem executeRound_once (engine : Engine σ) (plan : RunPlan) (round : Round) (s : Session σ) :
    (executeRound engine plan round s).2.moves = s.moves ++
        [.execute (plan.turn round (engine ⟨round, plan.settings.filter⟩ s.engine s.disk).1)] ∧
      (executeRound engine plan round s).2.disk =
        (engine ⟨round, plan.settings.filter⟩ s.engine s.disk).2.2 := by
  rcases hcall : engine ⟨round, plan.settings.filter⟩ s.engine s.disk with ⟨did, state, disk⟩
  cases hfailure : did.failure with
  | none =>
    simp [executeRound, deliver, Session.emit, Session.note, Session.act, Session.moves, hcall,
      hfailure, RunPlan.turn, List.filter_cons, Act.isMove]
  | some error =>
    simp [executeRound, deliver, Session.emit, Session.note, Session.act, Session.moves, hcall,
      hfailure, RunPlan.turn, List.filter_cons, Act.isMove]

theorem runUnperturbed_once (engine : Engine σ) (plan : RunPlan) (s : Session σ) :
    (runUnperturbed engine plan s).2.turns = s.turns ++ [plan.turn plan.baseline
        (engine ⟨plan.baseline, plan.settings.filter⟩ s.engine s.disk).1] ∧
      (runUnperturbed engine plan s).2.disk =
        (engine ⟨plan.baseline, plan.settings.filter⟩ s.engine s.disk).2.2 ∧
      ∀ directory, .instrument directory ∈ (runUnperturbed engine plan s).2.history →
        .instrument directory ∈ s.history := by
  have hcalled : ∀ {s' : Session σ} {directory : String},
      .instrument directory ∈ s'.history ↔ .instrument directory ∈ s'.moves := by
    intro s' directory
    simp [Session.moves, Act.isMove]
  obtain ⟨hmoves, hdisk⟩ := executeRound_once engine plan plan.baseline (s.advance .baseline)
  rw [Session.moves_advance] at hmoves
  unfold runUnperturbed
  split
  case h_1 error s₁ hrun =>
    rw [hrun] at hmoves hdisk
    have hmoves : s₁.moves = _ := hmoves
    refine ⟨?_, hdisk, ?_⟩
    · simp only [Session.turns_eq, hmoves, turnsOf_append, turnsOf_enter, turnsOf_nil,
        List.append_nil]
      rfl
    · simp [hcalled, hmoves]
  case h_2 record result s₁ hrun =>
    rw [hrun] at hmoves hdisk
    have hmoves : s₁.moves = _ := hmoves
    refine ⟨?_, hdisk, ?_⟩
    · simp only [Session.turns_eq, Session.moves_advance, hmoves, turnsOf_append, turnsOf_enter,
        turnsOf_nil, List.append_nil]
      rfl
    · simp [hcalled, hmoves]

/-- The session of a run that has said that it starts. -/
def RunPlan.started (plan : RunPlan) (state : σ) (disk : Disk) : Session σ :=
  (Session.start plan state disk).emit
    (.runStarted plan.circumstances.runId plan.settings.maxRounds plan.settings.baseSeed)

/-- Without seeded rounds the instrumentation has no part in a run. -/
theorem run_single (engine : Engine σ) (instrumentation : Instrumentation) {plan : RunPlan}
    (state : σ) (disk : Disk) (single : plan.settings.maxRounds = 0) :
    run engine instrumentation plan (.start plan state disk) =
      runUnperturbed engine plan (plan.started state disk) := by
  unfold run
  split
  case h_1 => rfl
  case h_2 left many => exact absurd (single.symm.trans many) (Nat.zero_ne_add_one left)

/-- A run goes through its phases in order, and its engine is called once in the phase of each
    round, unless the run ends because that round cannot have its directory. Without seeded rounds
    that is all that happens. The seeded rounds end by themselves: without a bound on their number
    they end in the same way. -/
theorem run_phases (engine : Engine σ) (instrumentation : Instrumentation) (plan : RunPlan)
    (state : σ) (disk : Disk) :
    plan.Phased (run engine instrumentation plan (.start plan state disk)).1
      (run engine instrumentation plan (.start plan state disk)).2 ∧
    Engine.Calls engine (run engine instrumentation plan (.start plan state disk)).2.turns state
      (run engine instrumentation plan (.start plan state disk)).2.engine ∧
    (plan.settings.maxRounds = 0 →
      (run engine instrumentation plan (.start plan state disk)).2.turns = [plan.turn plan.baseline
        (engine ⟨plan.baseline, plan.settings.filter⟩ state disk).1] ∧
      (run engine instrumentation plan (.start plan state disk)).2.disk =
        (engine ⟨plan.baseline, plan.settings.filter⟩ state disk).2.2 ∧
      (∀ directory, .instrument directory ∉
        (run engine instrumentation plan (.start plan state disk)).2.history) ∧
      ∀ other, run engine other plan (.start plan state disk) =
        run engine instrumentation plan (.start plan state disk)) ∧
    ∀ left baseline s, left + 1 = plan.settings.maxRounds →
      runBaseline engine instrumentation plan (plan.started state disk) = (.ok baseline, s) →
      ∀ ended, RoundsEnd plan.settings.maxRounds (seededRound engine plan) 0 s ended ↔
        ended = seededRounds engine plan left s := by
  refine ⟨run_phased engine instrumentation plan state disk,
    run_calls engine instrumentation plan state disk, fun single => ?_, ?_⟩
  · have hrun := run_single engine instrumentation state disk single
    obtain ⟨hturns, hdisk, hinstrument⟩ := runUnperturbed_once engine plan (plan.started state disk)
    rw [← hrun] at hturns hdisk hinstrument
    refine ⟨hturns, hdisk, fun directory hmem => ?_, fun other => ?_⟩
    · have hmem := hinstrument directory hmem
      simp [RunPlan.started, Session.emit, Session.act, Session.start] at hmem
    · rw [hrun, run_single engine other state disk single]
  · intro left baseline s hleft hbaseline
    have many : plan.settings.maxRounds ≠ 0 := by omega
    have quiet : (Session.start plan state disk).Quiet (plan.started state disk) := .emit _ _
    have hrun := runBaseline_run engine instrumentation many quiet
    rw [hbaseline] at hrun
    cases hrun with
    | finished moved failure ready =>
      obtain ⟨acts, -, -, ends⟩ := seededRounds_run engine ready hleft
      exact fun ended => ends.iff_eq

end

/-- An instrumentation that leaves a file where the directories of the small run are to be. -/
def Instrumentation.obstructing : Instrumentation := fun directory disk =>
  ⟨.none, [], (disk.createDirectories directory).2.set ["s", "runs"] (.file [])⟩

/-- A run may end in the phase of a round in which its engine was never called. -/
theorem small_run_obstructed :
    (run .small .obstructing .small (.start .small () .blank)).2.phases = [.init, .baseline] ∧
      (run .small .obstructing .small (.start .small () .blank)).2.turns = [] := by
  refine ⟨by decide +kernel, List.isEmpty_iff.mp ?_⟩
  decide +kernel

end Flaky
