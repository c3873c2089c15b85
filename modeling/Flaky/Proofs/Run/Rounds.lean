-- SUMMARY: What rounds can come to: one round, and the seeded rounds in a row, told by the turns of the engine alone.
import Flaky.Proofs.Run.History
import Flaky.Proofs.TallyHistory

/-!
# Rounds

`RoundRun` lists what one round can come to, and `SeededRun` what the seeded
rounds in a row can come to, with the moves that they make. Records and the end
of the rounds are told by the reports of the engine's turns, not by the tally;
`Session.Ready` ties the two together from round to round. The rounds count down
only to be seen to end: `RoundsEnd` has no such bound, and they end in the same
way.
-/

namespace Flaky

/-! ## One round -/

/-- A turn of the engine at a round. -/
def RunPlan.turn (plan : RunPlan) (round : Round) (did : EngineRun) : EngineTurn :=
  ⟨⟨round, plan.settings.filter⟩, did⟩

section

variable {σ : Type}

/-- What a round can come to, with the moves before its engine is called and what its reports
    give. -/
inductive RoundRun {α : Type} (engine : Engine σ) (plan : RunPlan) (round : Round)
    (before : List Act) (give : List Report → α) (s : Session σ) :
    Except RunError α → Session σ → Prop
  | unplaced {cause : IoError} {s' : Session σ} (moved : s.Moved engine before s') :
    RoundRun engine plan round before give s (.error (.directory round.outputDirectory cause)) s'
  | failed {did : EngineRun} {error : EngineError} {s' : Session σ}
    (moved : s.Moved engine (before ++ [.execute (plan.turn round did)]) s')
    (failure : did.failure = some error) :
    RoundRun engine plan round before give s (.error (.engine round.id error)) s'
  | finished {did : EngineRun} {s' : Session σ}
    (moved : s.Moved engine (before ++ [.execute (plan.turn round did)]) s')
    (failure : did.failure = none) (tally : s'.tally = (s.tally.addAll did.reports).freeze) :
    RoundRun engine plan round before give s (.ok (give did.reports)) s'

variable {α : Type} {engine : Engine σ} {plan : RunPlan} {round : Round} {acts : List Act}
variable {give : List Report → α} {s s₁ s₂ s' : Session σ}

/-- What happens quietly before a round and after it does not matter. -/
theorem RoundRun.quiet {result : Except RunError α} (before : s.Quiet s₁)
    (h : RoundRun engine plan round acts give s₁ result s₂) (after : s₂.Quiet s') :
    RoundRun engine plan round acts give s result s' := by
  cases h with
  | unplaced moved => exact .unplaced (moved.quiet before after)
  | failed moved failure => exact .failed (moved.quiet before after) failure
  | finished moved failure tally =>
    exact .finished (moved.quiet before after) failure
      (after.tally.trans (before.tally ▸ tally))

/-- A round may begin with entering its phase. -/
theorem RoundRun.enter {next : Phase} {result : Except RunError α}
    (h : RoundRun engine plan round [] give (s.advance next) result s') :
    RoundRun engine plan round [.enter s.phase next] give s result s' := by
  have entered := Session.Moved.advance engine s next
  cases h with
  | unplaced moved => exact .unplaced (entered.trans moved)
  | failed moved failure => exact .failed (entered.trans moved) failure
  | finished moved failure tally => exact .finished (entered.trans moved) failure tally

/-- Delivering a round is one call of the engine. -/
theorem deliver_moved (engine : Engine σ) (plan : RunPlan) (round : Round) (s : Session σ) :
    ∃ did, (deliver engine plan.settings.filter round s).1 = did.failure ∧
      s.Moved engine [.execute (plan.turn round did)]
        (deliver engine plan.settings.filter round s).2 ∧
      (deliver engine plan.settings.filter round s).2.tally = s.tally.addAll did.reports := by
  rcases hcall : engine ⟨round, plan.settings.filter⟩ s.engine s.disk with ⟨did, state, disk⟩
  refine ⟨did, by simp [deliver, hcall], ⟨?_, ?_, ?_⟩, by simp [deliver, hcall]⟩
  · simp [Session.moves, deliver, hcall, Session.note, Session.act, RunPlan.turn, Act.isMove,
      List.filter_cons]
  · simp [deliver, hcall, Session.note, Session.act, phaseAfter, Act.entered?]
  · have call : engine (plan.turn round did).selection s.engine s.disk =
        ((plan.turn round did).did, state, disk) := hcall
    simpa [deliver, hcall] using Engine.Calls.cons call .nil

/-- What a tally gives for a round once it has the reports. -/
def Tally.gives (tally : Tally) (round : Round) (reports : List Report) :
    RoundRecord × RoundResult :=
  (round.complete (tally.addAll reports).result, (tally.addAll reports).result)

/-- The record of a round is what its reports show. -/
theorem Tally.Holds.gives_shows {tally : Tally} {past : List (List Report)}
    (h : tally.Holds past []) (hopen : tally.frozen = none) (round : Round) :
    tally.gives round = fun reports =>
      (round.shows past reports, (tally.addAll reports).result) := by
  funext reports
  have hadded : (tally.addAll reports).frozen = none :=
    (addAll_takes hopen reports).frozen.trans hopen
  have hrecord := (h.addAll hopen reports).complete_snapshot round
  rw [gives, result_of_open hadded, hrecord, List.nil_append]

theorem executeRound_run (engine : Engine σ) (plan : RunPlan) (round : Round) (s : Session σ) :
    RoundRun engine plan round [] (s.tally.gives round) s (executeRound engine plan round s).1
      (executeRound engine plan round s).2 := by
  refine .quiet (.emit s (.roundStarted round plan.settings.maxRounds)) ?_ (.refl _)
  obtain ⟨did, hfailure, moved, htally⟩ :=
    deliver_moved engine plan round (s.emit (.roundStarted round plan.settings.maxRounds))
  simp only [executeRound]
  split
  case h_1 error s₁ hdeliver =>
    rw [hdeliver] at hfailure moved
    exact .failed moved hfailure.symm
  case h_2 s₁ hdeliver =>
    rw [hdeliver] at hfailure moved htally
    simp only at hfailure htally moved
    rw [htally]
    refine .finished ⟨?_, moved.phase, moved.calls⟩ hfailure.symm rfl
    simpa [Session.moves, Session.emit, Session.act, Act.isMove, List.filter_cons]
      using moved.moves

/-- Executing a round creates no directory. -/
theorem executeRound_placed (path : String) (cause : IoError) :
    (executeRound engine plan round s).1 ≠ .error (.directory path cause) := by
  simp only [executeRound]
  split <;> simp

theorem executeInDirectory_run (engine : Engine σ) (plan : RunPlan) (round : Round)
    (s : Session σ) :
    RoundRun engine plan round [] (s.tally.gives round) s
      (executeInDirectory engine plan round s).1 (executeInDirectory engine plan round s).2 := by
  unfold executeInDirectory
  split
  case h_1 cause disk _ => exact .unplaced ((Session.Quiet.disk s disk).moved engine)
  case h_2 disk _ =>
    exact .quiet (.disk s disk) (executeRound_run engine plan round { s with disk := disk })
      (.refl _)

/-- A round in its directory takes one of the courses of a round. -/
theorem runRound_run (engine : Engine σ) (plan : RunPlan) (round : Round) (s : Session σ) :
    RoundRun engine plan round [] (s.tally.gives round) s (runRound engine plan round s).1
      (runRound engine plan round s).2 := by
  have h := executeInDirectory_run engine plan round s
  unfold runRound
  split
  case h_1 error s₁ hrun =>
    rw [hrun] at h
    cases h with
    | unplaced moved => exact .unplaced moved
    | failed moved failure => exact .failed moved failure
  case h_2 done s₁ hrun =>
    rw [hrun] at h
    exact h.quiet (.refl s) (logRound_quiet plan round s₁)

end

/-! ## Rounds in a row -/

/-- How the rounds end after a seeded round, if they do, told by the reports of the seeded rounds
    before it and by its own. -/
def RunSettings.stop? (settings : RunSettings) (seeded : List (List Report))
    (reports : List Report) : Option RunStatus :=
  let tests := ruledOut settings.filter settings.cap seeded reports
  if tests ≠ [] then some (.aborted (.nonRetried tests))
  else if settings.simulateNonRetryable then some (.aborted .simulated)
  else if seeded.length + 1 = settings.maxRounds then some .completed
  else none

/-- What the seeded rounds can come to, after a baseline, the seeded rounds before them and in a
    phase. -/
inductive SeededRun (plan : RunPlan) (baseline : List Report) :
    Phase → List (List Report) → List Act → Except RunError (List RoundRecord × RunStatus) → Prop
  | unplaced {before : Phase} {seeded : List (List Report)} {cause : IoError} :
    SeededRun plan baseline before seeded [.enter before (.seeded seeded.length)]
      (.error (.directory (plan.seeded seeded.length).outputDirectory cause))
  | failed {before : Phase} {seeded : List (List Report)} {did : EngineRun} {error : EngineError}
    (failure : did.failure = some error) :
    SeededRun plan baseline before seeded
      [.enter before (.seeded seeded.length), .execute (plan.turn (plan.seeded seeded.length) did)]
      (.error (.engine (plan.seeded seeded.length).id error))
  | stopped {before : Phase} {seeded : List (List Report)} {did : EngineRun} {status : RunStatus}
    (failure : did.failure = none) (stop : plan.settings.stop? seeded did.reports = some status) :
    SeededRun plan baseline before seeded
      [.enter before (.seeded seeded.length), .execute (plan.turn (plan.seeded seeded.length) did)]
      (.ok ([(plan.seeded seeded.length).shows (baseline :: seeded) did.reports], status))
  | later {before : Phase} {seeded : List (List Report)} {did : EngineRun} {acts : List Act}
    {result : Except RunError (List RoundRecord × RunStatus)} (failure : did.failure = none)
    (stop : plan.settings.stop? seeded did.reports = none)
    (rest : SeededRun plan baseline (.seeded seeded.length) (seeded ++ [did.reports]) acts result) :
    SeededRun plan baseline before seeded
      (.enter before (.seeded seeded.length) ::
        .execute (plan.turn (plan.seeded seeded.length) did) :: acts)
      (result.map fun ended =>
        ((plan.seeded seeded.length).shows (baseline :: seeded) did.reports :: ended.1, ended.2))

/-- A session is ready for the next round: its tally holds the rounds that are over, and knows
    whether the next round is the last one. -/
structure Session.Ready {σ : Type} (s : Session σ) (plan : RunPlan) (past : List (List Report)) :
    Prop where
  holds : s.tally.Holds past []
  filter : s.tally.filter = plan.settings.filter
  cap : s.tally.cap = plan.settings.cap
  opened : s.tally.frozen = none
  lastRound : s.tally.lastRound = (past.length == plan.settings.maxRounds)

section

variable {σ : Type} {engine : Engine σ} {plan : RunPlan} {s s' : Session σ}
variable {past : List (List Report)}

theorem Session.Ready.start {state : σ} {disk : Disk} (hmax : plan.settings.maxRounds ≠ 0) :
    (Session.start plan state disk).Ready plan [] where
  holds := .start
  filter := rfl
  cap := rfl
  opened := rfl
  lastRound := by simpa [Session.start, Tally.start] using hmax.symm

theorem Session.Ready.tally (h : s.Ready plan past) (htally : s'.tally = s.tally) :
    s'.Ready plan past where
  holds := htally ▸ h.holds
  filter := htally ▸ h.filter
  cap := htally ▸ h.cap
  opened := htally ▸ h.opened
  lastRound := htally ▸ h.lastRound

namespace Session.Ready

variable {reports : List Report}

/-- The rounds end after the next one as its reports say. -/
theorem stopAfter? (h : s.Ready plan past) (hpast : past ≠ []) :
    stopAfter? plan.settings (s.tally.addAll reports).result =
      plan.settings.stop? past.tail reports := by
  have htakes := Tally.addAll_takes h.opened reports
  have hheld := h.holds.addAll h.opened reports
  have hreasons := hheld.snapshot_reasons hpast
  rw [htakes.filter, htakes.cap, h.filter, h.cap, List.nil_append] at hreasons
  have hflag : (s.tally.addAll reports).snapshot.lastRound =
      (past.length == plan.settings.maxRounds) := htakes.lastRound.trans h.lastRound
  have hlength : past.tail.length + 1 = past.length := by
    cases past with
    | nil => exact absurd rfl hpast
    | cons first rest => rfl
  rw [Tally.result_of_open (htakes.frozen.trans h.opened)]
  simp only [RunSettings.stop?, hlength]
  simp [Flaky.stopAfter?, Tally.snapshot_nonRetried_isEmpty, hreasons, hflag]

/-- After a round and a reset the session is ready for the one that follows. -/
theorem next (h : s.Ready plan past) {lastRound : Bool}
    (htally : s'.tally = (s.tally.addAll reports).freeze)
    (hlast : lastRound = (past.length + 1 == plan.settings.maxRounds)) :
    (s'.reset lastRound).Ready plan (past ++ [reports]) := by
  have htakes := Tally.addAll_takes h.opened reports
  have hheld := h.holds.addAll h.opened reports
  have hreset : (s'.reset lastRound).tally = (s.tally.addAll reports).freeze.reset lastRound := by
    rw [← htally]
    rfl
  refine ⟨?_, ?_, ?_, rfl, ?_⟩
  · rw [hreset]
    simpa using hheld.freeze.reset lastRound
  · rw [hreset]
    exact htakes.filter.trans h.filter
  · rw [hreset]
    exact htakes.cap.trans h.cap
  · rw [hreset, List.length_append]
    exact hlast

end Session.Ready

/-- The rounds end with the last round that there may be. -/
theorem RunSettings.stop?_last {settings : RunSettings} {seeded : List (List Report)}
    {reports : List Report} (hlast : seeded.length + 1 = settings.maxRounds) :
    settings.stop? seeded reports ≠ none := by
  simp only [stop?, hlast, if_true]
  split
  · simp
  · split <;> simp

/-- If the rounds go on after one of those that there may be, there may be another. -/
theorem RunSettings.stop?_none_lt {settings : RunSettings} {seeded : List (List Report)}
    {reports : List Report} (h : settings.stop? seeded reports = none)
    (hlt : seeded.length < settings.maxRounds) :
    (seeded ++ [reports]).length < settings.maxRounds := by
  have hne : seeded.length + 1 ≠ settings.maxRounds := fun hlast => stop?_last hlast h
  rw [List.length_append, List.length_singleton]
  omega

/-- Rounds from one on, done until they stop and without a bound on their number, end so. Rounds
    that never stop have no end. -/
inductive RoundsEnd (maxRounds : Nat)
    (roundAt : Nat → Session σ → Except RunError (RoundRecord × Option RunStatus) × Session σ) :
    Nat → Session σ → Except RunError (List RoundRecord × RunStatus) × Session σ → Prop
  | error {index : Nat} {s s' : Session σ} {error : RunError}
    (h : roundAt index s = (.error error, s')) :
    RoundsEnd maxRounds roundAt index s (.error error, s')
  | stop {index : Nat} {s s' : Session σ} {record : RoundRecord} {status : RunStatus}
    (h : roundAt index s = (.ok (record, some status), s')) :
    RoundsEnd maxRounds roundAt index s (.ok ([record], status), s')
  | next {index : Nat} {s s' : Session σ} {record : RoundRecord}
    {rest : Except RunError (List RoundRecord × RunStatus) × Session σ}
    (h : roundAt index s = (.ok (record, none), s'))
    (later : RoundsEnd maxRounds roundAt (index + 1) (s'.reset (index + 2 == maxRounds)) rest) :
    RoundsEnd maxRounds roundAt index s
      (rest.1.map fun ended => (record :: ended.1, ended.2), rest.2)

section

variable {maxRounds left index : Nat} {error : RunError} {record : RoundRecord}
variable {roundAt : Nat → Session σ → Except RunError (RoundRecord × Option RunStatus) × Session σ}

theorem roundsFrom_error (h : roundAt index s = (.error error, s')) :
    roundsFrom maxRounds roundAt left index s = (.error error, s') := by
  unfold roundsFrom
  rw [h]

theorem roundsFrom_stop {status : RunStatus}
    (h : roundAt index s = (.ok (record, some status), s')) :
    roundsFrom maxRounds roundAt left index s = (.ok ([record], status), s') := by
  unfold roundsFrom
  rw [h]

theorem roundsFrom_next (h : roundAt index s = (.ok (record, none), s')) :
    roundsFrom maxRounds roundAt (left + 1) index s =
      ((roundsFrom maxRounds roundAt left (index + 1)
          (s'.reset (index + 2 == maxRounds))).1.map fun ended => (record :: ended.1, ended.2),
        (roundsFrom maxRounds roundAt left (index + 1)
          (s'.reset (index + 2 == maxRounds))).2) := by
  conv_lhs => unfold roundsFrom
  rw [h]
  simp only
  split
  case h_1 error s₁ hrest => rw [hrest]; rfl
  case h_2 records status s₁ hrest => rw [hrest]; rfl

/-- Rounds have at most one end. -/
theorem RoundsEnd.unique {ended ended' : Except RunError (List RoundRecord × RunStatus) × Session σ}
    (h : RoundsEnd maxRounds roundAt index s ended)
    (h' : RoundsEnd maxRounds roundAt index s ended') : ended = ended' := by
  induction h generalizing ended' with
  | error h | stop h =>
    cases h' with
    | error h' | stop h' | next h' later => simpa using h.symm.trans h'
  | next h later ih =>
    cases h' with
    | error h' | stop h' => simpa using h.symm.trans h'
    | next h' later' =>
      obtain ⟨rfl, rfl⟩ : _ ∧ _ := by simpa using h.symm.trans h'
      rw [ih later']

theorem RoundsEnd.iff_eq {ended ended' : Except RunError (List RoundRecord × RunStatus) × Session σ}
    (h : RoundsEnd maxRounds roundAt index s ended) :
    RoundsEnd maxRounds roundAt index s ended' ↔ ended' = ended :=
  ⟨fun h' => h'.unique h, fun heq => heq ▸ h⟩

end

/-- What a seeded round shows, and whether the rounds stop after it. -/
def RunPlan.shows (plan : RunPlan) (baseline : List Report) (seeded : List (List Report))
    (reports : List Report) : RoundRecord × Option RunStatus :=
  ((plan.seeded seeded.length).shows (baseline :: seeded) reports,
    plan.settings.stop? seeded reports)

theorem seededRound_run (engine : Engine σ) {baseline : List Report} {seeded : List (List Report)}
    (h : s.Ready plan (baseline :: seeded)) :
    RoundRun engine plan (plan.seeded seeded.length) [.enter s.phase (.seeded seeded.length)]
      (plan.shows baseline seeded) s (seededRound engine plan seeded.length s).1
      (seededRound engine plan seeded.length s).2 := by
  have hready : (s.advance (.seeded seeded.length)).Ready plan (baseline :: seeded) := h.tally rfl
  have hround := (runRound_run engine plan (plan.seeded seeded.length)
    (s.advance (.seeded seeded.length))).enter
  rw [hready.holds.gives_shows hready.opened] at hround
  unfold seededRound
  split
  case h_1 error s₁ hrun =>
    rw [hrun] at hround
    cases hround with
    | unplaced moved => exact .unplaced moved
    | failed moved failure => exact .failed moved failure
  case h_2 record result s₁ hrun =>
    rw [hrun] at hround
    cases hround with
    | finished moved failure tally =>
      rw [hready.stopAfter? (List.cons_ne_nil baseline seeded)]
      exact .finished moved failure tally

/-- Seeded rounds in a row take one of their courses, and end so without a bound too. -/
theorem roundsFrom_run (engine : Engine σ) {baseline : List Report} {seeded : List (List Report)}
    (left : Nat) (h : s.Ready plan (baseline :: seeded))
    (hleft : seeded.length + left + 1 = plan.settings.maxRounds) :
    ∃ acts,
      SeededRun plan baseline s.phase seeded acts
        (roundsFrom plan.settings.maxRounds (seededRound engine plan) left seeded.length s).1 ∧
      s.Moved engine acts
        (roundsFrom plan.settings.maxRounds (seededRound engine plan) left seeded.length s).2 ∧
      RoundsEnd plan.settings.maxRounds (seededRound engine plan) seeded.length s
        (roundsFrom plan.settings.maxRounds (seededRound engine plan) left seeded.length s) := by
  induction left using Nat.strongRecOn generalizing s seeded with
  | ind left ih =>
    have hround := seededRound_run engine h
    rcases hrun : seededRound engine plan seeded.length s with ⟨result, s₁⟩
    rw [hrun] at hround
    cases hround with
    | unplaced moved =>
      rw [roundsFrom_error hrun]
      exact ⟨_, .unplaced, moved, .error hrun⟩
    | failed moved failure =>
      rw [roundsFrom_error hrun]
      exact ⟨_, .failed failure, moved, .error hrun⟩
    | @finished did _ moved failure tally =>
      cases hstop : plan.settings.stop? seeded did.reports with
      | some status =>
        rw [RunPlan.shows, hstop] at hrun
        rw [roundsFrom_stop hrun]
        exact ⟨_, .stopped failure hstop, moved, .stop hrun⟩
      | none =>
        rw [RunPlan.shows, hstop] at hrun
        cases left with
        | zero => exact absurd hstop (RunSettings.stop?_last hleft)
        | succ left =>
          have hnext : (s₁.reset (seeded.length + 2 == plan.settings.maxRounds)).Ready plan
              (baseline :: (seeded ++ [did.reports])) := h.next tally (by simp)
          have hlength : (seeded ++ [did.reports]).length = seeded.length + 1 := by simp
          have hphase : (s₁.reset (seeded.length + 2 == plan.settings.maxRounds)).phase =
              .seeded seeded.length := moved.phase
          obtain ⟨acts, rest, later, ends⟩ := ih left (by omega) hnext (by omega)
          rw [hlength] at rest later ends
          rw [hphase] at rest
          rw [roundsFrom_next hrun]
          generalize roundsFrom plan.settings.maxRounds (seededRound engine plan) left
            (seeded.length + 1) _ = last at rest later ends ⊢
          exact ⟨_, .later failure hstop rest, (moved.reset _).trans later, .next hrun ends⟩

theorem seededRounds_run (engine : Engine σ) {baseline : List Report} {left : Nat}
    (h : s.Ready plan [baseline]) (hleft : left + 1 = plan.settings.maxRounds) :
    ∃ acts, SeededRun plan baseline s.phase [] acts (seededRounds engine plan left s).1 ∧
      s.Moved engine acts (seededRounds engine plan left s).2 ∧
      RoundsEnd plan.settings.maxRounds (seededRound engine plan) 0 s
        (seededRounds engine plan left s) := by
  have hrun := roundsFrom_run engine left h (by simpa using hleft)
  exact hrun

end

/-! ## What the rounds were -/

/-- The rounds go on after each of these, after the seeded rounds before them, but the last; after
    it they end as `last` says. -/
def RunSettings.Ends (settings : RunSettings) (seeded later : List (List Report))
    (last : Option RunStatus) : Prop :=
  ∀ i reports, later[i]? = some reports →
    settings.stop? (seeded ++ later.take i) reports = if i + 1 = later.length then last else none

theorem RunSettings.Ends.cons {settings : RunSettings} {seeded later : List (List Report)}
    {reports : List Report} {last : Option RunStatus} (stop : settings.stop? seeded reports = none)
    (h : settings.Ends (seeded ++ [reports]) later last) (hlast : later = [] → last = none) :
    settings.Ends seeded (reports :: later) last := by
  intro i now hnow
  cases i with
  | zero =>
    obtain rfl : reports = now := by simpa using hnow
    cases later with
    | nil => simpa [hlast rfl] using stop
    | cons next later => simpa using stop
  | succ i =>
    have hrest := h i now (by simpa using hnow)
    simpa using hrest

/-- The turns of the engine at the seeded rounds from `index` on. -/
def RunPlan.seededTurns (plan : RunPlan) (index : Nat) (dids : List EngineRun) : List EngineTurn :=
  dids.mapIdx fun i did => plan.turn (plan.seeded (index + i)) did

/-- The records of seeded rounds, after a baseline and the seeded rounds before them. -/
def RunPlan.records (plan : RunPlan) (baseline : List Report) (seeded later : List (List Report)) :
    List RoundRecord :=
  later.mapIdx fun i reports =>
    (plan.seeded (seeded.length + i)).shows (baseline :: (seeded ++ later.take i)) reports

theorem RunPlan.seededTurns_cons {plan : RunPlan} {index : Nat} {did : EngineRun}
    {dids : List EngineRun} :
    plan.seededTurns index (did :: dids) =
      plan.turn (plan.seeded index) did :: plan.seededTurns (index + 1) dids := by
  simp [seededTurns, List.mapIdx_cons, Nat.add_assoc, Nat.add_comm 1]

theorem RunPlan.records_cons {plan : RunPlan} {baseline reports : List Report}
    {seeded later : List (List Report)} :
    plan.records baseline seeded (reports :: later) =
      (plan.seeded seeded.length).shows (baseline :: seeded) reports ::
        plan.records baseline (seeded ++ [reports]) later := by
  simp [records, List.mapIdx_cons, Nat.add_assoc, Nat.add_comm 1]

section

variable {plan : RunPlan} {baseline : List Report} {seeded : List (List Report)} {before : Phase}
variable {acts : List Act}

/-- The turns of the rounds that ended as they may, and their records. -/
theorem SeededRun.ended {records : List RoundRecord} {status : RunStatus}
    (h : SeededRun plan baseline before seeded acts (.ok (records, status))) :
    ∃ dids : List EngineRun, dids ≠ [] ∧
      turnsOf acts = plan.seededTurns seeded.length dids ∧
      records = plan.records baseline seeded (dids.map (·.reports)) ∧
      plan.settings.Ends seeded (dids.map (·.reports)) (some status) := by
  generalize hresult : Except.ok (records, status) = result at h
  induction h generalizing records with
  | unplaced => cases hresult
  | failed failure => cases hresult
  | @stopped _ seeded did _ failure stop =>
    obtain ⟨rfl, rfl⟩ : records = _ ∧ status = _ := Prod.mk.inj (Except.ok.inj hresult)
    refine ⟨[did], by simp, ?_, ?_, ?_⟩
    · simp [RunPlan.seededTurns]
    · simp [RunPlan.records]
    · intro i reports hreports
      obtain ⟨rfl, rfl⟩ : i = 0 ∧ did.reports = reports := by
        simpa [List.getElem?_singleton, ite_eq_iff] using hreports
      simpa using stop
  | @later _ seeded did acts result failure stop rest ih =>
    rcases result with _ | ⟨rest, status⟩
    · cases hresult
    obtain ⟨rfl, rfl⟩ := Prod.mk.inj (Except.ok.inj hresult)
    obtain ⟨dids, hdids, turns, hrecords, ends⟩ := ih rfl
    refine ⟨did :: dids, by simp, ?_, ?_, ?_⟩
    · simp [turns, RunPlan.seededTurns_cons]
    · rw [List.map_cons, RunPlan.records_cons, hrecords]
    · exact .cons stop ends (fun hnil => absurd (List.map_eq_nil_iff.mp hnil) hdids)

/-- The turns of the rounds that were cut short, but not by the engine. -/
theorem SeededRun.cut {error : RunError}
    (h : SeededRun plan baseline before seeded acts (.error error))
    (unfailing : ∀ turn ∈ turnsOf acts, turn.did.failure = none) :
    (∃ path cause, error = .directory path cause) ∧
      ∃ dids : List EngineRun, turnsOf acts = plan.seededTurns seeded.length dids ∧
        plan.settings.Ends seeded (dids.map (·.reports)) none := by
  generalize hresult : Except.error error = result at h
  induction h with
  | unplaced =>
    obtain rfl := Except.error.inj hresult
    refine ⟨⟨_, _, rfl⟩, [], by simp [RunPlan.seededTurns], ?_⟩
    intro i reports hreports
    simp at hreports
  | @failed _ _ did _ failure =>
    simp [RunPlan.turn, failure] at unfailing
  | stopped failure stop => cases hresult
  | @later _ seeded did acts result failure stop rest ih =>
    rcases result with error' | _
    case ok => cases hresult
    obtain rfl := Except.error.inj hresult
    rw [turnsOf_enter, turnsOf_execute, List.forall_mem_cons] at unfailing
    obtain ⟨herror, dids, turns, ends⟩ := ih unfailing.2 rfl
    refine ⟨herror, did :: dids, ?_, ?_⟩
    · simp [turns, RunPlan.seededTurns_cons]
    · exact .cons stop ends fun _ => rfl

end

end Flaky
