-- SUMMARY: Raising the limits of a plan only extends its run: the rounds that were executed stay as they were.
import Flaky.Proofs.Run.Abreast
import Flaky.Proofs.Run.StopPolicy
import Flaky.Proofs.Run.Verdict

/-!
# Higher limits

A run with more rounds allowed, or with a higher cap, first does what the run with
the lower limits does. The two are abreast until the lower limits end the rounds of
the first, and the records of the rounds up to there are the same, although the
tallies are not: each knows its own cap and its own last round.
-/

namespace Flaky

/-! ## The end of the rounds -/

section

variable {filter : Filter} {cap cap' : FailureCap} {seeded : List (List Report)}
variable {reports : List Report}

/-- A report that rules out a retry under a cap does so under every lower one. -/
theorem Report.Blocks.lower {failures : Nat} {report : Report} (hcap : cap ≤ cap')
    (h : report.Blocks filter cap' failures) : report.Blocks filter cap failures := by
  cases report with
  | passed test => exact h
  | skipped test => exact h
  | failed test kind message =>
    obtain ⟨max', rfl, hexceeded⟩ | hother := h
    · cases cap with
      | unlimited => exact hcap.elim
      | count max => exact .inl ⟨max, rfl, Nat.lt_of_le_of_lt hcap hexceeded⟩
    · exact .inr hother

theorem ruledOut_eq_nil :
    ruledOut filter cap seeded reports = [] ↔ ∀ report ∈ reports,
      ¬ report.Blocks filter cap (failureRounds (seeded ++ [reports]) report.test.id) := by
  have silent : ∀ id, (∀ reason, (id, reason) ∉ ruledOut filter cap seeded reports) ↔
      ∀ report ∈ reports, report.test.id = id →
        ¬ report.Blocks filter cap (failureRounds (seeded ++ [reports]) id) := by
    intro id
    simp only [mem_ruledOut, ← Option.eq_none_iff_forall_ne_some]
    rw [← Option.not_isSome_iff_eq_none, firstReason?_isSome]
    simp
  rw [List.eq_nil_iff_forall_not_mem, Prod.forall]
  simp only [silent]
  constructor
  · exact fun h report hmem => h _ report hmem rfl
  · rintro h _ report hmem rfl
    exact h report hmem

/-- What a cap does not rule out no higher cap rules out. -/
theorem ruledOut_nil_of_lower (hcap : cap ≤ cap') (h : ruledOut filter cap seeded reports = []) :
    ruledOut filter cap' seeded reports = [] := by
  rw [ruledOut_eq_nil] at h ⊢
  exact fun report hmem hblocks => h report hmem (hblocks.lower hcap)

theorem RunSettings.stop?_eq_none {settings : RunSettings} :
    settings.stop? seeded reports = none ↔
      ruledOut settings.filter settings.cap seeded reports = [] ∧
        settings.simulateNonRetryable = false ∧ seeded.length + 1 ≠ settings.maxRounds := by
  simp only [stop?]
  split
  case isTrue hruled => simp [hruled]
  case isFalse hruled =>
    split
    case isTrue hsimulate => simp [hsimulate]
    case isFalse hsimulate => simpa [hsimulate] using fun _ => not_not.mp hruled

theorem RunSettings.stop?_left {settings : RunSettings} {left : Nat}
    (hleft : seeded.length + left + 1 = settings.maxRounds)
    (hstop : settings.stop? seeded reports = none) : ∃ fewer, left = fewer + 1 := by
  refine Nat.exists_eq_succ_of_ne_zero fun hzero => ?_
  exact stop?_last (by omega) hstop

namespace RunSettings.Within

variable {settings settings' : RunSettings}

/-- Rounds that go on go on under higher limits too. -/
theorem stop?_none (h : settings.Within settings') (hlt : seeded.length < settings.maxRounds)
    (hstop : settings.stop? seeded reports = none) : settings'.stop? seeded reports = none := by
  have hmore := stop?_none_lt hstop hlt
  have hmax := h.maxRounds
  rw [List.length_append, List.length_singleton] at hmore
  rw [stop?_eq_none] at hstop ⊢
  obtain ⟨hruled, hsimulate, -⟩ := hstop
  exact ⟨ruledOut_nil_of_lower h.cap (h.filter ▸ hruled), h.simulate ▸ hsimulate, by omega⟩

/-- Rounds that are cut short are cut short in the same way if only more of them are allowed. -/
theorem stop?_aborted (h : settings.Within settings') (hcap : settings.cap = settings'.cap)
    {reason : AbortReason} (hstop : settings.stop? seeded reports = some (.aborted reason)) :
    settings'.stop? seeded reports = some (.aborted reason) := by
  simp only [stop?, ← h.filter, ← hcap, ← h.simulate] at hstop ⊢
  split at hstop
  case isTrue hruled => rw [if_pos hruled, hstop]
  case isFalse hruled =>
    rw [if_neg hruled]
    split at hstop
    case isTrue hsimulate => rw [if_pos hsimulate, hstop]
    case isFalse hsimulate => split at hstop <;> cases hstop

/-- Rounds stop together, or they go on under the higher limits only, or they go on. -/
theorem stop?_cases (h : settings.Within settings') (hlt : seeded.length < settings.maxRounds)
    (reports : List Report) :
    (∃ status status', settings.stop? seeded reports = some status ∧
      settings'.stop? seeded reports = some status' ∧
      (settings.cap = settings'.cap → ∀ reason, status = .aborted reason →
        status' = .aborted reason)) ∨
    (∃ status, settings.stop? seeded reports = some status ∧
      settings'.stop? seeded reports = none ∧
      (settings.cap = settings'.cap → status = .completed)) ∨
    (settings.stop? seeded reports = none ∧ settings'.stop? seeded reports = none) := by
  cases hstop : settings.stop? seeded reports with
  | none => exact .inr (.inr ⟨rfl, h.stop?_none hlt hstop⟩)
  | some status =>
    have haborted : settings.cap = settings'.cap → ∀ reason, status = .aborted reason →
        settings'.stop? seeded reports = some (.aborted reason) := by
      rintro hcap reason rfl
      exact h.stop?_aborted hcap hstop
    cases hstop' : settings'.stop? seeded reports with
    | some status' =>
      refine .inl ⟨status, status', rfl, rfl, fun hcap reason hreason => ?_⟩
      exact Option.some.inj (hstop'.symm.trans (haborted hcap reason hreason))
    | none =>
      refine .inr (.inl ⟨status, rfl, rfl, fun hcap => ?_⟩)
      cases status with
      | completed => rfl
      | aborted reason => exact absurd (haborted hcap reason rfl) (by simp [hstop'])

end RunSettings.Within

end

/-! ## Rounds in a row -/

/-- The error breaks off a round: its directory could not be created, or its engine failed. -/
inductive RunError.BreaksOff : RunError → Round → Prop
  | directory {round : Round} {cause : IoError} :
    BreaksOff (.directory round.outputDirectory cause) round
  | engine {round : Round} {error : EngineError} : BreaksOff (.engine round.id error) round

/-- What breaks off rounds in a row breaks off one of them. -/
theorem SeededRun.breaksOff {plan : RunPlan} {baseline : List Report} {before : Phase}
    {seeded : List (List Report)} {acts : List Act} {error : RunError}
    (h : SeededRun plan baseline before seeded acts (.error error)) :
    ∃ i, seeded.length ≤ i ∧ error.BreaksOff (plan.seeded i) := by
  generalize hresult : Except.error error = result at h
  induction h with
  | unplaced =>
    obtain rfl := Except.error.inj hresult
    exact ⟨_, le_rfl, .directory⟩
  | failed failure =>
    obtain rfl := Except.error.inj hresult
    exact ⟨_, le_rfl, .engine⟩
  | stopped failure stop => cases hresult
  | @later _ seeded did acts result failure stop rest ih =>
    rcases result with error' | _
    case ok => cases hresult
    obtain rfl := Except.error.inj hresult
    obtain ⟨i, hi, hbreaks⟩ := ih rfl
    rw [List.length_append] at hi
    exact ⟨i, by omega, hbreaks⟩

section

variable {σ : Type}

/-- How rounds in a row from one on end under two plans, of which the second has the higher limits:
    they fail alike, or they stop together, or the second goes on. -/
inductive Outlast (plan plan' : RunPlan) (index : Nat) :
    Except RunError (List RoundRecord × RunStatus) × Session σ →
      Except RunError (List RoundRecord × RunStatus) × Session σ → Prop
  | failed {error : RunError} {s s' : Session σ} (abreast : s.Abreast s') :
    Outlast plan plan' index (.error error, s) (.error error, s')
  | together {records : List RoundRecord} {status status' : RunStatus} {s s' : Session σ}
    (abreast : s.Abreast s')
    (alike : plan.settings.cap = plan'.settings.cap → ∀ reason, status = .aborted reason →
      status' = .aborted reason) :
    Outlast plan plan' index (.ok (records, status), s) (.ok (records, status'), s')
  | outlasted {records : List RoundRecord} {status : RunStatus}
    {result : Except RunError (List RoundRecord × RunStatus)} {s s' : Session σ}
    (turns : s.turns <+: s'.turns)
    (completed : plan.settings.cap = plan'.settings.cap → status = .completed)
    (broken : ∀ error, result = .error error →
      ∃ i, index + records.length ≤ i ∧ error.BreaksOff (plan'.seeded i)) :
    Outlast plan plan' index (.ok (records, status), s)
      (result.map fun ended => (records ++ ended.1, ended.2), s')

/-- One round before rounds in a row. -/
theorem Outlast.cons {plan plan' : RunPlan} {index : Nat}
    {ended ended' : Except RunError (List RoundRecord × RunStatus) × Session σ}
    (h : Outlast plan plan' (index + 1) ended ended') (record : RoundRecord) :
    Outlast plan plan' index
      (ended.1.map fun rest => (record :: rest.1, rest.2), ended.2)
      (ended'.1.map fun rest => (record :: rest.1, rest.2), ended'.2) := by
  cases h with
  | failed abreast => exact .failed abreast
  | together abreast alike => exact .together abreast alike
  | @outlasted records status result s s' turns completed broken =>
    have later : Outlast plan plan' index (.ok (record :: records, status), s)
        (result.map fun rest => (record :: records ++ rest.1, rest.2), s') := by
      refine .outlasted turns completed fun error herror => ?_
      obtain ⟨i, hi, hbreaks⟩ := broken error herror
      exact ⟨i, by rw [List.length_cons]; omega, hbreaks⟩
    cases result with
    | error error => exact later
    | ok rest => exact later

/-- Sessions that come out abreast made the same turns. -/
theorem Session.Abreast.turnsOf_eq {engine engine' : Engine σ} {acts acts' : List Act}
    {s s' t t' : Session σ} (h : s.Abreast s') (moved : s.Moved engine acts t)
    (moved' : s'.Moved engine' acts' t') (h' : t.Abreast t') : turnsOf acts = turnsOf acts' := by
  have hturns := h'.turns
  rw [moved.turns, moved'.turns, h.turns] at hturns
  exact List.append_cancel_left hturns

variable {plan plan' : RunPlan} {s s' : Session σ}

/-- A seeded round that starts abreast under two plans fails in both, or it ends in both with the
    same reports and the same record. -/
theorem seededRound_both (engine : Engine σ) (within : plan.Within plan') {baseline : List Report}
    {seeded : List (List Report)} (ready : s.Ready plan (baseline :: seeded))
    (ready' : s'.Ready plan' (baseline :: seeded)) (abreast : s.Abreast s') :
    (∃ error t t', seededRound engine plan seeded.length s = (.error error, t) ∧
      seededRound engine plan' seeded.length s' = (.error error, t') ∧ t.Abreast t') ∨
    ∃ record reports t t',
      seededRound engine plan seeded.length s =
        (.ok (record, plan.settings.stop? seeded reports), t) ∧
      seededRound engine plan' seeded.length s' =
        (.ok (record, plan'.settings.stop? seeded reports), t') ∧
      t.Abreast t' ∧ t.tally = (s.tally.addAll reports).freeze ∧
      t'.tally = (s'.tally.addAll reports).freeze := by
  have hround := seededRound_run engine ready
  have hround' := seededRound_run engine ready'
  have halike := seededRound_alike engine within abreast seeded.length
  unfold RunPlan.shows at hround hround'
  rw [← within.seeded] at hround'
  generalize seededRound engine plan seeded.length s = result at hround halike ⊢
  generalize seededRound engine plan' seeded.length s' = result' at hround' halike ⊢
  cases halike with
  | failed later => exact .inl ⟨_, _, _, rfl, rfl, later⟩
  | done later =>
    cases hround with
    | finished moved failure tally =>
      cases hround' with
      | finished moved' failure' tally' =>
        obtain ⟨-, rfl⟩ := by simpa [RunPlan.turn] using abreast.turnsOf_eq moved moved' later
        exact .inr ⟨_, _, _, _, rfl, rfl, later, tally, tally'⟩

/-- The second goes on after a round with which the first stops. -/
theorem Session.Ready.outlasted {baseline : List Report} {seeded : List (List Report)}
    {left' index : Nat} {record : RoundRecord} {status : RunStatus} (engine : Engine σ)
    (ready' : s'.Ready plan' (baseline :: seeded)) (turns : s.turns = s'.turns)
    (hleft' : seeded.length + left' + 1 = plan'.settings.maxRounds)
    (hindex : seeded.length = index + 1)
    (completed : plan.settings.cap = plan'.settings.cap → status = .completed) :
    Outlast plan plan' index (.ok ([record], status), s)
      ((roundsFrom plan'.settings.maxRounds (seededRound engine plan') left' seeded.length
          s').1.map fun rest => (record :: rest.1, rest.2),
        (roundsFrom plan'.settings.maxRounds (seededRound engine plan') left' seeded.length
          s').2) := by
  obtain ⟨acts, rest, moved, -⟩ := roundsFrom_run engine left' ready' hleft'
  generalize roundsFrom plan'.settings.maxRounds (seededRound engine plan') left' seeded.length s' =
    last at rest moved ⊢
  refine .outlasted ?_ completed fun error herror => ?_
  · rw [moved.turns, turns]
    exact List.prefix_append s'.turns (turnsOf acts)
  · rw [herror] at rest
    exact hindex ▸ rest.breaksOff

/-- Seeded rounds in a row that start abreast under two plans, of which the second has the higher
    limits. -/
theorem roundsFrom_outlast (engine : Engine σ) (within : plan.Within plan') {baseline : List Report}
    {seeded : List (List Report)} {left left' : Nat} (ready : s.Ready plan (baseline :: seeded))
    (ready' : s'.Ready plan' (baseline :: seeded)) (abreast : s.Abreast s')
    (hleft : seeded.length + left + 1 = plan.settings.maxRounds)
    (hleft' : seeded.length + left' + 1 = plan'.settings.maxRounds) :
    Outlast plan plan' seeded.length
      (roundsFrom plan.settings.maxRounds (seededRound engine plan) left seeded.length s)
      (roundsFrom plan'.settings.maxRounds (seededRound engine plan') left' seeded.length s') := by
  -- on the rounds that the lower limits leave: while they last the two stay abreast
  induction left using Nat.strongRecOn generalizing s s' seeded left' with
  | ind left ih =>
    obtain ⟨error, t, t', hrun, hrun', later⟩ |
      ⟨record, reports, t, t', hrun, hrun', later, tally, tally'⟩ :=
      seededRound_both engine within ready ready' abreast
    · rw [roundsFrom_error hrun, roundsFrom_error hrun']
      exact .failed later
    have hlength : (seeded ++ [reports]).length = seeded.length + 1 := by simp
    have next' : (t'.reset (seeded.length + 2 == plan'.settings.maxRounds)).Ready plan'
        (baseline :: (seeded ++ [reports])) := ready'.next tally' (by simp)
    have hlt : seeded.length < plan.settings.maxRounds := by omega
    obtain ⟨status, status', hstop, hstop', alike⟩ | ⟨status, hstop, hstop', completed⟩ |
      ⟨hstop, hstop'⟩ := within.settings.stop?_cases hlt reports
    · rw [hstop] at hrun
      rw [hstop'] at hrun'
      rw [roundsFrom_stop hrun, roundsFrom_stop hrun']
      exact .together later alike
    · obtain ⟨left', rfl⟩ := RunSettings.stop?_left hleft' hstop'
      rw [hstop] at hrun
      rw [hstop'] at hrun'
      rw [roundsFrom_stop hrun, roundsFrom_next hrun', ← hlength]
      exact next'.outlasted engine later.turns (by omega) hlength completed
    · obtain ⟨left, rfl⟩ := RunSettings.stop?_left hleft hstop
      obtain ⟨left', rfl⟩ := RunSettings.stop?_left hleft' hstop'
      rw [hstop] at hrun
      rw [hstop'] at hrun'
      rw [roundsFrom_next hrun, roundsFrom_next hrun']
      have next : (t.reset (seeded.length + 2 == plan.settings.maxRounds)).Ready plan
          (baseline :: (seeded ++ [reports])) := ready.next tally (by simp)
      have hrest : (seeded ++ [reports]).length + left + 1 = plan.settings.maxRounds := by omega
      have hrest' : (seeded ++ [reports]).length + left' + 1 = plan'.settings.maxRounds := by omega
      have rest := ih left (by omega) next next' (later.reset _ _) hrest hrest'
      rw [hlength] at rest
      exact rest.cons record

/-! ## Whole runs -/

/-- A baseline that starts abreast under two plans fails in both, or it ends in both with the same
    reports and the same record. -/
theorem runBaseline_both (engine : Engine σ) (within : plan.Within plan')
    (instrumentation : Instrumentation) {state : σ} {disk : Disk}
    (many : plan.settings.maxRounds ≠ 0)
    (started : (Session.start plan state disk).Quiet s)
    (started' : (Session.start plan' state disk).Quiet s') (abreast : s.Abreast s') :
    (∃ error t t', runBaseline engine instrumentation plan s = (.error error, t) ∧
      runBaseline engine instrumentation plan' s' = (.error error, t') ∧ t.Abreast t') ∨
    ∃ record reports t t', runBaseline engine instrumentation plan s = (.ok record, t) ∧
      runBaseline engine instrumentation plan' s' = (.ok record, t') ∧ t.Abreast t' ∧
      t.Ready plan [reports] ∧ t'.Ready plan' [reports] := by
  have many' : plan'.settings.maxRounds ≠ 0 := by
    have := within.settings.maxRounds
    omega
  have hbaseline := runBaseline_run engine instrumentation many started
  have hbaseline' := runBaseline_run engine instrumentation many' started'
  have halike := runBaseline_alike engine within instrumentation abreast
  generalize runBaseline engine instrumentation plan s = result at hbaseline halike ⊢
  generalize runBaseline engine instrumentation plan' s' = result' at hbaseline' halike ⊢
  cases halike with
  | failed later => exact .inl ⟨_, _, _, rfl, rfl, later⟩
  | done later =>
    cases hbaseline with
    | finished moved failure ready =>
      cases hbaseline' with
      | finished moved' failure' ready' =>
        obtain ⟨-, rfl⟩ := by
          simpa [RunPlan.opening, RunPlan.turn] using abreast.turnsOf_eq moved moved' later
        exact .inr ⟨_, _, _, _, rfl, within.baseline ▸ rfl, later, ready, ready'⟩

/-- What a run did and came to, and what one with higher limits did and came to. -/
structure Lengthened (plan plan' : RunPlan) (done done' : Except RunError Outcome × Session σ) :
    Prop where
  /-- The engine was called in the same way, and then perhaps again. -/
  turns : done.2.turns <+: done'.2.turns
  failed : ∀ error, done.1 = .error error →
    done'.1 = .error error ∧ done'.2.turns = done.2.turns
  unperturbed : ∀ record, done.1 = .ok (.unperturbed record) →
    done'.1 = .ok (.unperturbed record) ∧ done'.2.turns = done.2.turns
  /-- If the first came to its end, only a later round can break off the second. -/
  finished : ∀ outcome, done.1 = .ok (.finished outcome) →
    (∃ outcome', done'.1 = .ok (.finished outcome') ∧
      outcome'.finished.baseline = outcome.finished.baseline ∧
      outcome.finished.rounds <+: outcome'.finished.rounds ∧
      ∀ test ∈ outcome.finished.flaky, test ∈ outcome'.finished.flaky) ∨
    ∃ error i, done'.1 = .error error ∧ outcome.finished.rounds.length ≤ i ∧
      error.BreaksOff (plan'.seeded i)
  /-- More rounds alone do not change how the rounds are cut short. -/
  aborted : plan.settings.cap = plan'.settings.cap → ∀ outcome reason,
    done.1 = .ok (.finished outcome) → outcome.finished.status = .aborted reason →
      ∃ outcome', done'.1 = .ok (.finished outcome') ∧
        outcome'.finished.status = .aborted reason ∧
        outcome'.finished.rounds = outcome.finished.rounds ∧ done'.2.turns = done.2.turns

namespace Lengthened

theorem ofFailed {error : RunError} (abreast : s.Abreast s') :
    Lengthened plan plan' (.error error, s) (.error error, s') where
  turns := abreast.turns ▸ List.prefix_rfl
  failed _ h := ⟨h, abreast.turns.symm⟩
  unperturbed := by simp
  finished := by simp
  aborted := by simp

theorem ofUnperturbed {record : RoundRecord} (abreast : s.Abreast s') :
    Lengthened plan plan' (.ok (.unperturbed record), s) (.ok (.unperturbed record), s') where
  turns := abreast.turns ▸ List.prefix_rfl
  failed := by simp
  unperturbed _ h := ⟨h, abreast.turns.symm⟩
  finished := by simp
  aborted := by simp

variable {baseline : RoundRecord} {records records' : List RoundRecord} {status status' : RunStatus}

theorem ofFinished (turns : s.turns <+: s'.turns) (more : records <+: records')
    (alike : plan.settings.cap = plan'.settings.cap → ∀ reason, status = .aborted reason →
      status' = .aborted reason ∧ records' = records ∧ s'.turns = s.turns) :
    Lengthened plan plan'
      (.ok (.finished ⟨plan.directory, plan.finish baseline records status⟩), s)
      (.ok (.finished ⟨plan'.directory, plan'.finish baseline records' status'⟩), s') where
  turns := turns
  failed := by simp
  unperturbed := by simp
  finished := by
    rintro _ ⟨⟩
    have hrounds : subtractAll baseline records <+: subtractAll baseline records' := more.map _
    refine .inl ⟨_, rfl, rfl, hrounds, fun test htest => ?_⟩
    simp only [FinishedRun.flaky, mem_aggregateFailures] at htest ⊢
    obtain ⟨record, hrecord, hfailed⟩ := htest
    exact ⟨record, hrounds.subset hrecord, hfailed⟩
  aborted := by
    rintro hcap _ reason ⟨⟩ hreason
    obtain ⟨rfl, rfl, hturns⟩ := alike hcap reason hreason
    exact ⟨_, rfl, rfl, rfl, hturns⟩

theorem ofBroken {error : RunError} {i : Nat} (turns : s.turns <+: s'.turns)
    (completed : plan.settings.cap = plan'.settings.cap → status = .completed)
    (later : records.length ≤ i) (breaksOff : error.BreaksOff (plan'.seeded i)) :
    Lengthened plan plan'
      (.ok (.finished ⟨plan.directory, plan.finish baseline records status⟩), s)
      (.error error, s') where
  turns := turns
  failed := by simp
  unperturbed := by simp
  finished := by
    rintro _ ⟨⟩
    exact .inr ⟨error, i, rfl, by simpa [RunPlan.finish, subtractAll] using later, breaksOff⟩
  aborted := by
    rintro hcap _ reason ⟨⟩ hreason
    exact absurd (hreason.symm.trans (completed hcap)) (by simp)

end Lengthened

/-- Runs without a seeded round take no notice of the cap. -/
theorem runUnperturbed_lengthened (engine : Engine σ) (within : plan.Within plan') {state : σ}
    {disk : Disk}
    (single : plan.settings.maxRounds = 0) (single' : plan'.settings.maxRounds = 0)
    (started : (Session.start plan state disk).Quiet s)
    (started' : (Session.start plan' state disk).Quiet s') (abreast : s.Abreast s') :
    Lengthened plan plan' (runUnperturbed engine plan s) (runUnperturbed engine plan' s') := by
  obtain ⟨acts, course, moved⟩ := runUnperturbed_course engine single started
  obtain ⟨acts', course', moved'⟩ := runUnperturbed_course engine single' started'
  have halike := runUnperturbed_alike engine within abreast
  generalize runUnperturbed engine plan s = result at course moved halike ⊢
  generalize runUnperturbed engine plan' s' = result' at course' moved' halike ⊢
  cases halike with
  | failed later => exact .ofFailed later
  | done later =>
    cases course with
    | finished many _ _ => exact absurd single many
    | unperturbed _ failure =>
      cases course' with
      | finished many _ _ => exact absurd single' many
      | unperturbed _ failure' =>
        obtain ⟨-, rfl⟩ := by simpa [RunPlan.turn] using abreast.turnsOf_eq moved moved' later
        rw [within.baseline]
        exact .ofUnperturbed later

theorem runPerturbed_lengthened (engine : Engine σ) (within : plan.Within plan')
    (instrumentation : Instrumentation) {state : σ} {disk : Disk} {left left' : Nat}
    (hleft : plan.settings.maxRounds = left + 1)
    (hleft' : plan'.settings.maxRounds = left' + 1)
    (started : (Session.start plan state disk).Quiet s)
    (started' : (Session.start plan' state disk).Quiet s') (abreast : s.Abreast s') :
    Lengthened plan plan' (runPerturbed engine instrumentation plan left s)
      (runPerturbed engine instrumentation plan' left' s') := by
  unfold runPerturbed
  obtain ⟨error, t, t', hrun, hrun', later⟩ |
    ⟨baseline, reports, t, t', hrun, hrun', later, ready, ready'⟩ :=
    runBaseline_both engine within instrumentation (by omega) started started' abreast
  · rw [hrun, hrun']
    exact .ofFailed later
  · rw [hrun, hrun']
    have rounds : Outlast plan plan' 0 (seededRounds engine plan left t)
        (seededRounds engine plan' left' t') :=
      roundsFrom_outlast engine within ready ready' later (by simp [hleft]) (by simp [hleft'])
    simp only
    generalize seededRounds engine plan left t = ended at rounds ⊢
    generalize seededRounds engine plan' left' t' = ended' at rounds ⊢
    -- the end of a run adds no turn
    have ended_turns : ∀ (plan : RunPlan) records status (u : Session σ),
        (finishRun plan baseline records status u).2.turns = u.turns := by
      intro plan records status u
      simpa using (finishRun_moved engine plan baseline records status u).turns
    cases rounds with
    | failed abreast => exact .ofFailed abreast
    | @together records status status' u u' abreast alike =>
      have turns : (finishRun plan' baseline records status' u').2.turns =
          (finishRun plan baseline records status u).2.turns := by
        rw [ended_turns, ended_turns, abreast.turns]
      exact .ofFinished (turns ▸ List.prefix_rfl) List.prefix_rfl fun hcap reason hreason =>
        ⟨alike hcap reason hreason, rfl, turns⟩
    | @outlasted records status result u u' turns completed broken =>
      cases result with
      | error error =>
        obtain ⟨i, hi, hbreaks⟩ := broken error rfl
        refine .ofBroken ?_ completed (by simpa using hi) hbreaks
        rwa [ended_turns]
      | ok more =>
        refine .ofFinished ?_ (List.prefix_append records more.1) fun hcap reason hreason => ?_
        · rwa [ended_turns, ended_turns]
        · exact absurd (hreason.symm.trans (completed hcap)) (by simp)

/-- A run with higher limits first does what the run does. An engine is a function of what it is
    given, so what it does in a round depends on the rounds that it has been given so far, and on
    what it found on the disk. -/
theorem run_lengthened (engine : Engine σ) (instrumentation : Instrumentation)
    {plan plan' : RunPlan} (state : σ) (disk : Disk) (within : plan.Within plan')
    (many : 1 ≤ plan.settings.maxRounds ∨
      plan.settings.maxRounds = plan'.settings.maxRounds) :
    Lengthened plan plan' (run engine instrumentation plan (.start plan state disk))
      (run engine instrumentation plan' (.start plan' state disk)) := by
  have started := Session.Quiet.emit (Session.start plan state disk)
    (.runStarted plan.circumstances.runId plan.settings.maxRounds plan.settings.baseSeed)
  have started' := Session.Quiet.emit (Session.start plan' state disk)
    (.runStarted plan'.circumstances.runId plan'.settings.maxRounds plan'.settings.baseSeed)
  have abreast : (Session.start plan state disk).Abreast (Session.start plan' state disk) :=
    ⟨rfl, rfl, rfl, rfl⟩
  have hmax := within.settings.maxRounds
  unfold run
  split
  case h_1 single =>
    split
    case h_1 single' =>
      exact runUnperturbed_lengthened engine within single single' started started' (abreast.emit _ _)
    case h_2 left' hleft' => omega
  case h_2 left hleft =>
    split
    case h_1 single' => omega
    case h_2 left' hleft' =>
      exact runPerturbed_lengthened engine within instrumentation hleft hleft' started started'
        (abreast.emit _ _)

end

/-! ## A small run -/

/-- The small plan with one seeded round only. -/
def RunPlan.shorter : RunPlan :=
  { RunPlan.small with settings := { RunPlan.small.settings with maxRounds := 1 } }

theorem run_lengthened_small :
    ∃ outcome outcome',
      (run .small .none .shorter (.start .shorter () .blank)).1 = .ok (.finished outcome) ∧
      (run .small .none .small (.start .small () .blank)).1 = .ok (.finished outcome') ∧
      RunPlan.shorter.Within .small ∧ 1 ≤ RunPlan.shorter.settings.maxRounds ∧
      Lengthened .shorter .small (run .small .none .shorter (.start .shorter () .blank))
        (run .small .none .small (.start .small () .blank)) := by
  obtain ⟨outcome, h⟩ : ∃ outcome,
      (run .small .none .shorter (.start .shorter () .blank)).1 = .ok (.finished outcome) :=
    Outcome.exists_of_finished? (by decide +kernel)
  obtain ⟨outcome', h'⟩ := small_finishes
  have within : RunPlan.shorter.Within .small :=
    ⟨⟨rfl, rfl, rfl, rfl, by decide, trivial⟩, rfl, rfl, rfl⟩
  have many : 1 ≤ RunPlan.shorter.settings.maxRounds := by decide
  exact ⟨outcome, outcome', h, h', within, many,
    run_lengthened Engine.small .none () .blank within (.inl many)⟩

end Flaky
