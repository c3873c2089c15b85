-- SUMMARY: The history of a session: the moves, turns and phases in it, how an engine goes from turn to turn, and the quiet steps of a run.
import Flaky.Run

/-!
# Histories

The moves of a run are the phases that it enters and the calls that it makes of
the instrumentation and the engine. Most steps of a run only make something known
or work on the disk: they are quiet. The engine's states witness that the turns of
a history are its calls, all of them.
-/

namespace Flaky

namespace Act

/-- The act is more than something made known. -/
def isMove : Act → Bool
  | .tell _ => false
  | .enter _ _ | .instrument _ | .execute _ => true

def turn? : Act → Option EngineTurn
  | .execute turn => some turn
  | .tell _ | .enter _ _ | .instrument _ => none

/-- The phase that the act enters. -/
def entered? : Act → Option Phase
  | .enter _ after => some after
  | .tell _ | .instrument _ | .execute _ => none

end Act

/-- The calls of the engine among some acts. -/
def turnsOf (acts : List Act) : List EngineTurn := acts.filterMap Act.turn?

section

variable {acts more : List Act}

@[simp] theorem turnsOf_nil : turnsOf [] = [] := rfl

@[simp] theorem turnsOf_enter {before after : Phase} :
    turnsOf (.enter before after :: acts) = turnsOf acts := rfl

@[simp] theorem turnsOf_instrument {directory : String} :
    turnsOf (.instrument directory :: acts) = turnsOf acts := rfl

@[simp] theorem turnsOf_execute {turn : EngineTurn} :
    turnsOf (.execute turn :: acts) = turn :: turnsOf acts := rfl

@[simp] theorem turnsOf_append : turnsOf (acts ++ more) = turnsOf acts ++ turnsOf more :=
  List.filterMap_append

end

/-- The phase after some acts. -/
def phaseAfter (before : Phase) (acts : List Act) : Phase :=
  ((acts.filterMap Act.entered?).getLast?).getD before

theorem phaseAfter_append {before : Phase} {acts more : List Act} :
    phaseAfter before (acts ++ more) = phaseAfter (phaseAfter before acts) more := by
  simp only [phaseAfter, List.filterMap_append, List.getLast?_append]
  cases (more.filterMap Act.entered?).getLast? <;> rfl

namespace Session

variable {σ : Type} {s s' s'' : Session σ}

/-! ## Views -/

def moves (s : Session σ) : List Act := s.history.filter Act.isMove

/-- The calls of the engine, in order. -/
def turns (s : Session σ) : List EngineTurn := turnsOf s.history

/-- The phases that the run has been in, in order. -/
def phases (s : Session σ) : List Phase := .init :: s.history.filterMap Act.entered?

theorem turns_eq : s.turns = turnsOf s.moves := by
  rw [turns, turnsOf, turnsOf, moves, List.filterMap_filter]
  congr 1
  funext act
  cases act <;> rfl

theorem phases_eq : s.phases = .init :: s.moves.filterMap Act.entered? := by
  rw [phases, moves, List.filterMap_filter]
  congr 2
  funext act
  cases act <;> rfl

@[simp] theorem moves_act {act : Act} :
    (s.act act).moves = s.moves ++ if act.isMove then [act] else [] := by
  simp [moves, Session.act, List.filter_cons]

@[simp] theorem moves_note {entries : List LogEntry} : (s.note entries).moves = s.moves := by
  simp [moves, note, Act.isMove]

@[simp] theorem moves_advance {next : Phase} :
    (s.advance next).moves = s.moves ++ [.enter s.phase next] := by
  rw [show (s.advance next).moves = (s.act (.enter s.phase next)).moves from rfl]
  simp [Act.isMove]

theorem turns_act {act : Act} : (s.act act).turns = s.turns ++ turnsOf [act] := turnsOf_append

@[simp] theorem turns_emit {event : RunEvent} : (s.emit event).turns = s.turns := by
  simp [Session.emit, turns_act, turnsOf, Act.turn?]

@[simp] theorem turns_note {entries : List LogEntry} : (s.note entries).turns = s.turns := by
  simp [Session.note, turns, turnsOf, Act.turn?]

/-! ## Quiet steps -/

/-- The run makes no move, and the engine and the tally stay as they are. -/
structure Quiet (s s' : Session σ) : Prop where
  engine : s'.engine = s.engine
  tally : s'.tally = s.tally
  phase : s'.phase = s.phase
  moves : s'.moves = s.moves

namespace Quiet

theorem refl (s : Session σ) : s.Quiet s := ⟨rfl, rfl, rfl, rfl⟩

theorem trans (h : s.Quiet s') (h' : s'.Quiet s'') : s.Quiet s'' where
  engine := h'.engine.trans h.engine
  tally := h'.tally.trans h.tally
  phase := h'.phase.trans h.phase
  moves := h'.moves.trans h.moves

theorem disk (s : Session σ) (disk : Disk) : s.Quiet { s with disk := disk } :=
  ⟨rfl, rfl, rfl, rfl⟩

theorem log (s : Session σ) (disk : Disk) (log : RunLog) :
    s.Quiet { s with disk := disk, log := some log } :=
  ⟨rfl, rfl, rfl, rfl⟩

theorem emit (s : Session σ) (event : RunEvent) : s.Quiet (s.emit event) :=
  ⟨rfl, rfl, rfl, by simp [Session.emit, Act.isMove]⟩

theorem note (s : Session σ) (entries : List LogEntry) : s.Quiet (s.note entries) :=
  ⟨rfl, rfl, rfl, by simp⟩

end Quiet

end Session

/-! ## Calls of the engine -/

/-- The engine goes from one state to another by these calls, each on some disk, and no others. -/
inductive Engine.Calls {σ : Type} (engine : Engine σ) : List EngineTurn → σ → σ → Prop
  | nil {state : σ} : Calls engine [] state state
  | cons {turn : EngineTurn} {turns : List EngineTurn} {state state' last : σ} {disk disk' : Disk}
    (call : engine turn.selection state disk = (turn.did, state', disk'))
    (rest : Calls engine turns state' last) : Calls engine (turn :: turns) state last

theorem Engine.Calls.append {σ : Type} {engine : Engine σ} {turns more : List EngineTurn}
    {state state' last : σ} (h : Engine.Calls engine turns state state')
    (h' : Engine.Calls engine more state' last) :
    Engine.Calls engine (turns ++ more) state last := by
  induction h with
  | nil => exact h'
  | cons call _ ih => exact .cons call (ih h')

/-- What an engine does whenever it is called, it did in every turn. -/
theorem Engine.Calls.forall_turns {σ : Type} {engine : Engine σ} {turns : List EngineTurn}
    {state last : σ} (h : Engine.Calls engine turns state last) (Does : EngineRun → Prop)
    (always : ∀ selection state disk, Does (engine selection state disk).1) :
    ∀ turn ∈ turns, Does turn.did := by
  induction h with
  | nil => exact List.forall_mem_nil _
  | @cons turn turns state _ _ disk _ call _ ih =>
    have hturn := always turn.selection state disk
    rw [call] at hturn
    exact List.forall_mem_cons.mpr ⟨hturn, ih⟩

/-- Of an engine that never fails no turn failed. -/
theorem Engine.Calls.unfailing {σ : Type} {engine : Engine σ} {turns : List EngineTurn}
    {state last : σ} (h : Engine.Calls engine turns state last)
    (never : ∀ selection state disk, (engine selection state disk).1.failure = none) :
    ∀ turn ∈ turns, turn.did.failure = none :=
  h.forall_turns (·.failure = none) never

namespace Session

variable {σ : Type} {engine : Engine σ} {acts more : List Act} {s s₁ s₂ s' : Session σ}

/-- The run makes these moves, and the engine is called as they say. -/
structure Moved (engine : Engine σ) (acts : List Act) (s s' : Session σ) : Prop where
  moves : s'.moves = s.moves ++ acts
  phase : s'.phase = phaseAfter s.phase acts
  calls : Engine.Calls engine (turnsOf acts) s.engine s'.engine

theorem Moved.turns (h : Moved engine acts s s') : s'.turns = s.turns ++ turnsOf acts := by
  rw [turns_eq, h.moves, turnsOf_append, ← turns_eq]

theorem Quiet.moved (engine : Engine σ) (h : s.Quiet s') : Moved engine [] s s' where
  moves := by rw [h.moves, List.append_nil]
  phase := h.phase
  calls := h.engine ▸ .nil

theorem Moved.trans (h : Moved engine acts s s₁) (h' : Moved engine more s₁ s') :
    Moved engine (acts ++ more) s s' where
  moves := by rw [h'.moves, h.moves, List.append_assoc]
  phase := by rw [h'.phase, h.phase, phaseAfter_append]
  calls := by
    rw [turnsOf_append]
    exact h.calls.append h'.calls

/-- What happens quietly before some moves and after them does not matter. -/
theorem Moved.quiet (before : s.Quiet s₁) (h : Moved engine acts s₁ s₂) (after : s₂.Quiet s') :
    Moved engine acts s s' := by
  simpa using ((before.moved engine).trans h).trans (after.moved engine)

theorem Moved.reset (h : Moved engine acts s s') (lastRound : Bool) :
    Moved engine acts s (s'.reset lastRound) :=
  ⟨h.moves, h.phase, h.calls⟩

theorem Moved.advance (engine : Engine σ) (s : Session σ) (next : Phase) :
    Moved engine [.enter s.phase next] s (s.advance next) where
  moves := moves_advance
  phase := rfl
  calls := .nil

end Session

/-! ## Artifacts -/

section

open Session

variable {σ : Type}

theorem logRound_quiet (plan : RunPlan) (round : Round) (s : Session σ) :
    s.Quiet (logRound plan round s) := by
  unfold logRound
  split
  · exact .refl s
  · split
    · exact .log s _ _
    · exact (Quiet.log s _ _).trans (.emit _ _)

theorem openRunLog_quiet (plan : RunPlan) (s : Session σ) : s.Quiet (openRunLog plan s) := by
  unfold openRunLog
  split
  · exact .log s _ _
  · exact (Quiet.disk s _).trans (.emit _ _)

theorem writeArtifact_quiet (artifact : Artifact) (path : String)
    (write : Disk → Except ArtifactError Unit × Disk) (s : Session σ) :
    s.Quiet (writeArtifact artifact path write s) := by
  unfold writeArtifact
  split
  · exact (Quiet.disk s _).trans (.emit _ _)
  · exact (Quiet.disk s _).trans (.emit _ _)

theorem writeReports_quiet (directory : RunDirectory) (junitPath : Option String)
    (run : FinishedRun) (s : Session σ) : s.Quiet (writeReports directory junitPath run s) := by
  have written := (writeArtifact_quiet .report directory.report
    (writeReport directory.report (Markdown.text run)) s).trans
    (writeArtifact_quiet .summary directory.summary (writeSummary directory.summary
      (RunSummary.ofRun run).toJson.indentedText) _)
  cases junitPath with
  | none => exact written
  | some path => exact written.trans (writeArtifact_quiet .junit path _ _)

end

end Flaky
