-- SUMMARY: Scripts keep what was printed: laws of expansions, calls and each form of script, for every depth; so the output of a script begins with that of its first commands.
import Flaky.Proofs.Shell.Output

/-!
# Scripts and their output

The laws of scripts assume that the shell one level below keeps what was printed,
and show that the shell itself does. With no level left it is killed, which prints
nothing, so the shell keeps what was printed at every depth.
-/

namespace Flaky.Shell

open Act

/-! ## Files, utilities and processes -/

theorem keeps_openSink (keep : Bool) (path : String) : (openSink keep path).Keeps := by
  refine .get fun m => ?_
  have refused := fun text =>
    ((keeps_refuse text 2).bind fun _ => .pure (none : Option Sink)).everywhere m
  dsimp only
  split
  · exact KeepsAt.bind (.set (.of_eq rfl rfl)) fun _ => .pure _
  · exact refused _
  · exact refused _

theorem keeps_setSink (descriptor : Nat) (sink : Sink) : (setSink descriptor sink).Keeps := by
  refine .modify fun m => ?_
  split <;> exact .of_eq rfl rfl

theorem keeps_openInput (path : String) : (openInput path).Keeps := by
  refine .get fun m => ?_
  dsimp only
  split
  · exact KeepsAt.bind (.set (.of_eq rfl rfl)) fun _ => .pure _
  · exact ((keeps_refuse _ 2).bind fun _ => .pure _).everywhere m

theorem keeps_duplicate (descriptor : Nat) (target : String) :
    (duplicate descriptor target).Keeps := by
  refine .modify fun m => ?_
  dsimp only
  split <;> exact .of_eq rfl rfl

theorem keeps_asProcess {act : Act Unit} (h : act.Keeps) : (asProcess act).Keeps := by
  refine ⟨fun m => ?_⟩
  unfold KeepsAt leaves asProcess
  dsimp only
  generalize hact : act _ = result
  cases result with
  | ok _ after => exact ⟨(h.ok hact).captured, (h.ok hact).complaints⟩
  | error flow after =>
    have printed := h.error hact
    cases flow <;> exact ⟨printed.captured, printed.complaints⟩

theorem keeps_useUtility (own : Bool) (utility : Utility) (args : List String) :
    (useUtility own utility args).Keeps := by
  refine .get fun m => ?_
  dsimp only
  refine KeepsAt.bind (.set (.of_eq rfl rfl)) fun _ => ?_
  exact .ite ((keeps_lament _).bind fun _ => keeps_say _) (keeps_say _)

theorem keeps_showEnvironment (names : List String) : (showEnvironment names).Keeps := by
  refine .read fun m => ?_
  exact .ite ((keeps_setStatus 0).bind fun _ => keeps_say _)
    ((keeps_setStatus _).bind fun _ => keeps_say _)

theorem keeps_settle (guarded : Bool) : (settle guarded).Keeps :=
  .read fun _ => .ite (.throw .exit) (.pure ())

section

variable {inner : (guarded : Bool) → Script → Act Unit}

/-! ## Expansion -/

namespace Piece

theorem keeps_formed {word : Bool → List Char → Act Marked}
    (hword : ∀ loose text, (word loose text).Keeps) (name : String) (form : ParameterForm)
    (value : Option String) : (formed word name form value).Keeps := by
  have known : (do
      if (← get).precise && value.isNone && !(["@", "*"].contains name) then
        Act.abandon s!"{name}: parameter not set" : Act Unit).Keeps :=
    .read fun _ => .ite (keeps_abandon _) (.pure ())
  have text : ∀ other, (do return (← word false other).text : Act (List Char)).Keeps :=
    fun other => (hword false other).bind fun _ => .pure _
  cases form with
  | plain => exact known.bind fun _ => .pure _
  | length => exact known.bind fun _ => .pure _
  | orElse ofEmpty other => exact .ite (text other) (.pure _)
  | «instead» ofEmpty other => exact .ite (.pure _) (text other)
  | settled ofEmpty other =>
    have assigned : ∀ value, (modify fun m => m.assign name value : Act Unit).Keeps := fun _ =>
      .modify fun _ => .of_eq rfl rfl
    exact .ite ((text other).bind fun _ => (assigned _).bind fun _ => .pure _) (.pure _)
  | demanded ofEmpty other =>
    exact .ite ((text other).bind fun _ => keeps_abandon _) (.pure _)
  | trimmed cut pattern => exact known.bind fun _ => (hword true pattern).bind fun _ => .pure _

variable (hinner : ∀ guarded script, (inner guarded script).Keeps)

include hinner

theorem keeps_printed (source : List Char) : (printed inner source).Keeps := by
  unfold printed
  split
  · exact keeps_abandon _
  · exact (hinner false _).capture.bind fun _ => .pure _

theorem keeps_segments {word : Bool → List Char → Act Marked}
    (hword : ∀ loose text, (word loose text).Keeps) (piece : Piece) :
    (segments inner word piece).Keeps := by
  cases piece with
  | text chars quoted => exact .pure _
  | parameter name form quoted =>
    refine .read fun m => ?_
    split
    · exact .pure _
    · exact (keeps_formed hword _ _ _).bind fun _ => .pure _
  | output source quoted => exact (keeps_printed hinner source).bind fun _ => .pure _
  | sum source quoted =>
    refine (hword false source).bind fun _ => .read fun m => ?_
    split
    · exact .pure _
    · exact keeps_abandon _

end Piece

namespace Word

variable (hinner : ∀ guarded script, (inner guarded script).Keeps)

include hinner

theorem keeps_inside (depth : Nat) (loose : Bool) (source : List Char) :
    (inside inner depth loose source).Keeps := by
  induction depth generalizing loose source with
  | zero => exact keeps_abandon _
  | succ depth ih =>
    unfold inside
    split
    · exact keeps_abandon _
    · exact (Keeps.mapM (Piece.keeps_segments hinner ih) _).bind fun _ => .pure _

theorem keeps_segments (word : Word) : (segments inner word).Keeps :=
  (Keeps.mapM (Piece.keeps_segments hinner (keeps_inside hinner nesting)) word).bind fun _ =>
    .pure _

theorem keeps_value (word : Word) : (value inner word).Keeps :=
  (keeps_segments hinner word).bind fun _ => .pure _

theorem keeps_pattern (word : Word) : (pattern inner word).Keeps :=
  (keeps_segments hinner word).bind fun _ => .pure _

theorem keeps_fields (word : Word) : (fields inner word).Keeps :=
  (keeps_segments hinner word).bind fun _ => .read fun _ => .ite (.pure _) (.pure _)

theorem keeps_allFields (words : List Word) : (allFields inner words).Keeps :=
  (Keeps.mapM (keeps_fields hinner) words).bind fun _ => .pure _

end Word

section

variable (hinner : ∀ guarded script, (inner guarded script).Keeps)

include hinner

/-! ## Redirections -/

theorem keeps_redirect (r : Redirection) : (redirect inner r).Keeps := by
  refine (Word.keeps_value hinner r.target).bind fun target => ?_
  have given : (modify fun m => { m with input := target.toList } : Act Unit).Keeps :=
    .modify fun _ => .of_eq rfl rfl
  dsimp only
  split
  · exact keeps_openInput target
  · exact given.bind fun _ => .pure _
  · exact (keeps_duplicate _ target).bind fun _ => .pure _
  · exact .pure _
  · refine (keeps_openSink _ target).bind fun sink => ?_
    cases sink with
    | some sink => exact (keeps_setSink _ sink).bind fun _ => .pure _
    | none => exact .pure _

theorem keeps_redirectAll (redirections : List Redirection) :
    (redirectAll inner redirections).Keeps := by
  induction redirections with
  | nil => exact .pure _
  | cons r rest ih => exact (keeps_redirect hinner r).bind fun _ => .ite ih (.pure _)

theorem keeps_withRedirections {act : Act Unit} (h : act.Keeps) (redirections : List Redirection) :
    (withRedirections inner redirections act).Keeps := by
  have all : (do if ← redirectAll inner redirections then act : Act Unit).Keeps :=
    (keeps_redirectAll hinner redirections).bind fun _ => .ite h (.pure ())
  refine ⟨fun m => ?_⟩
  have kept := all.everywhere m
  unfold KeepsAt leaves at kept ⊢
  unfold withRedirections
  dsimp only
  generalize (do if ← redirectAll inner redirections then act : Act Unit) m = result at kept ⊢
  cases result <;> exact ⟨kept.captured, kept.complaints⟩

/-! ## Calls -/

theorem keeps_runText (guarded : Bool) (text : List Char) : (runText inner guarded text).Keeps := by
  unfold runText
  split
  · exact (keeps_setStatus 0).bind fun _ => hinner guarded _
  · exact keeps_abandon _

theorem keeps_runFile (guarded : Bool) (command path : String) :
    (runFile inner guarded command path).Keeps := by
  have named : (modify fun m => if command.isEmpty then { m with name := path } else m :
      Act Unit).Keeps := by
    refine .modify fun m => ?_
    split <;> exact .of_eq rfl rfl
  refine .read fun m => ?_
  split
  · exact named.bind fun _ => keeps_runText hinner guarded _
  · exact keeps_abandon _

theorem keeps_startShell (args : List String) : (startShell inner args).Keeps := by
  unfold startShell
  rcases Utility.options args with ⟨letters, operands⟩
  refine (Builtin.keeps_turn true letters).bind fun _ => (keeps_setStatus 0).bind fun _ => ?_
  split
  · exact keeps_abandon _
  · refine Keeps.bind (.modify fun _ => .of_eq rfl rfl) fun _ => keeps_runText hinner false _
  · exact .get fun m => KeepsAt.bind (.set (.of_eq rfl rfl)) fun _ => keeps_runText hinner false _
  · refine Keeps.bind (.modify fun _ => .of_eq rfl rfl) fun _ => keeps_runFile hinner false _ _

theorem keeps_callProgram (name : String) (args : List String) :
    (callProgram inner name args).Keeps := by
  refine .read fun m => ?_
  split
  · exact keeps_useUtility _ _ args
  · exact .ite (keeps_asProcess (keeps_startShell hinner args)) (.ite (keeps_showEnvironment args)
      (.ite (keeps_refuse _ 126) (keeps_refuse _ 127)))

theorem keeps_callWith (args : List String) : (callWith inner args).Keeps := by
  induction args with
  | nil => exact keeps_showEnvironment []
  | cons arg rest ih =>
    unfold callWith
    split
    · refine .read fun m => (Builtin.keeps_exportOne arg).bind fun _ => ih.bind fun _ => ?_
      exact .modify fun _ => .of_eq rfl rfl
    · exact keeps_callProgram hinner _ rest

theorem keeps_call (guarded : Bool) (name : String) (args : List String) :
    (call inner guarded name args).Keeps := by
  refine .read fun m => ?_
  split
  · exact keeps_runText hinner guarded _
  · exact keeps_runFile hinner guarded _ _
  · exact Builtin.keeps_ofName? (by assumption) args
  · exact (hinner guarded _).asFunction args
  · exact keeps_callProgram hinner _ _
  · exact keeps_callWith hinner args
  · exact keeps_callProgram hinner _ args

/-! ## Simple commands -/

theorem keeps_assignAll (assignments : List (String × Word)) :
    (assignAll inner assignments).Keeps := by
  induction assignments with
  | nil => exact .pure ()
  | cons first rest ih =>
    have assigned : ∀ value, (modify fun m => m.assign first.1 value : Act Unit).Keeps := fun _ =>
      .modify fun _ => .of_eq rfl rfl
    exact (Word.keeps_value hinner first.2).bind fun _ => (assigned _).bind fun _ => ih

theorem keeps_withAssignments {act : Act Unit} (h : act.Keeps)
    (assignments : List (String × Word)) : (withAssignments inner assignments act).Keeps := by
  refine .read fun m => (keeps_assignAll hinner assignments).bind fun _ =>
    (Keeps.forM Builtin.keeps_exportOne _).bind fun _ => h.bind fun _ => .modify fun after => ?_
  have printed := Machine.foldl_printsTo (fun after (item : String × Word) =>
    after.restore_printsTo item.1 (m.bindings.lookup item.1)) assignments after
  exact ⟨printed.captured, printed.complaints⟩

theorem keeps_simple (guarded : Bool) (line : Nat) (assignments : List (String × Word))
    (words : List Word) (redirections : List Redirection) :
    (simple inner guarded line assignments words redirections).Keeps := by
  have settles := keeps_settle guarded
  have calls := fun name args =>
    keeps_withRedirections hinner (keeps_call hinner guarded name args) redirections
  refine Keeps.bind (.modify fun _ => .of_eq rfl rfl) fun _ => ?_
  refine (Word.keeps_allFields hinner words).bind fun fields => ?_
  dsimp only
  split
  · have redirects := (keeps_withRedirections hinner (.pure ()) redirections).bind fun _ => settles
    refine (keeps_assignAll hinner assignments).bind fun _ => ?_
    exact .ite ((keeps_setStatus 0).bind fun _ => redirects) redirects
  · split
    · exact (keeps_redirectAll hinner redirections).discard.bind fun _ => settles
    · exact (calls _ _).bind fun _ => (Keeps.throw .exit).bind fun _ => settles
  · exact .ite ((calls _ _).bind fun _ => settles)
      ((keeps_withAssignments hinner (calls _ _) assignments).bind fun _ => settles)

/-! ## Scripts -/

theorem keeps_firstMatch (text : List Char) (place : Nat) (patterns : List (List Word)) :
    (firstMatch inner text place patterns).Keeps := by
  induction patterns generalizing place with
  | nil => exact .pure _
  | cons words rest ih =>
    have matched : ∀ word, (do return (← Word.pattern inner word).accepts text : Act Bool).Keeps :=
      fun word => (Word.keeps_pattern hinner word).bind fun _ => .pure _
    exact (Keeps.anyM matched words).bind fun _ => .ite (.pure _) (ih _)

end

mutual

/-- A script keeps what was printed, if the shell one level below does. -/
theorem keeps_perform (hinner : ∀ guarded script, (inner guarded script).Keeps) (guarded : Bool)
    (script : Script) : (perform inner guarded script).Keeps := by
  cases script with
  | simple line assignments words redirections =>
    exact keeps_simple hinner guarded line assignments words redirections
  | sequence parts => exact keeps_performAll hinner guarded parts
  | both first second | either first second =>
    exact (keeps_perform hinner true first).bind fun _ =>
      .read fun _ => .ite (keeps_perform hinner guarded second) (.pure ())
  | negated script =>
    exact (keeps_perform hinner true script).bind fun _ => .modify fun _ => .of_eq rfl rfl
  | pipe first second =>
    refine (keeps_perform hinner true first).capture.bind fun text => .get fun m => ?_
    refine KeepsAt.bind (.set (.of_eq rfl rfl)) fun _ => ?_
    refine (keeps_perform hinner true second).apart.bind fun _ => ?_
    exact Keeps.bind (.modify fun _ => .of_eq rfl rfl) fun _ => keeps_settle guarded
  | subshell script =>
    exact (keeps_perform hinner guarded script).apart.bind fun _ => keeps_settle guarded
  | branch condition positive negative =>
    refine (keeps_perform hinner true condition).bind fun _ => .read fun _ => ?_
    exact .ite (keeps_perform hinner guarded positive)
      (.ite (keeps_setStatus 0) (keeps_perform hinner guarded negative))
  | loop onSuccess last condition body =>
    have again : ∀ status, (inner guarded (.loop onSuccess status condition body)).Keeps :=
      fun status => hinner guarded _
    refine (keeps_perform hinner true condition).loopBody.bind fun _ => ?_
    refine .ite (.read fun _ => .ite ?_ (keeps_setStatus last)) (.pure ())
    refine (keeps_perform hinner guarded body).loopBody.bind fun _ => ?_
    exact .ite (.read fun _ => again _) (.pure ())
  | each name words body =>
    have assigned : ∀ value, (modify fun m => m.assign name value : Act Unit).Keeps := fun _ =>
      .modify fun _ => .of_eq rfl rfl
    have done := fun field => (assigned field).bind fun _ => keeps_perform hinner guarded body
    refine (Word.keeps_allFields hinner words).bind fun fields => ?_
    exact (keeps_setStatus 0).bind fun _ => .forFields done fields
  | choice subject patterns bodies =>
    refine (Word.keeps_value hinner subject).bind fun text => ?_
    refine (keeps_firstMatch hinner _ 0 patterns).bind fun chosen => ?_
    exact (keeps_setStatus 0).bind fun _ => keeps_performAt hinner guarded chosen bodies
  | define name body =>
    exact Keeps.bind (.modify fun _ => .of_eq rfl rfl) fun _ => keeps_setStatus 0
  | redirected script redirections =>
    exact keeps_withRedirections hinner (keeps_perform hinner guarded script) redirections

theorem keeps_performAt (hinner : ∀ guarded script, (inner guarded script).Keeps) (guarded : Bool)
    (place : Nat) (scripts : List Script) : (performAt inner guarded place scripts).Keeps := by
  cases scripts with
  | nil => cases place <;> exact .pure ()
  | cons script rest =>
    cases place with
    | zero => exact keeps_perform hinner guarded script
    | succ place => exact keeps_performAt hinner guarded place rest

theorem keeps_performAll (hinner : ∀ guarded script, (inner guarded script).Keeps) (guarded : Bool)
    (scripts : List Script) : (performAll inner guarded scripts).Keeps := by
  cases scripts with
  | nil => exact .pure ()
  | cons script rest =>
    exact (keeps_perform hinner guarded script).bind fun _ => keeps_performAll hinner guarded rest

end

/-- After its first scripts a list does what the others do. -/
theorem performAll_append (guarded : Bool) (first rest : List Script) :
    performAll inner guarded (first ++ rest) =
      (performAll inner guarded first >>= fun _ => performAll inner guarded rest) := by
  induction first with
  | nil => rfl
  | cons script more ih =>
    rw [List.cons_append, performAll, performAll, ih, bind_assoc]

end

/-! ## Whole shells -/

theorem keeps_execute (depth : Nat) (guarded : Bool) (script : Script) :
    (execute depth guarded script).Keeps := by
  induction depth generalizing guarded script with
  | zero => exact .throw _
  | succ depth ih => exact keeps_perform ih guarded script

/-- What a script prints begins with what its first commands print. -/
theorem execute_printsTo (depth : Nat) (guarded : Bool) (first rest : List Script) (m : Machine) :
    ((execute depth guarded (.sequence first)).leaves m).PrintsTo
      ((execute depth guarded (.sequence (first ++ rest))).leaves m) := by
  cases depth with
  | zero => exact .refl m
  | succ depth =>
    simp only [execute, perform, performAll_append]
    exact leaves_bind fun _ => keeps_performAll (keeps_execute depth) guarded rest

end Flaky.Shell
