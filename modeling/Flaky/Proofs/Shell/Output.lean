-- SUMMARY: The output of a shell only grows: whatever a script does, and however it ends, nothing that was printed is taken back.
import Flaky.Shell

/-!
# What a shell has printed

A script may leave a command in many ways: it may exit, be killed, break off a loop
or fail. `Act.Keeps` says of an act that all that was printed before is still there
afterwards, however the act ends. There is a law for each way in which acts are put
together, then one for each command, and the laws of scripts follow by the depth and
the syntax.
-/

namespace Flaky.Shell

/-! ## Machines and acts -/

/-- Something may have been printed from one machine to the next; nothing was taken back. -/
structure Machine.PrintsTo (m m' : Machine) : Prop where
  captured : m.captured <+: m'.captured
  complaints : m.complaints <+: m'.complaints

namespace Machine.PrintsTo

variable {m m' m'' : Machine}

theorem of_eq (captured : m'.captured = m.captured) (complaints : m'.complaints = m.complaints) :
    m.PrintsTo m' :=
  ⟨captured ▸ List.prefix_rfl, complaints ▸ List.prefix_rfl⟩

theorem refl (m : Machine) : m.PrintsTo m := of_eq rfl rfl

theorem trans (h : m.PrintsTo m') (h' : m'.PrintsTo m'') : m.PrintsTo m'' :=
  ⟨h.captured.trans h'.captured, h.complaints.trans h'.complaints⟩

end Machine.PrintsTo

theorem Machine.print_printsTo (m : Machine) (sink : Sink) (text : List Char) :
    m.PrintsTo (m.print sink text).2 := by
  cases sink with
  | captured => exact ⟨List.prefix_append _ _, List.prefix_rfl⟩
  | complaints => exact ⟨List.prefix_rfl, List.prefix_append _ _⟩
  | place location => exact .of_eq rfl rfl

theorem Machine.restore_printsTo (m : Machine) (name : String) (value : Option String) :
    m.PrintsTo (m.restore name value) := by
  cases value <;> exact .of_eq rfl rfl

theorem Machine.foldl_printsTo {α : Type} {step : Machine → α → Machine}
    (h : ∀ m a, Machine.PrintsTo m (step m a)) (items : List α) (m : Machine) :
    m.PrintsTo (items.foldl step m) := by
  induction items generalizing m with
  | nil => exact .refl m
  | cons item rest ih => exact (h m item).trans (ih _)

namespace Act

/-- The machine that an act leaves, however it ends. -/
def leaves {α : Type} (act : Act α) (m : Machine) : Machine :=
  match act m with
  | .ok _ after | .error _ after => after

/-- From this machine on the act takes back nothing that was printed. -/
def KeepsAt {α : Type} (act : Act α) (m : Machine) : Prop := m.PrintsTo (act.leaves m)

structure Keeps {α : Type} (act : Act α) : Prop where
  everywhere : ∀ m, act.KeepsAt m

/-! ## Acts put together -/

theorem get_apply (m : Machine) : (MonadState.get : Act Machine) m = .ok m m := rfl

theorem set_apply (m m' : Machine) : (MonadStateOf.set m' : Act PUnit) m = .ok ⟨⟩ m' := rfl

theorem modify_apply (change : Machine → Machine) (m : Machine) :
    (modify change : Act PUnit) m = .ok ⟨⟩ (change m) := rfl

section

variable {α β : Type} {m m' : Machine} {act : Act α} {next : α → Act β}

/-- What is done next takes back nothing of what was done first. -/
theorem leaves_bind (rest : ∀ a, (next a).Keeps) :
    (act.leaves m).PrintsTo ((act >>= next).leaves m) := by
  simp only [leaves, Bind.bind, EStateM.bind]
  cases act m with
  | ok a after => exact (rest a).everywhere after
  | error flow after => exact .refl after

theorem KeepsAt.bind (h : act.KeepsAt m) (rest : ∀ a, (next a).Keeps) :
    (act >>= next).KeepsAt m := Machine.PrintsTo.trans h (leaves_bind rest)

theorem Keeps.bind (h : act.Keeps) (rest : ∀ a, (next a).Keeps) : (act >>= next).Keeps :=
  ⟨fun m => (h.everywhere m).bind rest⟩

theorem Keeps.pure (a : α) : (Pure.pure a : Act α).Keeps := ⟨.refl⟩

theorem Keeps.discard (h : act.Keeps) : (discard act).Keeps := by
  refine ⟨fun m => ?_⟩
  have kept := h.everywhere m
  unfold KeepsAt leaves at kept ⊢
  simp only [Functor.discard, Functor.mapConst, Function.comp, EStateM.map]
  cases hact : act m <;> rw [hact] at kept <;> exact kept

theorem Keeps.throw (flow : Flow) : (MonadExcept.throw flow : Act α).Keeps := ⟨.refl⟩

/-- What is done next may depend on the machine that it starts from. -/
theorem Keeps.get {next : Machine → Act β} (h : ∀ m, (next m).KeepsAt m) :
    (MonadState.get >>= next).Keeps := ⟨h⟩

theorem Keeps.read {next : Machine → Act β} (h : ∀ m, (next m).Keeps) :
    (MonadState.get >>= next).Keeps := .get fun m => (h m).everywhere m

theorem KeepsAt.set (h : m.PrintsTo m') : (MonadStateOf.set m' : Act PUnit).KeepsAt m := h

theorem Keeps.modify {change : Machine → Machine} (h : ∀ m : Machine, m.PrintsTo (change m)) :
    (modify change : Act PUnit).Keeps := ⟨h⟩

theorem Keeps.ite {c : Prop} [Decidable c] {other : Act α} (h : act.Keeps) (h' : other.Keeps) :
    (if c then act else other).Keeps := by
  split
  · exact h
  · exact h'

theorem Keeps.mapM {f : α → Act β} (h : ∀ a, (f a).Keeps) (items : List α) :
    (items.mapM f).Keeps := by
  have loop : ∀ done, (List.mapM.loop f items done).Keeps := by
    induction items with
    | nil => exact fun done => .pure _
    | cons a rest ih => exact fun done => (h a).bind fun b => ih (b :: done)
  exact loop []

theorem Keeps.forM {f : α → Act PUnit} (h : ∀ a, (f a).Keeps) (items : List α) :
    (items.forM f).Keeps := by
  induction items with
  | nil => exact .pure _
  | cons a rest ih => exact (h a).bind fun _ => ih

theorem Keeps.anyM {f : α → Act Bool} (h : ∀ a, (f a).Keeps) (items : List α) :
    (items.anyM f).Keeps := by
  induction items with
  | nil => exact .pure _
  | cons a rest ih =>
    refine (h a).bind fun found => ?_
    cases found with
    | true => exact .pure _
    | false => exact ih

/-- What an act leaves, however it ends. -/
theorem Keeps.ok {a : α} (h : act.Keeps) (hok : act m = .ok a m') : m.PrintsTo m' := by
  have kept := h.everywhere m
  rwa [KeepsAt, leaves, hok] at kept

theorem Keeps.error {flow : Flow} (h : act.Keeps) (herror : act m = .error flow m') :
    m.PrintsTo m' := by
  have kept := h.everywhere m
  rwa [KeepsAt, leaves, herror] at kept

end

/-! ## Output, copies and loops -/

section

variable {act : Act Unit}

theorem keeps_setStatus (status : Nat) : (setStatus status).Keeps :=
  .modify fun _ => .of_eq rfl rfl

theorem keeps_say (text : List Char) : (say text).Keeps := by
  refine .get fun m => ?_
  refine KeepsAt.bind (.set (m.print_printsTo m.output text)) fun _ => ?_
  exact .ite (.pure ()) (keeps_setStatus 1)

theorem keeps_lament (text : List Char) : (lament text).Keeps :=
  .modify fun m => m.print_printsTo m.errors text

theorem keeps_complain (text : String) : (complain text).Keeps :=
  .read fun m => keeps_lament (m.heading ++ text ++ "\n").toList

theorem keeps_refuse (text : String) (status : Nat) : (refuse text status).Keeps :=
  (keeps_complain text).bind fun _ => keeps_setStatus status

theorem keeps_abandon {α : Type} (text : String) : (abandon text : Act α).Keeps :=
  (keeps_refuse text 2).bind fun _ => .throw .exit

theorem Keeps.apart (h : act.Keeps) : (apart act).Keeps := by
  refine ⟨fun m => ?_⟩
  unfold KeepsAt leaves Act.apart
  cases hact : act m with
  | ok _ after => exact ⟨(h.ok hact).captured, (h.ok hact).complaints⟩
  | error flow after =>
    have printed := h.error hact
    cases flow <;> exact ⟨printed.captured, printed.complaints⟩

/-- What is printed in a copy for another use does not count as printed. -/
theorem Keeps.capture (h : act.Keeps) : (capture act).Keeps := by
  refine ⟨fun m => ?_⟩
  have printed := h.apart.everywhere { m with captured := [], output := .captured }
  unfold KeepsAt leaves at printed ⊢
  unfold Act.capture
  cases hact : Act.apart act { m with captured := [], output := .captured } with
  | ok _ after =>
    rw [hact] at printed
    exact ⟨List.prefix_rfl, printed.complaints⟩
  | error flow after =>
    rw [hact] at printed
    exact ⟨List.prefix_rfl, printed.complaints⟩

theorem Keeps.loopBody (h : act.Keeps) : (loopBody act).Keeps := by
  refine ⟨fun m => ?_⟩
  unfold KeepsAt leaves Act.loopBody
  cases hact : act { m with loops := m.loops + 1 } with
  | ok _ after => exact ⟨(h.ok hact).captured, (h.ok hact).complaints⟩
  | error flow after =>
    have printed := h.error hact
    cases flow with
    | broke loops | continued loops =>
      by_cases hloops : loops ≤ 1 <;> simp only [hloops, if_true, if_false] <;>
        exact ⟨printed.captured, printed.complaints⟩
    | exit | killed signal | returned => exact ⟨printed.captured, printed.complaints⟩

theorem Keeps.forFields {act : String → Act Unit} (h : ∀ field, (act field).Keeps)
    (fields : List String) : (forFields act fields).Keeps := by
  induction fields with
  | nil => exact .pure ()
  | cons field rest ih => exact (h field).loopBody.bind fun _ => .ite ih (.pure ())

theorem Keeps.asFunction (h : act.Keeps) (arguments : List String) :
    (asFunction arguments act).Keeps := by
  refine ⟨fun m => ?_⟩
  have left : ∀ {after : Machine}, m.PrintsTo after →
      m.PrintsTo (after.shadowed.foldl (fun m item => m.restore item.1 item.2) after) :=
    fun printed => printed.trans
      (Machine.foldl_printsTo (fun m (item : String × Option String) =>
        m.restore_printsTo item.1 item.2) _ _)
  unfold KeepsAt leaves Act.asFunction
  cases hact : act { m with arguments := arguments, shadowed := [], loops := 0 } with
  | ok _ after =>
    have printed := left ⟨(h.ok hact).captured, (h.ok hact).complaints⟩
    exact ⟨printed.captured, printed.complaints⟩
  | error flow after =>
    have printed := left ⟨(h.error hact).captured, (h.error hact).complaints⟩
    cases flow <;> exact ⟨printed.captured, printed.complaints⟩

end

end Act

/-! ## Commands of the shell -/

namespace Builtin

open Act

theorem keeps_count (command : String) (args : List String) (other : Nat) :
    (count command args other).Keeps := by
  unfold count
  split
  · exact .pure _
  · split
    · exact .pure _
    · exact keeps_abandon _

theorem keeps_leave (command : String) (flow : Flow) (args : List String) :
    (leave command flow args).Keeps :=
  .read fun _ => (keeps_count ..).bind fun _ => (keeps_setStatus _).bind fun _ => .throw flow

theorem keeps_leaveLoops (command : String) (flow : Nat → Flow) (args : List String) :
    (leaveLoops command flow args).Keeps := by
  refine (keeps_count ..).bind fun loops => ?_
  have left : (do
      setStatus 0
      let m ← get
      if m.loops ≠ 0 then throw (flow (min loops m.loops)) : Act Unit).Keeps :=
    (keeps_setStatus 0).bind fun _ => .read fun _ => .ite (.throw _) (.pure ())
  exact .ite ((keeps_abandon _).bind fun _ => left) left

theorem keeps_exportOne (arg : String) : (exportOne arg).Keeps := by
  refine .modify fun m => ?_
  rcases assignment arg with ⟨name, _ | value⟩ <;> exact .of_eq rfl rfl

theorem keeps_shadowOne (arg : String) : (shadowOne arg).Keeps := by
  refine .modify fun m => ?_
  rcases assignment arg with ⟨name, _ | value⟩ <;> exact .of_eq rfl rfl

theorem keeps_turn (on : Bool) (letters : List Char) : (turn on letters).Keeps :=
  .modify fun _ => .of_eq rfl rfl

theorem keeps_setOptions (args : List String) : (setOptions args).Keeps := by
  induction args with
  | nil => exact .pure ()
  | cons arg rest ih =>
    unfold setOptions
    split
    case h_1 heq => cases heq
    case h_2 args heq => exact .modify fun _ => .of_eq rfl rfl
    case h_3 heq =>
      cases heq
      split
      · exact (keeps_turn true _).bind fun _ => ih
      · exact (keeps_turn false _).bind fun _ => ih
      · exact .modify fun _ => .of_eq rfl rfl

theorem keeps_shift (args : List String) : (shift args).Keeps := by
  refine (keeps_count ..).bind fun n => .get fun m => ?_
  by_cases h : m.arguments.length < n
  · rw [if_pos h]
    exact (keeps_abandon _).everywhere m
  · rw [if_neg h]
    exact .set (.of_eq rfl rfl)

theorem keeps_changeDirectory (args : List String) : (changeDirectory args).Keeps := by
  refine .get fun m => ?_
  have refused := fun text => (keeps_refuse text 2).everywhere m
  dsimp only
  split
  · split
    · exact .set (.of_eq rfl rfl)
    · exact refused _
  · exact refused _

theorem keeps_assignFields (separators : Separators) (names : List String) (cs : List Char) :
    (assignFields separators names cs).Keeps := by
  fun_induction assignFields separators names cs with
  | case1 => exact .pure ()
  | case2 => exact .modify fun _ => .of_eq rfl rfl
  | case3 name rest cs _ _ _ _ ih =>
    have assigned : ∀ value, (modify fun m => m.assign name value : Act Unit).Keeps := fun _ =>
      .modify fun _ => .of_eq rfl rfl
    exact (assigned _).bind fun _ => ih

theorem keeps_readLine (args : List String) : (readLine args).Keeps :=
  .get fun _ => KeepsAt.bind (.set (.of_eq rfl rfl)) fun _ => keeps_assignFields ..

theorem keeps_kill (args : List String) : (kill args).Keeps := by
  refine .read fun m => ?_
  split
  · exact keeps_refuse _ _
  · refine .ite (.ite (keeps_setStatus 0) (.throw _)) (keeps_refuse _ _)

/-- No command of the shell's own takes back what was printed. -/
theorem keeps_ofName? {name : String} {builtin : List String → Act Unit}
    (h : ofName? name = some builtin) (args : List String) : (builtin args).Keeps := by
  unfold ofName? at h
  split at h <;> cases h
  · exact keeps_leave ..
  · exact keeps_leave ..
  · exact keeps_leaveLoops ..
  · exact keeps_leaveLoops ..
  · exact (keeps_setOptions args).bind fun _ => keeps_setStatus 0
  · exact keeps_shift args
  · exact (Keeps.forM keeps_exportOne args).bind fun _ => keeps_setStatus 0
  · exact (Keeps.forM keeps_shadowOne args).bind fun _ => keeps_setStatus 0
  · have unset : ∀ name, (modify fun m => m.unset name : Act Unit).Keeps := fun _ =>
      .modify fun _ => .of_eq rfl rfl
    exact (Keeps.forM unset args).bind fun _ => keeps_setStatus 0
  · refine (Keeps.forM (fun arg => .modify fun m => ?_) args).bind fun _ => keeps_setStatus 0
    rcases assignment arg with ⟨name, _ | value⟩ <;> exact .of_eq rfl rfl
  · exact keeps_setStatus 0
  · exact keeps_setStatus 0
  · exact keeps_changeDirectory args
  · exact keeps_readLine args
  · exact keeps_kill args

end Builtin

end Flaky.Shell
