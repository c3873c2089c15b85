-- SUMMARY: How an object is read after some of its fields: as it is read alone, whatever the fields and the key before.
import Flaky.Proofs.Json.Whole

/-!
# Reading inside an object

Of the fields that the outermost object has, and of the key that it had last, the reader
makes nothing until the object is complete. So it reads the rest of an object as it
reads the same text in an object without fields, and the fields go before the others.
-/

namespace Flaky.Json.Raw

/-! ## Fields before -/

/-- Give the outermost object fields before its own, which are kept latest first. -/
def overFrames (before : List (Option String × Raw)) : List Frame → List Frame
  | [] => []
  | [.object fields key] => [.object (fields ++ before) key]
  | frame :: rest => frame :: overFrames before rest

/-- The reader where the outermost object had fields before all others. -/
def Reader.over (before : List (Option String × Raw)) (r : Reader) : Reader :=
  match r.frames, r.mode with
  | [], .done (.object fields) => ⟨[], .done (.object (before.reverse ++ fields))⟩
  | frames, mode => ⟨overFrames before frames, mode⟩

section

variable {before : List (Option String × Raw)} {frame : Frame} {frames : List Frame} {r : Reader}
variable {c : Char} {v : Raw} {mode : Mode}

theorem over_mk (h : frames ≠ []) :
    Reader.over before ⟨frames, mode⟩ = ⟨overFrames before frames, mode⟩ := by
  cases frames with
  | nil => exact absurd rfl h
  | cons frame rest => rfl

theorem overFrames_cons (h : frames ≠ []) :
    overFrames before (frame :: frames) = frame :: overFrames before frames := by
  rw [overFrames]
  rintro fields key - rfl
  exact h rfl

theorem deliver_over (h : frames ≠ []) :
    deliver (overFrames before frames) v = (deliver frames v).over before := by
  match frames with
  | [] => exact absurd rfl h
  | [.array items] | [.object fields key] => rfl
  | .array items :: f :: rest | .object fields key :: f :: rest => rfl

theorem close?_over :
    close? (overFrames before frames) c = (close? frames c).map (·.over before) := by
  match frames with
  | [] => rfl
  | [.array items] | [.object fields key] =>
    simp only [close?, overFrames, List.reverse_append]
    split <;> rfl
  | .array items :: f :: rest | .object fields key :: f :: rest =>
    rw [overFrames_cons (List.cons_ne_nil _ _)]
    simp only [close?]
    split
    · rw [deliver_over (List.cons_ne_nil _ _)]
      rfl
    · rfl

theorem begin?_over (h : frames ≠ []) :
    begin? (overFrames before frames) c = (begin? frames c).map (·.over before) := by
  simp only [begin?, apply_ite (Option.map (Reader.over before)), Option.map_some, Option.map_map,
    Function.comp_def, over_mk h, over_mk (List.cons_ne_nil _ _), overFrames_cons h]

theorem after?_over (h : r.frames ≠ []) :
    after? (r.over before) c = (after? r c).map (·.over before) := by
  obtain ⟨frames, mode⟩ := r
  rw [over_mk h]
  unfold after?
  split
  · rw [Option.map_some, over_mk h]
  · cases mode with
    | separator =>
      dsimp only
      split
      · match frames with
        | [] => exact absurd rfl h
        | [.array items] | [.object fields key] => rfl
        | .array items :: f :: rest | .object fields key :: f :: rest => rfl
      · exact close?_over
    | _ => rfl

theorem endString_over {isKey : Bool} {units : List StringUnit} (h : frames ≠ []) :
    endString (overFrames before frames) isKey units =
      (endString frames isKey units).over before := by
  cases isKey with
  | false => exact deliver_over h
  | true =>
    match frames with
    | [] => exact absurd rfl h
    | [.array items] | [.object fields key] => rfl
    | .array items :: f :: rest | .object fields key :: f :: rest => rfl

theorem inString?_over {isKey : Bool} {units : List StringUnit} {escape : EscapeState}
    (h : frames ≠ []) : inString? (overFrames before frames) isKey units escape c =
      (inString? frames isKey units escape c).map (·.over before) := by
  cases escape with
  | plain =>
    simp only [inString?, apply_ite (Option.map (Reader.over before)), Option.map_some,
      Option.map_none, over_mk h, endString_over h]
  | backslash =>
    simp only [inString?, apply_ite (Option.map (Reader.over before)), Option.map_some,
      Option.map_map, Function.comp_def, over_mk h]
  | hex value count =>
    simp only [inString?, Option.map_map, Function.comp_def, apply_ite (Reader.over before),
      over_mk h]

theorem step?_over (h : r.frames ≠ []) :
    step? (r.over before) c = (step? r c).map (·.over before) := by
  obtain ⟨frames, mode⟩ := r
  rw [over_mk h]
  cases mode with
  | value =>
    simp only [step?]
    split
    · rw [Option.map_some, over_mk h]
    · exact begin?_over h
  | firstItem =>
    simp only [step?]
    split
    · rw [Option.map_some, over_mk h]
    · split
      · exact close?_over
      · exact begin?_over h
  | firstKey =>
    simp only [step?]
    split
    · rw [Option.map_some, over_mk h]
    · split
      · rw [Option.map_some, over_mk h]
      · exact close?_over
  | key =>
    simp only [step?, apply_ite (Option.map (Reader.over before)), Option.map_some, Option.map_none,
      over_mk h]
  | colon =>
    simp only [step?, apply_ite (Option.map (Reader.over before)), Option.map_some, Option.map_none,
      over_mk h]
  | separator | done result =>
    have hafter := @after?_over before ⟨frames, _⟩ c h
    rwa [over_mk h] at hafter
  | string isKey units escape => exact inString?_over h
  | number s =>
    simp only [step?]
    split
    · rw [Option.map_some, over_mk h]
    · cases s.value? with
      | none => rfl
      | some d =>
        rw [Option.bind_some, Option.bind_some, deliver_over h]
        exact after?_over (deliver_inside h).enclosed
  | word left meaning =>
    cases left with
    | nil => rfl
    | cons w left =>
      simp only [step?, apply_ite (Option.map (Reader.over before)), Option.map_some,
        Option.map_none, over_mk h, deliver_over h]

theorem idle_done : Reader.Idle ⟨[], .done v⟩ := fun c hc => by simp [step?, after?, hc]

theorem step?_over_done :
    step? (Reader.over before ⟨[], .done v⟩) c =
      (step? ⟨[], .done v⟩ c).map (·.over before) := by
  cases v <;> (simp only [Reader.over, overFrames, step?, after?]; split <;> rfl)

theorem read_over {cs : List Char} (h : r.Under) :
    read (r.over before) cs = (read r cs).map (·.over before) := by
  induction cs generalizing r with
  | nil => rfl
  | cons c cs ih =>
    have hstep : step? (r.over before) c = (step? r c).map (·.over before) := by
      cases h with
      | inside inside => exact step?_over inside.enclosed
      | done => exact step?_over_done
    rw [read_cons, read_cons, hstep]
    cases hnext : step? r c with
    | none => rfl
    | some next => exact ih (h.step? hnext)

theorem over_eq_done {fields : List (Option String × Raw)}
    (h : r.over before = ⟨[], .done (.object fields)⟩) :
    ∃ others, r = ⟨[], .done (.object others)⟩ ∧ fields = before.reverse ++ others := by
  obtain ⟨frames, mode⟩ := r
  cases frames with
  | nil =>
    unfold Reader.over at h
    split at h
    case h_1 hframes hmode =>
      obtain rfl : mode = _ := hmode
      exact ⟨_, rfl, (Raw.object.inj (Mode.done.inj (Reader.mk.inj h).2)).symm⟩
    case h_2 hnot =>
      obtain rfl : mode = _ := (Reader.mk.inj h).2
      exact absurd rfl (hnot fields rfl)
  | cons frame rest =>
    match frame, rest with
    | .array _, [] | .object _ _, [] | .array _, _ :: _ | .object _ _, _ :: _ => cases h

end

/-! ## Keys to come -/

/-- The key of the next field is not known yet. -/
def Mode.Nameless : Mode → Prop
  | .key | .string true _ _ => True
  | _ => False

section

variable {fields : List (Option String × Raw)} {key key' : Option String} {rest : List Frame}
variable {mode : Mode} {c : Char} {cs : List Char} {v : Raw}

/-- The key before makes no difference to the next key. -/
theorem step?_nameless (h : mode.Nameless) :
    step? ⟨.object fields key :: rest, mode⟩ c = step? ⟨.object fields key' :: rest, mode⟩ c ∨
      ∃ mode',
        step? ⟨.object fields key :: rest, mode⟩ c = some ⟨.object fields key :: rest, mode'⟩ ∧
        step? ⟨.object fields key' :: rest, mode⟩ c = some ⟨.object fields key' :: rest, mode'⟩ ∧
        mode'.Nameless := by
  match mode, h with
  | .key, _ =>
    simp only [step?]
    split
    · exact .inr ⟨_, rfl, rfl, trivial⟩
    · split
      · exact .inr ⟨_, rfl, rfl, trivial⟩
      · exact .inl rfl
  | .string true units .plain, _ =>
    simp only [step?, inString?]
    split
    · -- the end of the key, which takes the place of the one before
      exact .inl rfl
    · split
      · exact .inr ⟨_, rfl, rfl, trivial⟩
      · split
        · exact .inl rfl
        · exact .inr ⟨_, rfl, rfl, trivial⟩
  | .string true units .backslash, _ =>
    simp only [step?, inString?]
    split
    · exact .inr ⟨_, rfl, rfl, trivial⟩
    · cases escaped? c with
      | none => exact .inl rfl
      | some e => exact .inr ⟨_, rfl, rfl, trivial⟩
  | .string true units (.hex value count), _ =>
    simp only [step?, inString?]
    cases Text.hexDigit? c with
    | none => exact .inl rfl
    | some d =>
      rw [Option.map_some, Option.map_some]
      split <;> exact .inr ⟨_, rfl, rfl, trivial⟩

theorem read_nameless (h : mode.Nameless)
    (hread : read ⟨.object fields key :: rest, mode⟩ cs = some ⟨[], .done v⟩) :
    read ⟨.object fields key' :: rest, mode⟩ cs = some ⟨[], .done v⟩ := by
  induction cs generalizing mode with
  | nil => cases hread
  | cons c cs ih =>
    rw [read_cons] at hread ⊢
    rcases @step?_nameless fields key key' rest mode c h with hsame | ⟨mode', hstep, hstep', h'⟩
    · rwa [← hsame]
    · rw [hstep, Option.bind_some] at hread
      rw [hstep', Option.bind_some]
      exact ih h' hread

/-- The first key of an object that has fields is read as any other. -/
theorem read_firstKey_iff (hv : v ≠ .object []) :
    read ⟨[.object [] key], .firstKey⟩ cs = some ⟨[], .done v⟩ ↔
      read ⟨[.object [] key'], .key⟩ cs = some ⟨[], .done v⟩ := by
  induction cs with
  | nil => simp
  | cons c cs ih =>
    rw [read_cons, read_cons]
    simp only [step?]
    split
    · exact ih
    · split
      · exact ⟨read_nameless trivial, read_nameless trivial⟩
      · refine ⟨fun h => ?_, fun h => by cases h⟩
        simp only [close?] at h
        split at h
        · exact absurd (Mode.done.inj (Reader.mk.inj (read_done h).1).2) hv
        · cases h

end

end Flaky.Json.Raw
