-- SUMMARY: A JSON object is read only as a whole: it ends with its closing brace, and no text that stops before is a value.
import Flaky.Proofs.Json.Reading

/-!
# Whole objects

From its opening brace on the reader is inside the object until the brace that closes
it. A text that stops inside is no value, and nothing but blanks may follow the closing
brace. So an object without blanks after it has no value among its beginnings.
-/

namespace Flaky.Json.Raw

variable {r r' : Reader} {frames : List Frame} {c : Char} {v : Raw} {cs rest : List Char}

/-! ## Inside containers -/

/-- Some container is open. -/
structure Reader.Inside (r : Reader) : Prop where
  enclosed : r.frames ≠ []
  unfinished : ∀ v, r.mode ≠ .done v

/-- Where a character leads inside a container: it stays inside of one, or closes the last. -/
inductive Leads (c : Char) : Reader → Prop
  | inside {r : Reader} (inside : r.Inside) : Leads c r
  | out {v : Raw} (closing : ∀ fields, v = .object fields → c = '}') : Leads c ⟨[], .done v⟩

theorem deliver_inside (h : frames ≠ []) : (deliver frames v).Inside := by
  cases frames with
  | nil => exact absurd rfl h
  | cons frame frames => cases frame <;> exact ⟨List.cons_ne_nil _ _, nofun⟩

theorem deliver_leads (closing : ∀ fields, v = .object fields → c = '}') :
    Leads c (deliver frames v) := by
  cases frames with
  | nil => exact .out closing
  | cons frame frames => exact .inside (deliver_inside (List.cons_ne_nil _ _))

theorem close?_leads (h : close? frames c = some r) : Leads c r := by
  unfold close? at h
  split at h
  case h_1 items rest =>
    split at h
    case isTrue =>
      rw [← Option.some.inj h]
      exact deliver_leads nofun
    case isFalse => cases h
  case h_2 fields key rest =>
    split at h
    case isTrue hbrace =>
      rw [← Option.some.inj h]
      exact deliver_leads fun _ _ => hbrace
    case isFalse => cases h
  case h_3 => cases h

theorem begin?_inside (henclosed : frames ≠ []) (h : begin? frames c = some r) : r.Inside := by
  unfold begin? at h
  repeat' split at h
  case isFalse =>
    obtain ⟨s, -, rfl⟩ := Option.map_eq_some_iff.mp h
    exact ⟨henclosed, nofun⟩
  all_goals
    rw [← Option.some.inj h]
    first
    | exact ⟨henclosed, nofun⟩
    | exact ⟨List.cons_ne_nil _ _, nofun⟩

theorem after?_leads (hinside : r.Inside) (h : after? r c = some r') : Leads c r' := by
  unfold after? at h
  split at h
  case isTrue => exact .inside (Option.some.inj h ▸ hinside)
  case isFalse =>
    split at h
    case h_1 =>
      split at h
      case isTrue =>
        split at h
        case h_3 => cases h
        all_goals
          rw [← Option.some.inj h]
          exact .inside ⟨hinside.enclosed, nofun⟩
      case isFalse => exact close?_leads h
    case h_2 => cases h

theorem endString_inside {isKey : Bool} {units : List StringUnit} (h : frames ≠ []) :
    (endString frames isKey units).Inside := by
  unfold endString
  cases isKey with
  | true =>
    simp only [if_true]
    split
    · exact ⟨List.cons_ne_nil _ _, nofun⟩
    · exact ⟨h, nofun⟩
  | false => exact deliver_inside h

theorem inString?_inside {isKey : Bool} {units : List StringUnit} {escape : EscapeState}
    (henclosed : frames ≠ []) (h : inString? frames isKey units escape c = some r) : r.Inside := by
  unfold inString? at h
  split at h
  case h_1 =>
    repeat' split at h
    · exact Option.some.inj h ▸ endString_inside henclosed
    · exact Option.some.inj h ▸ ⟨henclosed, nofun⟩
    · cases h
    · exact Option.some.inj h ▸ ⟨henclosed, nofun⟩
  case h_2 =>
    split at h
    · exact Option.some.inj h ▸ ⟨henclosed, nofun⟩
    · obtain ⟨e, -, rfl⟩ := Option.map_eq_some_iff.mp h
      exact ⟨henclosed, nofun⟩
  case h_3 =>
    obtain ⟨d, -, rfl⟩ := Option.map_eq_some_iff.mp h
    split <;> exact ⟨henclosed, nofun⟩

theorem step?_leads (hinside : r.Inside) (h : step? r c = some r') : Leads c r' := by
  -- where the character is taken without a change of containers
  have stay : some r = some r' → Leads c r' :=
    fun hsome => .inside (Option.some.inj hsome ▸ hinside)
  have move : ∀ {mode : Mode}, some ⟨r.frames, mode⟩ = some r' → (∀ v, mode ≠ .done v) →
      Leads c r' :=
    fun hsome hmode => .inside (Option.some.inj hsome ▸ ⟨hinside.enclosed, hmode⟩)
  unfold step? at h
  split at h
  case h_1 =>
    split at h
    · exact stay h
    · exact .inside (begin?_inside hinside.enclosed h)
  case h_2 =>
    repeat' split at h
    · exact stay h
    · exact close?_leads h
    · exact .inside (begin?_inside hinside.enclosed h)
  case h_3 =>
    repeat' split at h
    · exact stay h
    · exact move h nofun
    · exact close?_leads h
  case h_4 =>
    repeat' split at h
    · exact stay h
    · exact move h nofun
    · cases h
  case h_5 =>
    repeat' split at h
    · exact stay h
    · exact move h nofun
    · cases h
  case h_6 => exact after?_leads hinside h
  case h_7 => exact after?_leads hinside h
  case h_8 => exact .inside (inString?_inside hinside.enclosed h)
  case h_9 => cases h
  case h_10 =>
    repeat' split at h
    · exact .inside (Option.some.inj h ▸ deliver_inside hinside.enclosed)
    · exact move h nofun
    · cases h
  case h_11 =>
    split at h
    · exact move h nofun
    · obtain ⟨d, -, hafter⟩ := Option.bind_eq_some_iff.mp h
      exact after?_leads (deliver_inside hinside.enclosed) hafter

/-! ## After a value -/

theorem step?_done (h : step? ⟨[], .done v⟩ c = some r) : r = ⟨[], .done v⟩ ∧ isSpace c = true := by
  have hafter : after? ⟨[], .done v⟩ c = some r := h
  unfold after? at hafter
  split at hafter
  case isTrue hspace => exact ⟨(Option.some.inj hafter).symm, hspace⟩
  case isFalse => cases hafter

/-- Only blanks follow a value. -/
theorem read_done (h : read ⟨[], .done v⟩ cs = some r) : r = ⟨[], .done v⟩ ∧ Blank cs := by
  induction cs with
  | nil => exact ⟨(Option.some.inj h).symm, fun c hc => nomatch hc⟩
  | cons c cs ih =>
    rw [read_cons, Option.bind_eq_some_iff] at h
    obtain ⟨next, hstep, hread⟩ := h
    obtain ⟨rfl, hspace⟩ := step?_done hstep
    obtain ⟨rfl, hblank⟩ := ih hread
    exact ⟨rfl, List.forall_mem_cons.mpr ⟨hspace, hblank⟩⟩

/-! ## Objects -/

/-- The reader has been inside a container since the first character. -/
inductive Reader.Under : Reader → Prop
  | inside {r : Reader} (inside : r.Inside) : Under r
  | done {v : Raw} : Under ⟨[], .done v⟩

theorem Reader.Under.step? (h : r.Under) (hstep : Raw.step? r c = some r') : r'.Under := by
  cases h with
  | inside inside =>
    cases step?_leads inside hstep with
    | inside inside' => exact .inside inside'
    | out => exact .done
  | done =>
    obtain ⟨rfl, -⟩ := step?_done hstep
    exact .done

theorem Reader.Under.read (h : r.Under) (hread : Raw.read r cs = some r') : r'.Under := by
  induction cs generalizing r with
  | nil => exact Option.some.inj hread ▸ h
  | cons c cs ih =>
    rw [read_cons, Option.bind_eq_some_iff] at hread
    obtain ⟨next, hstep, hread⟩ := hread
    exact ih (h.step? hstep) hread

theorem Reader.Under.finish? (h : r.Under) (hfinish : Raw.finish? r = some v) :
    r = ⟨[], .done v⟩ := by
  cases h with
  | inside inside =>
    unfold Raw.finish? at hfinish
    split at hfinish
    case h_1 hmode => exact absurd hmode (inside.unfinished _)
    case h_2 hframes => exact absurd hframes inside.enclosed
    case h_3 => cases hfinish
  | done => rw [← Option.some.inj hfinish]

theorem read_brace : ∃ r : Reader, r.Inside ∧ read start ('\x7b' :: cs) = read r cs :=
  ⟨⟨[.object [] none], .firstKey⟩, ⟨List.cons_ne_nil _ _, nofun⟩, read_step rfl⟩

/-- A text with an opening brace is a value if the reader has left the object at its end. -/
theorem ofChars?_brace (h : ofChars? ('\x7b' :: cs) = some v) : ∃ r : Reader, r.Inside ∧
    read start ('\x7b' :: cs) = read r cs ∧ read r cs = some ⟨[], .done v⟩ := by
  obtain ⟨r, inside, hstart⟩ := @read_brace cs
  obtain ⟨last, hread, hfinish⟩ := Option.bind_eq_some_iff.mp h
  have hcs : read r cs = some last := hstart ▸ hread
  have under : last.Under := Reader.Under.read (.inside inside) hcs
  rw [under.finish? hfinish] at hcs
  exact ⟨r, inside, hstart, hcs⟩

/-- If an object and a beginning of it are both values, only blanks are between their ends. -/
theorem blank_of_ofChars? {w : Raw} (hpart : ofChars? ('\x7b' :: cs) = some w)
    (hwhole : ofChars? ('\x7b' :: (cs ++ rest)) = some v) : Blank rest := by
  obtain ⟨r, -, hstart, hread⟩ := ofChars?_brace hpart
  obtain ⟨last, hlast, -⟩ := Option.bind_eq_some_iff.mp hwhole
  have hrest : read start ('\x7b' :: (cs ++ rest)) = some last := hlast
  rw [← List.cons_append, read_after (hstart.trans hread)] at hrest
  exact (read_done hrest).2

/-- The last character of an object that is no blank is its closing brace. -/
theorem getLast?_of_ofChars? {fields : List (Option String × Raw)}
    (h : ofChars? ('\x7b' :: cs) = some (.object fields))
    (hlast : ('\x7b' :: cs).getLast? = some c) (hblank : isSpace c = false) : c = '}' := by
  obtain ⟨r, inside, -, hread⟩ := ofChars?_brace h
  rcases List.eq_nil_or_concat cs with rfl | ⟨init, last, rfl⟩
  · rw [Option.some.inj hread] at inside
    exact absurd rfl (inside.unfinished _)
  · rw [List.concat_eq_append, ← List.cons_append, List.getLast?_concat] at hlast
    obtain rfl := Option.some.inj hlast
    rw [List.concat_eq_append, read_append, Option.bind_eq_some_iff] at hread
    obtain ⟨r', hinit, hend⟩ := hread
    rw [read_cons, Option.bind_eq_some_iff] at hend
    obtain ⟨r'', hstep, hdone⟩ := hend
    obtain rfl := Option.some.inj hdone
    cases Reader.Under.read (.inside inside) hinit with
    | inside inside' =>
      cases step?_leads inside' hstep with
      | inside left => exact absurd rfl (left.unfinished _)
      | out closing => exact closing _ rfl
    | done =>
      rw [(step?_done hstep).2] at hblank
      cases hblank

end Flaky.Json.Raw
