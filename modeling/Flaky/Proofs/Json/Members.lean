-- SUMMARY: An object is the texts of its members with commas between them: each is read by itself, in any order and company.
import Flaky.Proofs.Json.Context

/-!
# Members of objects

A member of an object is a text that is read alone, between braces, as one field. The
reader comes to the end of the first field at a comma or brace, or a number has ended
there; so every object with fields splits into members, and members that are put
together with commas are read as the object of their fields.
-/

namespace Flaky.Json.Raw

/-! ## The first field -/

/-- No value has just ended, and none that is empty can end here. -/
def Mode.Unended : Mode → Prop
  | .firstKey | .separator => False
  | _ => True

/-- The outermost container is an object that has no field yet, and is not at its end. -/
inductive Reader.Amid : Reader → Prop
  | mk {inner : List Frame} {key : Option String} {mode : Mode}
    (unended : inner = [] → mode.Unended) : Amid ⟨inner ++ [.object [] key], mode⟩

/-- After its first field an object goes on as after any value. -/
def Reader.Settled (field : Option String × Raw) (key : Option String) (r : Reader) : Prop :=
  ∀ c, Delimiter c → step? r c = step? ⟨[.object [field] key], .separator⟩ c

section

variable {r r' : Reader} {frame : Frame} {inner : List Frame} {key : Option String} {mode : Mode}
variable {c : Char} {v : Raw} {field : Option String × Raw}

/-- Inside the first field, or right after it. -/
inductive Reader.Early : Reader → Prop
  | amid {r : Reader} (amid : r.Amid) : Early r
  | ended {field : Option String × Raw} {key : Option String} :
    Early ⟨[.object [field] key], .separator⟩

theorem Reader.Early.enclosed (h : r.Early) : r.frames ≠ [] := by
  cases h with
  | amid amid =>
    cases amid
    exact List.append_ne_nil_of_right_ne_nil _ (List.cons_ne_nil _ _)
  | ended => exact List.cons_ne_nil _ _

theorem Reader.Amid.nested :
    Reader.Amid ⟨frame :: (inner ++ [.object [] key]), mode⟩ :=
  @Reader.Amid.mk (frame :: inner) _ _ fun h => absurd h (List.cons_ne_nil _ _)

theorem deliver_early (inner : List Frame) : (deliver (inner ++ [.object [] key]) v).Early := by
  cases inner with
  | nil => exact .ended
  | cons frame inner => cases frame <;> exact .amid .nested

theorem begin?_amid (h : begin? (inner ++ [.object [] key]) c = some r) : r.Amid := by
  unfold begin? at h
  repeat' split at h
  case isFalse =>
    obtain ⟨s, -, rfl⟩ := Option.map_eq_some_iff.mp h
    exact .mk fun _ => trivial
  all_goals
    rw [← Option.some.inj h]
    first
    | exact .mk fun _ => trivial
    | exact .nested

theorem close?_early (h : close? (frame :: (inner ++ [.object [] key])) c = some r) : r.Early := by
  cases frame with
  | array items | object fields key =>
    simp only [close?] at h
    split at h
    · exact Option.some.inj h ▸ deliver_early inner
    · cases h

theorem after?_early (h : after? ⟨frame :: (inner ++ [.object [] key]), mode⟩ c = some r) :
    r.Early := by
  unfold after? at h
  split at h
  · exact Option.some.inj h ▸ .amid .nested
  · split at h
    · split at h
      · cases frame <;> exact Option.some.inj h ▸ .amid .nested
      · exact close?_early h
    · cases h

theorem endString_early {isKey : Bool} {units : List StringUnit} :
    (endString (inner ++ [.object [] key]) isKey units).Early := by
  cases isKey with
  | false => exact deliver_early inner
  | true =>
    rcases inner with _ | ⟨_ | _, inner⟩
    · exact .amid (@Reader.Amid.mk [] _ _ fun _ => trivial)
    all_goals exact .amid .nested

theorem inString?_early {isKey : Bool} {units : List StringUnit} {escape : EscapeState}
    (h : inString? (inner ++ [.object [] key]) isKey units escape c = some r) : r.Early := by
  have stay : ∀ {units escape},
      Reader.Early ⟨inner ++ [.object [] key], .string isKey units escape⟩ :=
    .amid (.mk fun _ => trivial)
  unfold inString? at h
  split at h
  case h_1 =>
    repeat' split at h
    · exact Option.some.inj h ▸ endString_early
    · exact Option.some.inj h ▸ stay
    · cases h
    · exact Option.some.inj h ▸ stay
  case h_2 =>
    split at h
    · exact Option.some.inj h ▸ stay
    · obtain ⟨e, -, rfl⟩ := Option.map_eq_some_iff.mp h
      exact stay
  case h_3 =>
    obtain ⟨d, -, rfl⟩ := Option.map_eq_some_iff.mp h
    split <;> exact stay

theorem after?_delimiter (h : after? r c = some r') : Delimiter c := by
  unfold after? at h
  split at h
  case isTrue hspace => exact .inl hspace
  case isFalse =>
    split at h
    · split at h
      case isTrue hcomma => exact .inr (.inl hcomma)
      case isFalse =>
        unfold close? at h
        split at h
        · split at h
          case isTrue hbracket => exact .inr (.inr (.inl hbracket))
          case isFalse => cases h
        · split at h
          case isTrue hbrace => exact .inr (.inr (.inr hbrace))
          case isFalse => cases h
        · cases h
    · cases h

/-- A number goes on, or it has ended before the character: then it is the first field, or something
    in it. -/
theorem step?_number {s : NumberState}
    (hstep : step? ⟨inner ++ [.object [] key], .number s⟩ c = some r') :
    r'.Early ∨ Delimiter c ∧ ∃ field key',
      Reader.Settled field key' ⟨inner ++ [.object [] key], .number s⟩ := by
  cases hnext : s.next? c with
  | some s' =>
    simp only [step?, hnext] at hstep
    exact .inl (Option.some.inj hstep ▸ .amid (.mk fun _ => trivial))
  | none =>
    simp only [step?, hnext] at hstep
    obtain ⟨d, hd, hafter⟩ := Option.bind_eq_some_iff.mp hstep
    cases inner with
    | nil =>
      exact .inr ⟨after?_delimiter hafter, (key, .number d), key,
        fun c' hc' => (Complete.number hd).step? hc'⟩
    | cons frame inner =>
      left
      cases frame <;> exact after?_early hafter

/-- Inside the first field a reader stays there, or comes to its end, or the field is a number and
    has ended already. -/
theorem Reader.Amid.step? (h : r.Amid) (hstep : Raw.step? r c = some r') :
    r'.Early ∨ Delimiter c ∧ ∃ field key, r.Settled field key := by
  obtain @⟨inner, key, mode, unended⟩ := h
  have stay : ∀ {mode : Mode}, mode.Unended → Reader.Early ⟨inner ++ [.object [] key], mode⟩ :=
    fun unended => .amid (.mk fun _ => unended)
  cases mode with
  | value =>
    left
    simp only [Raw.step?] at hstep
    split at hstep
    · exact Option.some.inj hstep ▸ stay trivial
    · exact .amid (begin?_amid hstep)
  | firstItem =>
    left
    simp only [Raw.step?] at hstep
    split at hstep
    · exact Option.some.inj hstep ▸ stay trivial
    · split at hstep
      case isTrue hbracket =>
        cases inner with
        | nil =>
          rw [hbracket] at hstep
          cases hstep
        | cons frame inner => exact close?_early hstep
      case isFalse => exact .amid (begin?_amid hstep)
  | firstKey =>
    left
    cases inner with
    | nil => exact (unended rfl).elim
    | cons frame inner =>
      simp only [Raw.step?] at hstep
      repeat' split at hstep
      · exact Option.some.inj hstep ▸ .amid .nested
      · exact Option.some.inj hstep ▸ .amid .nested
      · exact close?_early hstep
  | key | colon =>
    left
    simp only [Raw.step?] at hstep
    repeat' split at hstep
    · exact Option.some.inj hstep ▸ stay trivial
    · exact Option.some.inj hstep ▸ stay trivial
    · cases hstep
  | separator =>
    left
    cases inner with
    | nil => exact (unended rfl).elim
    | cons frame inner => exact after?_early hstep
  | done result =>
    left
    simp only [Raw.step?, after?] at hstep
    split at hstep
    · exact Option.some.inj hstep ▸ stay trivial
    · cases hstep
  | string isKey units escape => exact .inl (inString?_early hstep)
  | number s => exact step?_number hstep
  | word left meaning =>
    cases left with
    | nil => cases hstep
    | cons w left =>
      simp only [Raw.step?] at hstep
      repeat' split at hstep
      · exact .inl (Option.some.inj hstep ▸ deliver_early inner)
      · exact .inl (Option.some.inj hstep ▸ stay trivial)
      · cases hstep

/-- A delimiter after the first field is a blank, or leads to the next field or out. -/
theorem Reader.Settled.step? (settled : r.Settled field key) (hc : Delimiter c)
    (hstep : Raw.step? r c = some r') :
    (isSpace c = true ∧ r' = ⟨[.object [field] key], .separator⟩) ∨
      (c = ',' ∧ r' = ⟨[.object [field] key], .key⟩) ∨
      (c = '}' ∧ r' = ⟨[], .done (.object [field])⟩) := by
  rw [settled c hc] at hstep
  rcases hc with hspace | rfl | rfl | rfl
  · rw [idle_separator c hspace] at hstep
    exact .inl ⟨hspace, (Option.some.inj hstep).symm⟩
  · exact .inr (.inl ⟨rfl, (Option.some.inj hstep).symm⟩)
  · cases hstep
  · exact .inr (.inr ⟨rfl, (Option.some.inj hstep).symm⟩)

/-- A text has the first field up to a comma or brace. -/
def Reader.Splits (r : Reader) (cs : List Char) : Prop :=
  ∃ text c rest r' field key, cs = text ++ c :: rest ∧ read r text = some r' ∧
    r'.Settled field key ∧ (c = ',' ∨ c = '}')

theorem Reader.Early.splits {cs : List Char} (early : r.Early)
    (hread : read r cs = some ⟨[], .done v⟩) : r.Splits cs := by
  induction cs generalizing r with
  | nil =>
    obtain rfl := Option.some.inj hread
    exact absurd rfl early.enclosed
  | cons c cs ih =>
    rw [read_cons, Option.bind_eq_some_iff] at hread
    obtain ⟨next, hstep, hread⟩ := hread
    have later : next.Early → r.Splits (c :: cs) := by
      intro hnext
      obtain ⟨text, c', rest, r', field, key, rfl, htext, settled, hc'⟩ := ih hnext hread
      exact ⟨c :: text, c', rest, r', field, key, rfl, (read_step hstep).trans htext, settled, hc'⟩
    have here : ∀ {field key}, Delimiter c → r.Settled field key → r.Splits (c :: cs) := by
      intro field key hc settled
      rcases settled.step? hc hstep with ⟨-, rfl⟩ | ⟨hc, -⟩ | ⟨hc, -⟩
      · exact later .ended
      · exact ⟨[], c, cs, r, field, key, rfl, rfl, settled, .inl hc⟩
      · exact ⟨[], c, cs, r, field, key, rfl, rfl, settled, .inr hc⟩
    cases early with
    | ended => exact here (after?_delimiter hstep) fun _ _ => rfl
    | amid amid =>
      rcases amid.step? hstep with hnext | ⟨hc, field, key, settled⟩
      · exact later hnext
      · exact here hc settled

end

section

variable {key : Option String} {field : Option String × Raw} {fields : List (Option String × Raw)}
variable {cs text gap : List Char}

/-- Where a key must follow, an object goes on with a field, and ends after it or goes on with the
    others. -/
theorem read_fields (hread : read ⟨[.object [] key], .key⟩ cs = some ⟨[], .done (.object fields)⟩) :
    ∃ text r field key', read ⟨[.object [] key], .key⟩ text = some r ∧ r.Settled field key' ∧
      ((∃ gap, cs = text ++ '}' :: gap ∧ Blank gap ∧ fields = [field]) ∨
        ∃ rest others, cs = text ++ ',' :: rest ∧ fields = field :: others ∧
          read ⟨[.object [] key'], .key⟩ rest = some ⟨[], .done (.object others)⟩) := by
  have early : Reader.Early ⟨[.object [] key], .key⟩ :=
    .amid (@Reader.Amid.mk [] key .key fun _ => trivial)
  obtain ⟨text, c, rest, r, field, key', rfl, htext, settled, hc⟩ := early.splits hread
  refine ⟨text, r, field, key', htext, settled, ?_⟩
  rw [read_after htext, read_cons] at hread
  rcases hc with rfl | rfl
  · right
    have keyed : Reader.Inside ⟨[.object [] key'], .key⟩ := ⟨List.cons_ne_nil _ _, nofun⟩
    have hover : Reader.over [field] ⟨[.object [] key'], .key⟩ = ⟨[.object [field] key'], .key⟩ :=
      rfl
    rw [settled ',' (.inr (.inl rfl)), step?_nextField, Option.bind_some, ← hover,
      read_over (.inside keyed), Option.map_eq_some_iff] at hread
    obtain ⟨last, hlast, hdone⟩ := hread
    obtain ⟨others, rfl, rfl⟩ := over_eq_done hdone
    exact ⟨rest, others, rfl, rfl, hlast⟩
  · left
    rw [settled '}' (.inr (.inr (.inr rfl)))] at hread
    obtain ⟨hdone, blank⟩ := read_done hread
    exact ⟨rest, rfl, blank, Raw.object.inj (Mode.done.inj (Reader.mk.inj hdone).2)⟩

/-- A text with an opening brace is an object with fields if it is read so from the first key on. -/
theorem ofChars?_fields_iff (h : fields ≠ []) : ofChars? ('{' :: cs) = some (.object fields) ↔
    read ⟨[.object [] key], .key⟩ cs = some ⟨[], .done (.object fields)⟩ := by
  have hstep : read start ('{' :: cs) = read ⟨[.object [] none], .firstKey⟩ cs := read_step rfl
  rw [← read_firstKey_iff (fun hempty => h (Raw.object.inj hempty)), ← hstep]
  constructor
  · intro htext
    obtain ⟨r, -, hstart, hread⟩ := ofChars?_brace htext
    rw [hstart, hread]
  · intro hread
    have hfold : ('{' :: cs).foldlM step? start = some ⟨[], .done (.object fields)⟩ := hread
    rw [ofChars?, hfold]
    rfl

end

/-! ## Members -/

/-- The text of a member of an object: alone between braces it is read as one field. -/
structure Member where
  text : List Char
  field : Option String × Raw
  reads : ofChars? ('{' :: (text ++ ['}'])) = some (.object [field])

/-- The text of an object with these members. -/
def objectText (members : List Member) : List Char :=
  '{' :: ([','].intercalate (members.map Member.text) ++ ['}'])

section

variable {key : Option String} {fields before : List (Option String × Raw)}
variable {cs gap : List Char}

/-- Wherever a member stands, its text is read up to what ends it. -/
theorem Member.settles (m : Member) (key : Option String) : ∃ r key',
    read ⟨[.object [] key], .key⟩ m.text = some r ∧ r.Settled m.field key' := by
  obtain ⟨text, r, field, key', htext, settled, hend⟩ :=
    read_fields ((ofChars?_fields_iff (List.cons_ne_nil _ _)).mp m.reads)
  rcases hend with ⟨gap, hcs, blank, hfield⟩ | ⟨rest, others, -, hfields, hread⟩
  · obtain rfl := (List.cons.inj hfield).1
    rcases List.eq_nil_or_concat gap with rfl | ⟨init, last, rfl⟩
    · rw [List.append_cancel_right hcs]
      exact ⟨r, key', htext, settled⟩
    · have hlast := congrArg List.getLast? hcs
      rw [List.concat_eq_append, ← List.cons_append, ← List.append_assoc, List.getLast?_concat,
        List.getLast?_concat] at hlast
      have hspace := blank last (by simp)
      rw [← Option.some.inj hlast] at hspace
      cases hspace
  · obtain ⟨-, rfl⟩ := List.cons.inj hfields
    obtain ⟨_, _, _, _, _, _, ⟨_, _, _, hnil⟩ | ⟨_, _, _, hnil, _⟩⟩ := read_fields hread
    · cases hnil
    · cases hnil

theorem Member.read_then (m : Member) (key : Option String) : ∃ key', ∀ before c more,
    Delimiter c → read ⟨[.object before key], .key⟩ (m.text ++ c :: more) =
      read ⟨[.object (m.field :: before) key'], .separator⟩ (c :: more) := by
  obtain ⟨r, key', htext, settled⟩ := m.settles key
  refine ⟨key', fun before c more hc => ?_⟩
  have keyed : Reader.Inside ⟨[.object [] key], .key⟩ := ⟨List.cons_ne_nil _ _, nofun⟩
  have ended : Reader.Inside ⟨[.object [m.field] key'], .separator⟩ :=
    ⟨List.cons_ne_nil _ _, nofun⟩
  have alone : read ⟨[.object [] key], .key⟩ (m.text ++ c :: more) =
      read ⟨[.object [m.field] key'], .separator⟩ (c :: more) := by
    rw [read_after htext, read_cons, settled c hc, ← read_cons]
  exact (read_over (.inside keyed)).trans
    ((congrArg (Option.map (Reader.over before)) alone).trans (read_over (.inside ended)).symm)

theorem read_members {m : Member} {members : List Member} (blank : Blank gap) :
    read ⟨[.object before key], .key⟩
        ([','].intercalate ((m :: members).map Member.text) ++ '}' :: gap) =
      some ⟨[], .done (.object (before.reverse ++ (m :: members).map Member.field))⟩ := by
  induction members generalizing m before key with
  | nil =>
    obtain ⟨key', hread⟩ := m.read_then key
    have hclose : step? ⟨[.object (m.field :: before) key'], .separator⟩ '}' =
        some ⟨[], .done (.object (m.field :: before).reverse)⟩ := rfl
    rw [List.map_singleton, List.intercalate_singleton,
      hread before '}' gap (.inr (.inr (.inr rfl))), read_step hclose, List.reverse_cons,
      ← List.append_nil gap, idle_done.read blank]
    rfl
  | cons next members ih =>
    obtain ⟨key', hread⟩ := m.read_then key
    rw [List.map_cons, List.intercalate_cons_of_ne_nil (by simp), List.append_assoc,
      List.append_assoc, List.singleton_append, hread before ',' _ (.inr (.inl rfl)),
      read_step step?_nextField, ih, List.reverse_cons, List.append_assoc]
    rfl

/-- The text of an object has the fields of its members, in order. -/
theorem ofChars?_objectText {members : List Member} (hne : members ≠ []) (blank : Blank gap) :
    ofChars? (objectText members ++ gap) = some (.object (members.map Member.field)) := by
  obtain ⟨m, members, rfl⟩ := List.exists_cons_of_ne_nil hne
  have hread := @read_members none [] gap m members blank
  rw [List.reverse_nil, List.nil_append] at hread
  rw [objectText, List.cons_append, List.append_assoc, List.singleton_append]
  exact (ofChars?_fields_iff (List.cons_ne_nil _ _)).mpr hread

theorem exists_members_of_read
    (hread : read ⟨[.object [] key], .key⟩ cs = some ⟨[], .done (.object fields)⟩) :
    ∃ (members : List Member) (gap : List Char), members ≠ [] ∧
      cs = [','].intercalate (members.map Member.text) ++ '}' :: gap ∧ Blank gap ∧
      members.map Member.field = fields := by
  induction fields generalizing key cs with
  | nil =>
    obtain ⟨_, _, _, _, _, _, ⟨_, _, _, hnil⟩ | ⟨_, _, _, hnil, _⟩⟩ := read_fields hread
    · cases hnil
    · cases hnil
  | cons field fields ih =>
    obtain ⟨text, r, field', key', htext, settled, hend⟩ := read_fields hread
    have reads : ofChars? ('{' :: (text ++ ['}'])) = some (.object [field']) := by
      rw [ofChars?_fields_iff (List.cons_ne_nil _ _), read_after htext, read_cons,
        settled '}' (.inr (.inr (.inr rfl)))]
      rfl
    rcases hend with ⟨gap, rfl, blank, hfields⟩ | ⟨rest, others, rfl, hfields, hrest⟩
    · refine ⟨[⟨text, field', reads⟩], gap, List.cons_ne_nil _ _, ?_, blank, hfields.symm⟩
      rw [List.map_singleton, List.intercalate_singleton]
    · obtain ⟨rfl, rfl⟩ := List.cons.inj hfields
      obtain ⟨members, gap, hne, rfl, blank, rfl⟩ := ih hrest
      refine ⟨⟨text, field, reads⟩ :: members, gap, List.cons_ne_nil _ _, ?_, blank, rfl⟩
      rw [List.map_cons, List.intercalate_cons_of_ne_nil (by simpa using hne), List.append_assoc,
        List.append_assoc, List.singleton_append]

/-- An object with fields is the text of members with these fields, but for the blanks after it. -/
theorem exists_members (hne : fields ≠ []) (h : ofChars? ('{' :: cs) = some (.object fields)) :
    ∃ members gap, '{' :: cs = objectText members ++ gap ∧ Blank gap ∧
      members.map Member.field = fields := by
  obtain ⟨members, gap, -, rfl, blank, hfields⟩ :=
    exists_members_of_read ((@ofChars?_fields_iff none _ _ hne).mp h)
  refine ⟨members, gap, ?_, blank, hfields⟩
  rw [objectText, List.cons_append, List.append_assoc, List.singleton_append]

end

end Flaky.Json.Raw
