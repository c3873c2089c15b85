-- SUMMARY: Every spelling of a JSON value is read as that value.
import Flaky.Proofs.Json.Spelling
import Flaky.Proofs.Decimal
import Mathlib.Tactic.IntervalCases

/-!
# Reading JSON values back

The reader takes one character at a time, so reading a text is going through the
states of its parts. A value is delivered to the container it is in as soon as it
is complete; a number is complete only with the character after it, which ends it
and is read on its own.
-/

namespace Flaky.Json

/-! ## Values as they are read -/

mutual

/-- What the text of a value says. -/
def toRaw : Json → Raw
  | .null => .null
  | .bool b => .bool b
  | .number n => .number (Decimal.ofInt n)
  | .string s => .string (some s)
  | .array items => .array (toRawItems items)
  | .object fields => .object (toRawFields fields)

def toRawItems : List Json → List Raw
  | [] => []
  | item :: rest => toRaw item :: toRawItems rest

def toRawFields : List (String × Json) → List (Option String × Raw)
  | [] => []
  | (key, value) :: rest => (some key, toRaw value) :: toRawFields rest

end

namespace Raw

/-! ## Going through a text -/

def read (r : Reader) (cs : List Char) : Option Reader := cs.foldlM step? r

section

variable {r r' : Reader} {frames : List Frame} {c : Char} {cs more : List Char}

@[simp] theorem read_nil : read r [] = some r := rfl

theorem read_cons : read r (c :: cs) = (step? r c).bind fun r' => read r' cs := List.foldlM_cons

theorem read_append : read r (cs ++ more) = (read r cs).bind fun r' => read r' more :=
  List.foldlM_append

theorem read_step (h : step? r c = some r') : read r (c :: cs) = read r' cs := by
  rw [read_cons, h, Option.bind_some]

theorem read_after (h : read r cs = some r') : read r (cs ++ more) = read r' more := by
  rw [read_append, h, Option.bind_some]

/-- Where blanks say nothing. -/
def Reader.Idle (r : Reader) : Prop := ∀ c, isSpace c = true → step? r c = some r

theorem Reader.Idle.read (h : r.Idle) (blank : Blank cs) :
    Raw.read r (cs ++ more) = Raw.read r more := by
  induction cs with
  | nil => rfl
  | cons c cs ih =>
    obtain ⟨hc, hcs⟩ := List.forall_mem_cons.mp blank
    rw [List.cons_append, read_step (h c hc), ih hcs]

theorem idle_value : Reader.Idle ⟨frames, .value⟩ := fun c hc => by simp [step?, hc]

theorem idle_firstItem : Reader.Idle ⟨frames, .firstItem⟩ := fun c hc => by simp [step?, hc]

theorem idle_firstKey : Reader.Idle ⟨frames, .firstKey⟩ := fun c hc => by simp [step?, hc]

theorem idle_key : Reader.Idle ⟨frames, .key⟩ := fun c hc => by simp [step?, hc]

theorem idle_colon : Reader.Idle ⟨frames, .colon⟩ := fun c hc => by simp [step?, hc]

theorem idle_separator : Reader.Idle ⟨frames, .separator⟩ := fun c hc => by
  simp [step?, after?, hc]

end

/-! ## Marks -/

section

variable {frames : List Frame} {items : List Raw} {fields : List (Option String × Raw)}
variable {key : Option String}

theorem step?_bracket :
    step? ⟨frames, .value⟩ '[' = some ⟨.array [] :: frames, .firstItem⟩ := rfl

theorem step?_brace :
    step? ⟨frames, .value⟩ '{' = some ⟨.object [] none :: frames, .firstKey⟩ := rfl

theorem step?_colon : step? ⟨frames, .colon⟩ ':' = some ⟨frames, .value⟩ := rfl

theorem step?_nextItem : step? ⟨.array items :: frames, .separator⟩ ',' =
    some ⟨.array items :: frames, .value⟩ := rfl

theorem step?_nextField : step? ⟨.object fields key :: frames, .separator⟩ ',' =
    some ⟨.object fields key :: frames, .key⟩ := rfl

end

/-! ## Complete values -/

/-- What may come after a value. -/
def Delimiter (c : Char) : Prop := isSpace c = true ∨ c = ',' ∨ c = ']' ∨ c = '}'

/-- A value has been read in the innermost of some containers: it is in its place, or it is a number
    that the next character completes. -/
inductive Complete (frames : List Frame) : Raw → Reader → Prop
  | delivered {v : Raw} : Complete frames v (deliver frames v)
  | number {s : NumberState} {d : Decimal} (value : s.value? = some d) :
    Complete frames (.number d) ⟨frames, .number s⟩

section

variable {frames : List Frame} {v : Raw} {r : Reader} {c : Char}

theorem step?_deliver : step? (deliver frames v) c = after? (deliver frames v) c := by
  rcases frames with _ | ⟨_ | _, rest⟩ <;> rfl

/-- No number goes on with a delimiter. -/
theorem NumberState.next?_delimiter {s : NumberState} (hc : Delimiter c) : s.next? c = none := by
  have hchar : c ∈ [' ', '\n', '\t', '\r', ',', ']', '}'] := by
    simpa [Delimiter, isSpace, or_assoc] using hc
  have none : ∀ c ∈ [' ', '\n', '\t', '\r', ',', ']', '}'],
      Text.digit? c = none ∧ c ≠ '.' ∧ c ≠ 'e' ∧ c ≠ 'E' ∧ c ≠ '+' ∧ c ≠ '-' := by
    simp [Text.digit?]
  obtain ⟨hdigit, hpoint, hmark, hMark, hplus, hminus⟩ := none c hchar
  cases h : s.stage <;> simp [next?, h, hdigit, hpoint, hmark, hMark, hplus, hminus]

theorem Complete.step? (h : Complete frames v r) (hc : Delimiter c) :
    Raw.step? r c = Raw.step? (deliver frames v) c := by
  cases h with
  | delivered => rfl
  | number value =>
    rw [step?_deliver, Raw.step?]
    simp only [NumberState.next?_delimiter hc, value, Option.bind_some]

theorem Complete.finish? (h : Complete [] v r) : Raw.finish? r = some v := by
  cases h with
  | delivered => rfl
  | number value => simp [Raw.finish?, value]

end

/-! ## Strings -/

section

variable {frames : List Frame} {isKey : Bool} {units : List StringUnit} {c : Char}

/-- A unit of a string denotes a character, whatever comes after it. -/
def StringUnit.Denotes (unit : StringUnit) (c : Char) : Prop :=
  ∀ rest, textOf? (unit :: rest) = (textOf? rest).map (c :: ·)

theorem StringUnit.char_denotes (c : Char) : (StringUnit.char c).Denotes c := fun _ => rfl

/-- Inside a string. -/
abbrev inside (frames : List Frame) (isKey : Bool) (units : List StringUnit) : Reader :=
  ⟨frames, .string isKey units .plain⟩

theorem StringUnit.unit_denotes {n : Nat} (h : n < 32) :
    (StringUnit.unit n).Denotes (Char.ofNat n) := by
  intro rest
  have high : isHighSurrogate n = false := by
    rw [isHighSurrogate, decide_eq_false (by omega), Bool.false_and]
  have low : isLowSurrogate n = false := by
    rw [isLowSurrogate, decide_eq_false (by omega), Bool.false_and]
  cases rest with
  | nil => simp [textOf?, high, low]
  | cons unit rest => cases unit <;> simp [textOf?, high, low]

theorem hexPair_digits {n : Nat} (h : n < 256) : ∃ a b, hexPair n = [a, b] ∧
    Text.hexDigit? a = some (n / 16) ∧ Text.hexDigit? b = some (n % 16) := by
  have all : ∀ m : Fin 16, Text.hexDigit? (hexDigits.getD m.val '0') = some m.val := by decide
  exact ⟨_, _, rfl, all ⟨n / 16, by omega⟩, all ⟨n % 16, by omega⟩⟩

/-- A character escaped by its code is read as that code. -/
theorem read_code {n : Nat} (h : n < 256) :
    read (inside frames isKey units) ('\\' :: 'u' :: '0' :: '0' :: hexPair n) =
      some (inside frames isKey (.unit n :: units)) := by
  obtain ⟨a, b, hpair, ha, hb⟩ := hexPair_digits h
  have hzero : Text.hexDigit? '0' = some 0 := rfl
  have hn : n / 16 * 16 + n % 16 = n := by omega
  simp [hpair, read_cons, step?, inString?, ha, hb, hzero, hn]

/-- What a character is escaped to is read as one unit for it. -/
theorem read_escape (c : Char) :
    ∃ unit : StringUnit, unit.Denotes c ∧
      read (inside frames isKey units) (escape c) = some (inside frames isKey (unit :: units)) := by
  have code : ∀ {n}, c.toNat = n → c = Char.ofNat n := by
    rintro _ rfl
    exact (Char.ofNat_toNat c).symm
  by_cases hnamed : c ∈ ['"', '\\', '\n', '\r', '\t', Char.ofNat 8, Char.ofNat 12]
  · refine ⟨.char c, StringUnit.char_denotes c, ?_⟩
    simp only [List.mem_cons, List.not_mem_nil, or_false] at hnamed
    rcases hnamed with rfl | rfl | rfl | rfl | rfl | rfl | rfl <;> rfl
  · -- `escape` asks for the codes of these two where it compares the others
    have hplain : ∀ n : Nat, n ∈ [8, 12] → c.toNat ≠ n := by
      rintro n hn heq
      refine hnamed ?_
      rw [code heq]
      rcases List.mem_cons.mp hn with rfl | hn
      · decide
      · rw [List.mem_singleton.mp hn]; decide
    simp only [List.mem_cons, List.not_mem_nil, or_false, not_or] at hnamed
    obtain ⟨hquote, hbackslash, hline, hreturn, htab, -, -⟩ := hnamed
    have h8 := hplain 8 (by decide)
    have h12 := hplain 12 (by decide)
    by_cases hcode : c.toNat < 32
    · refine ⟨.unit c.toNat, ?_, ?_⟩
      · have := StringUnit.unit_denotes hcode
        rwa [Char.ofNat_toNat] at this
      · simp only [escape, hquote, hbackslash, hline, hreturn, htab, h8, h12, hcode, if_true,
          if_false]
        exact read_code (by omega)
    · refine ⟨.char c, StringUnit.char_denotes c, ?_⟩
      simp only [escape, hquote, hbackslash, hline, hreturn, htab, h8, h12, hcode, if_false]
      simp [read_cons, step?, inString?, hquote, hbackslash, hcode]

theorem read_escapes (cs : List Char) :
    ∃ added, read (inside frames isKey units) (cs.flatMap escape) =
        some (inside frames isKey (added ++ units)) ∧
      textOf? added.reverse = some cs := by
  induction cs generalizing units with
  | nil => exact ⟨[], rfl, rfl⟩
  | cons c cs ih =>
    obtain ⟨unit, denotes, hread⟩ := @read_escape frames isKey units c
    obtain ⟨added, hrest, htext⟩ := @ih (unit :: units)
    refine ⟨added ++ [unit], ?_, ?_⟩
    · rw [List.flatMap_cons, read_after hread, hrest, List.append_cons]
    · rw [List.reverse_concat, denotes, htext, Option.map_some]

/-- A string is read to its end. -/
theorem read_string (s : String) : ∃ units, (textOf? units.reverse).map String.ofList = some s ∧
    read (inside frames isKey []) (s.toList.flatMap escape ++ ['"']) =
      some (endString frames isKey units) := by
  obtain ⟨added, hread, htext⟩ := @read_escapes frames isKey [] s.toList
  refine ⟨added, by rw [htext, Option.map_some, String.ofList_toList], ?_⟩
  rw [read_after hread, List.append_nil]
  rfl

theorem read_quote (s : String) :
    read ⟨frames, .value⟩ (quote s) = some (deliver frames (.string (some s))) := by
  obtain ⟨units, hs, hread⟩ := @read_string frames false s
  rw [quote, read_step (show step? _ '"' = some (inside frames false []) from rfl), hread]
  simp [endString, hs]

/-- A key goes to the object that it is in. -/
theorem read_key {fields : List (Option String × Raw)} {key : Option String} (s : String) :
    read (inside (.object fields key :: frames) true []) (s.toList.flatMap escape ++ ['"']) =
      some ⟨.object fields (some s) :: frames, .colon⟩ := by
  obtain ⟨units, hs, hread⟩ := @read_string (.object fields key :: frames) true s
  rw [hread]
  simp [endString, hs]

end

/-! ## Numbers and words -/

section

variable {frames : List Frame}

/-- What the reader is at after the digits of a number. -/
def afterDigits (frames : List Frame) (negative : Bool) (n : Nat) : Reader :=
  ⟨frames, .number ⟨if n = 0 then .zero else .integer, negative, n, 0, false, 0⟩⟩

/-- Digits are read where the first of them may be read. -/
theorem read_digits {r : Reader} {negative : Bool} (n : Nat)
    (first : ∀ d < 10, step? r (Nat.digitChar d) = some (afterDigits frames negative d)) :
    read r (Nat.toDigits 10 n) = some (afterDigits frames negative n) := by
  induction n using Nat.strongRecOn with
  | ind n ih =>
    by_cases hn : n < 10
    · rw [Nat.toDigits_of_lt_base hn, read_step (first n hn), read_nil]
    · have hdigit : ∀ d : Fin 10, Text.digit? (Nat.digitChar d) = some d.val := by decide
      have hlast : Text.digit? (Nat.digitChar (n % 10)) = some (n % 10) :=
        hdigit ⟨n % 10, by omega⟩
      -- no zero leads, so the digits before the last are not read as the number 0
      have hne : n ≠ 0 := by omega
      have hleft : n / 10 ≠ 0 := by omega
      have hvalue : n / 10 * 10 + n % 10 = n := by omega
      rw [Nat.toDigits_of_base_le (by decide) (by omega), read_after (ih (n / 10) (by omega))]
      simp [afterDigits, read_cons, step?, NumberState.next?, hlast, hleft, hvalue, hne]

theorem step?_digit {d : Nat} (h : d < 10) :
    step? ⟨frames, .value⟩ (Nat.digitChar d) = some (afterDigits frames false d) := by
  interval_cases d <;> rfl

theorem step?_digit_negative {d : Nat} (h : d < 10) :
    step? ⟨frames, .number ⟨.sign, true, 0, 0, false, 0⟩⟩ (Nat.digitChar d) =
      some (afterDigits frames true d) := by
  interval_cases d <;> rfl

theorem complete_afterDigits (frames : List Frame) (negative : Bool) (n : Nat) :
    Complete frames (.number ⟨negative, n, 0, true⟩) (afterDigits frames negative n) := by
  by_cases h : n = 0 <;> exact .number (by simp [NumberState.value?, h])

theorem read_number (n : Int) : ∃ r, read ⟨frames, .value⟩ (toString n).toList = some r ∧
    Complete frames (.number (Decimal.ofInt n)) r := by
  cases n with
  | ofNat n =>
    have htext : (toString (Int.ofNat n)).toList = Nat.toDigits 10 n := Text.toList_toString n
    rw [htext]
    exact ⟨_, read_digits n fun d => step?_digit, complete_afterDigits frames false n⟩
  | negSucc n =>
    have hraw : Decimal.ofInt (Int.negSucc n) = ⟨true, n + 1, 0, true⟩ := by simp [Decimal.ofInt]
    have hsign : step? ⟨frames, .value⟩ '-' =
        some ⟨frames, .number ⟨.sign, true, 0, 0, false, 0⟩⟩ := rfl
    rw [Text.toList_toString_negSucc, read_step hsign, hraw]
    exact ⟨_, read_digits (n + 1) fun d => step?_digit_negative,
      complete_afterDigits frames true (n + 1)⟩

end

/-! ## Spellings -/

/-- A phrase is read so, wherever it stands. -/
def Reads (text : List Char) : Phrase → Prop
  | .value json => ∀ frames, ∃ r, read ⟨frames, .value⟩ text = some r ∧
      Complete frames json.toRaw r
  | .items items => ∀ frames before, read ⟨.array before :: frames, .separator⟩ text =
      some (deliver frames (.array (before.reverse ++ toRawItems items)))
  | .fields fields => ∀ frames before key, read ⟨.object before key :: frames, .separator⟩ text =
      some (deliver frames (.object (before.reverse ++ toRawFields fields)))

section

variable {frames : List Frame} {text more gap gap₁ gap₂ : List Char} {json : Json} {c : Char}

theorem exists_delimiter (blank : Blank gap) (hc : Delimiter c) :
    ∃ c' rest, gap ++ c :: more = c' :: rest ∧ Delimiter c' := by
  cases gap with
  | nil => exact ⟨c, more, rfl, hc⟩
  | cons c' gap => exact ⟨c', gap ++ c :: more, rfl, .inl (blank c' List.mem_cons_self)⟩

/-- What follows a value begins with a delimiter. -/
theorem delimiter_of_spelled {phrase : Phrase} (h : Spelled phrase text)
    (hvalue : ∀ json, phrase ≠ .value json) : ∃ c rest, text = c :: rest ∧ Delimiter c := by
  cases h with
  | null | bool | number | string | emptyArray | array | emptyObject | object =>
    exact absurd rfl (hvalue _)
  | itemsEnd blank => exact exists_delimiter blank (.inr (.inr (.inl rfl)))
  | fieldsEnd blank => exact exists_delimiter blank (.inr (.inr (.inr rfl)))
  | item blank => exact exists_delimiter blank (.inr (.inl rfl))
  | field _ blank => exact exists_delimiter blank (.inr (.inl rfl))

/-- A value begins with what may begin an item. -/
theorem value_head (h : Spelled (.value json) text) :
    ∃ c rest, text = c :: rest ∧ isSpace c = false ∧ c ≠ ']' := by
  cases h with
  | null => exact ⟨_, _, rfl, by decide⟩
  | bool b => cases b <;> exact ⟨_, _, rfl, by decide⟩
  | string s => exact ⟨'"', _, rfl, by decide⟩
  | emptyArray | array => exact ⟨'[', _, rfl, by decide⟩
  | emptyObject | object => exact ⟨'{', _, rfl, by decide⟩
  | number n =>
    cases n with
    | ofNat n =>
      obtain ⟨c, rest, hcs⟩ := List.exists_cons_of_ne_nil (@Nat.toDigits_ne_nil n 10)
      have hdigit : c.isDigit := Nat.isDigit_of_mem_toDigits (by decide) (by decide)
        (hcs ▸ List.mem_cons_self)
      refine ⟨c, rest, (Text.toList_toString n).trans hcs, ?_, ?_⟩
      · by_contra hspace
        simp only [Bool.not_eq_false, isSpace, Bool.or_eq_true, beq_iff_eq, or_assoc] at hspace
        rcases hspace with rfl | rfl | rfl | rfl <;> exact absurd hdigit (by decide)
      · rintro rfl
        exact absurd hdigit (by decide)
    | negSucc n => exact ⟨'-', _, Text.toList_toString_negSucc n, by decide⟩

/-- The text of a value is read to its end, and what follows from where the value has its place. -/
theorem read_value_then (h : Reads text (.value json))
    (hmore : ∃ c rest, more = c :: rest ∧ Delimiter c) :
    read ⟨frames, .value⟩ (text ++ more) = read (deliver frames json.toRaw) more := by
  obtain ⟨r, hread, complete⟩ := h frames
  obtain ⟨c, rest, rfl, hc⟩ := hmore
  rw [read_after hread, read_cons, complete.step? hc, ← read_cons]

/-- The first item of an array is read as any other. -/
theorem read_firstItem (h : Spelled (.value json) text) :
    read ⟨frames, .firstItem⟩ (text ++ more) = read ⟨frames, .value⟩ (text ++ more) := by
  obtain ⟨c, rest, rfl, hspace, hc⟩ := value_head h
  have hstep : step? ⟨frames, .firstItem⟩ c = step? ⟨frames, .value⟩ c := by
    simp [step?, hspace, hc]
  rw [List.cons_append, read_cons, hstep, ← read_cons]

/-- A key is read where a key may be, with the colon after it. -/
theorem read_keyed {mode : Mode} {fields : List (Option String × Raw)} {before : Option String}
    (key : String) (blank₁ : Blank gap₁) (blank₂ : Blank gap₂)
    (hmode : step? ⟨.object fields before :: frames, mode⟩ '"' =
      some (inside (.object fields before :: frames) true [])) :
    read ⟨.object fields before :: frames, mode⟩ (keyed key gap₁ gap₂ ++ more) =
      read ⟨.object fields (some key) :: frames, .value⟩ more := by
  rw [keyed, quote, List.append_assoc, List.cons_append, read_step hmode, read_after (read_key key),
    List.append_assoc, idle_colon.read blank₁, List.cons_append,
    read_step step?_colon, idle_value.read blank₂]

theorem Spelled.reads {phrase : Phrase} (h : Spelled phrase text) : Reads text phrase := by
  -- a container keeps what it has so far in reverse, so each item goes in front of it
  induction h with
  | null => exact fun frames => ⟨_, rfl, .delivered⟩
  | bool b => exact fun frames => ⟨_, by cases b <;> rfl, .delivered⟩
  | number n => exact fun frames => read_number n
  | string s => exact fun frames => ⟨_, read_quote s, .delivered⟩
  | emptyArray blank =>
    intro frames
    refine ⟨_, ?_, .delivered⟩
    rw [read_step step?_bracket, idle_firstItem.read blank]
    rfl
  | @array gap text more item items blank first rest ihFirst ihRest =>
    intro frames
    refine ⟨_, ?_, .delivered⟩
    rw [read_step step?_bracket, idle_firstItem.read blank, read_firstItem first,
      read_value_then ihFirst (delimiter_of_spelled rest nofun)]
    exact ihRest frames [item.toRaw]
  | itemsEnd blank =>
    intro frames before
    rw [idle_separator.read blank, toRawItems, List.append_nil]
    rfl
  | @item gap gap' text more item items blank blank' first rest ihFirst ihRest =>
    intro frames before
    rw [idle_separator.read blank, read_step step?_nextItem,
      idle_value.read blank', read_value_then ihFirst (delimiter_of_spelled rest nofun)]
    have hrest := ihRest frames (item.toRaw :: before)
    rw [List.reverse_cons, List.append_assoc] at hrest
    exact hrest
  | emptyObject blank =>
    intro frames
    refine ⟨_, ?_, .delivered⟩
    rw [read_step step?_brace, idle_firstKey.read blank]
    rfl
  | @object gap gap₁ gap₂ text more key value fields blank blank₁ blank₂ first rest ihFirst
      ihRest =>
    intro frames
    refine ⟨_, ?_, .delivered⟩
    rw [read_step step?_brace, idle_firstKey.read blank,
      read_keyed key blank₁ blank₂ rfl, read_value_then ihFirst (delimiter_of_spelled rest nofun)]
    exact ihRest frames [(some key, value.toRaw)] (some key)
  | fieldsEnd blank =>
    intro frames before key
    rw [idle_separator.read blank, toRawFields, List.append_nil]
    rfl
  | @field gap gap' gap₁ gap₂ text more key value fields blank blank' blank₁ blank₂ first rest
      ihFirst ihRest =>
    intro frames before last
    rw [idle_separator.read blank, read_step step?_nextField,
      idle_key.read blank', read_keyed key blank₁ blank₂ rfl,
      read_value_then ihFirst (delimiter_of_spelled rest nofun)]
    have hrest := ihRest frames ((some key, value.toRaw) :: before) (some key)
    rw [List.reverse_cons, List.append_assoc] at hrest
    exact hrest

/-- Every spelling of a value is read as what the value says. -/
theorem ofChars?_of_spelled (h : Spelled (.value json) text) : ofChars? text = some json.toRaw := by
  obtain ⟨r, hread, complete⟩ := Spelled.reads h []
  have hfold : text.foldlM step? start = some r := hread
  rw [ofChars?, hfold, Option.bind_some, complete.finish?]

end

end Raw

/-! ## Texts -/

/-- The compact text of a value is read as what the value says. -/
theorem ofText?_compactText (json : Json) : Raw.ofText? json.compactText = some json.toRaw := by
  rw [Raw.ofText?, compactText, String.toList_ofList, Raw.ofChars?_of_spelled json.compact_spelled]

theorem ofText?_indentedText (json : Json) : Raw.ofText? json.indentedText = some json.toRaw := by
  rw [Raw.ofText?, indentedText, String.toList_ofList,
    Raw.ofChars?_of_spelled (indented_spelled 0 json)]

end Flaky.Json
