-- SUMMARY: The spellings of a JSON value: its texts with blanks in any place that may have some, of which the compact and the indented text are two.
import Flaky.Json.Raw

/-!
# Spellings of JSON values

A value has many texts, which differ in the blanks between its parts. `Spelled`
derives them. What comes after an item of an array, up to the end of the array, is
a phrase of its own, and so is what comes after a field of an object.
-/

namespace Flaky.Json

/-! ## Spellings -/

inductive Phrase
  | value (json : Json)
  /-- What follows an item of an array. -/
  | items (items : List Json)
  /-- What follows a field of an object. -/
  | fields (fields : List (String × Json))

/-- Characters that say nothing between the parts of a text. -/
def Blank (gap : List Char) : Prop := ∀ c ∈ gap, Raw.isSpace c = true

/-- A key with its value's place after it. -/
def keyed (key : String) (gap gap' : List Char) : List Char := quote key ++ (gap ++ ':' :: gap')

/-- A text spells a phrase; blanks may stand where the text has a gap. -/
inductive Spelled : Phrase → List Char → Prop
  | null : Spelled (.value .null) "null".toList
  | bool (b : Bool) : Spelled (.value (.bool b)) (if b then "true" else "false").toList
  | number (n : Int) : Spelled (.value (.number n)) (toString n).toList
  | string (s : String) : Spelled (.value (.string s)) (quote s)
  | emptyArray {gap : List Char} (blank : Blank gap) :
    Spelled (.value (.array [])) ('[' :: (gap ++ [']']))
  | array {gap text more : List Char} {item : Json} {items : List Json} (blank : Blank gap)
    (first : Spelled (.value item) text) (rest : Spelled (.items items) more) :
    Spelled (.value (.array (item :: items))) ('[' :: (gap ++ (text ++ more)))
  | itemsEnd {gap : List Char} (blank : Blank gap) : Spelled (.items []) (gap ++ [']'])
  | item {gap gap' text more : List Char} {item : Json} {items : List Json} (blank : Blank gap)
    (blank' : Blank gap') (first : Spelled (.value item) text)
    (rest : Spelled (.items items) more) :
    Spelled (.items (item :: items)) (gap ++ ',' :: (gap' ++ (text ++ more)))
  | emptyObject {gap : List Char} (blank : Blank gap) :
    Spelled (.value (.object [])) ('{' :: (gap ++ ['}']))
  | object {gap gap₁ gap₂ text more : List Char} (key : String) {value : Json}
    {fields : List (String × Json)} (blank : Blank gap) (blank₁ : Blank gap₁) (blank₂ : Blank gap₂)
    (first : Spelled (.value value) text) (rest : Spelled (.fields fields) more) :
    Spelled (.value (.object ((key, value) :: fields)))
      ('{' :: (gap ++ (keyed key gap₁ gap₂ ++ (text ++ more))))
  | fieldsEnd {gap : List Char} (blank : Blank gap) : Spelled (.fields []) (gap ++ ['}'])
  | field {gap gap' gap₁ gap₂ text more : List Char} (key : String) {value : Json}
    {fields : List (String × Json)} (blank : Blank gap) (blank' : Blank gap')
    (blank₁ : Blank gap₁) (blank₂ : Blank gap₂) (first : Spelled (.value value) text)
    (rest : Spelled (.fields fields) more) :
    Spelled (.fields ((key, value) :: fields))
      (gap ++ ',' :: (gap' ++ (keyed key gap₁ gap₂ ++ (text ++ more))))

/-! ## Blanks -/

theorem Blank.nil : Blank [] := List.forall_mem_nil _

theorem Blank.newLine (depth : Nat) : Blank (newLine depth) := by
  intro c hc
  rcases List.mem_cons.mp hc with rfl | hc
  · rfl
  · rw [List.eq_of_mem_replicate hc]
    rfl

theorem Blank.space : Blank [' '] := by
  intro c hc
  rw [List.mem_singleton.mp hc]
  rfl

/-! ## The compact text -/

/-- The compact text of items after another. -/
def compactRest (items : List Json) : List Char :=
  match items with
  | [] => []
  | item :: rest => ',' :: compactItems (item :: rest)

theorem compactItems_cons (item : Json) (rest : List Json) :
    compactItems (item :: rest) = compact item ++ compactRest rest := by
  cases rest with
  | nil => rw [compactItems, compactRest, List.append_nil]
  | cons next rest =>
    rw [compactItems, compactRest]
    exact nofun

/-- The compact text of fields after another. -/
def compactLater (fields : List (String × Json)) : List Char :=
  match fields with
  | [] => []
  | field :: rest => ',' :: compactFields (field :: rest)

theorem compactFields_cons (key : String) (value : Json) (rest : List (String × Json)) :
    compactFields ((key, value) :: rest) =
      keyed key [] [] ++ (compact value ++ compactLater rest) := by
  cases rest with
  | nil => simp [compactFields, compactLater, keyed]
  | cons next rest => simp [compactFields, compactLater, keyed]

mutual

theorem compact_spelled (json : Json) : Spelled (.value json) json.compact := by
  match json with
  | .null => exact .null
  | .bool b => exact .bool b
  | .number n => exact .number n
  | .string s => exact .string s
  | .array [] => exact .emptyArray .nil
  | .array (item :: rest) =>
    rw [compact, compactItems_cons, List.append_assoc]
    have h := Spelled.array .nil (compact_spelled item) (compactRest_spelled rest)
    simpa using h
  | .object [] => exact .emptyObject .nil
  | .object ((key, value) :: rest) =>
    rw [compact, compactFields_cons, List.append_assoc, List.append_assoc]
    exact .object key .nil .nil .nil (compact_spelled value) (compactLater_spelled rest)

theorem compactRest_spelled (items : List Json) :
    Spelled (.items items) (compactRest items ++ [']']) := by
  match items with
  | [] => exact .itemsEnd .nil
  | item :: rest =>
    rw [compactRest, compactItems_cons, List.cons_append, List.append_assoc]
    have h := Spelled.item .nil .nil (compact_spelled item) (compactRest_spelled rest)
    simpa using h

theorem compactLater_spelled (fields : List (String × Json)) :
    Spelled (.fields fields) (compactLater fields ++ ['}']) := by
  match fields with
  | [] => exact .fieldsEnd .nil
  | (key, value) :: rest =>
    rw [compactLater, compactFields_cons, List.cons_append, List.append_assoc, List.append_assoc]
    exact .field key .nil .nil .nil .nil (compact_spelled value) (compactLater_spelled rest)

end

/-! ## The indented text -/

mutual

theorem indented_spelled (depth : Nat) (json : Json) :
    Spelled (.value json) (json.indented depth) := by
  match json with
  | .null => exact .null
  | .bool b => exact .bool b
  | .number n => exact .number n
  | .string s => exact .string s
  | .array [] => exact .emptyArray .nil
  | .array (item :: rest) =>
    have h := Spelled.array (.newLine (depth + 1)) (indented_spelled (depth + 1) item)
      (indentedItems_spelled (depth + 1) depth rest)
    simpa [indented] using h
  | .object [] => exact .emptyObject .nil
  | .object ((key, value) :: rest) =>
    have h := Spelled.object key (.newLine (depth + 1)) .nil .space
      (indented_spelled (depth + 1) value) (indentedFields_spelled (depth + 1) depth rest)
    simpa [indented, keyed] using h

/-- The end of an array may be at another depth than its items. -/
theorem indentedItems_spelled (depth outer : Nat) (items : List Json) :
    Spelled (.items items) (indentedItems depth items ++ (newLine outer ++ [']'])) := by
  match items with
  | [] => exact .itemsEnd (.newLine outer)
  | item :: rest =>
    have h := Spelled.item .nil (.newLine depth) (indented_spelled depth item)
      (indentedItems_spelled depth outer rest)
    simpa [indentedItems] using h

theorem indentedFields_spelled (depth outer : Nat) (fields : List (String × Json)) :
    Spelled (.fields fields) (indentedFields depth fields ++ (newLine outer ++ ['}'])) := by
  match fields with
  | [] => exact .fieldsEnd (.newLine outer)
  | (key, value) :: rest =>
    have h := Spelled.field key .nil (.newLine depth) .nil .space
      (indented_spelled depth value) (indentedFields_spelled depth outer rest)
    simpa [indentedFields, keyed] using h

end

end Flaky.Json
