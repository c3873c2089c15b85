-- SUMMARY: What lies under a key once the data of one source are laid over those of another.
import Flaky.Settings.Layer
import Mathlib.Data.List.Nodup

/-!
# Data laid over data

Data are proper if no table in them has a key twice and nothing in them is null, as in a
document. Laid over a table, proper data replace what is under their keys and leave the
rest as it is, but for tables under the same key, which merge in the same way.
-/

namespace Flaky

namespace Datum

/-! ## Fields -/

/-- No key stands twice in a table. -/
def Distinct (fields : List (String × Datum)) : Prop := (fields.map Prod.fst).Nodup

section

variable {key name : String} {datum : Datum} {fields rest : List (String × Datum)}

@[simp] theorem lookup?_nil : lookup? key [] = none := rfl

theorem lookup?_cons : lookup? key ((name, datum) :: fields) =
    (lookup? key fields).or (if name = key then some datum else none) := by
  rw [lookup?, List.reverse_cons, List.find?_append, Option.map_or, lookup?]
  by_cases h : name = key <;> simp [h]

theorem lookup?_cons_self (h : lookup? key fields = none) :
    lookup? key ((key, datum) :: fields) = some datum := by
  rw [lookup?_cons, h, if_pos rfl, Option.none_or]

theorem lookup?_cons_ne (h : name ≠ key) :
    lookup? key ((name, datum) :: fields) = lookup? key fields := by
  rw [lookup?_cons, if_neg h, Option.or_none]

theorem lookup?_eq_none_iff : lookup? key fields = none ↔ key ∉ fields.map Prod.fst := by
  induction fields with
  | nil => simp
  | cons field fields ih =>
    obtain ⟨name, datum⟩ := field
    rw [lookup?_cons, Option.or_eq_none_iff, ih, List.map_cons, List.mem_cons, not_or, and_comm]
    refine and_congr_left fun _ => ?_
    by_cases h : name = key
    · simp [h]
    · simp [h, Ne.symm h]

theorem mem_of_lookup? (h : lookup? key fields = some datum) : (key, datum) ∈ fields := by
  obtain ⟨⟨name, found⟩, hfind, rfl⟩ := Option.map_eq_some_iff.mp h
  obtain rfl : name = key := by simpa using List.find?_some hfind
  exact List.mem_reverse.mp (List.mem_of_find?_eq_some hfind)

theorem Distinct.tail (h : Distinct ((name, datum) :: fields)) : Distinct fields :=
  (List.nodup_cons.mp h).2

theorem Distinct.head (h : Distinct ((name, datum) :: fields)) : lookup? name fields = none :=
  lookup?_eq_none_iff.mpr (List.nodup_cons.mp h).1

/-- Under a key that stands once, the first datum is the last. -/
theorem Distinct.lookup?_eq (h : Distinct fields) (key : String) :
    lookup? key fields = fields.lookup key := by
  induction fields with
  | nil => rfl
  | cons field fields ih =>
    obtain ⟨name, datum⟩ := field
    by_cases hname : name = key
    · subst hname
      rw [lookup?_cons_self h.head, List.lookup_cons_self]
    · rw [lookup?_cons_ne hname, ih h.tail, List.lookup_cons, beq_false_of_ne (Ne.symm hname)]

end

/-! ## Proper data -/

/-- No table has a key twice, and nothing is null. -/
inductive Proper : Datum → Prop
  | bool {b : Bool} : Proper (.bool b)
  | integer {n : Int} : Proper (.integer n)
  | float {x : Binary64} : Proper (.float x)
  | text {s : String} : Proper (.text s)
  | list {items : List Datum} (items_proper : ∀ item ∈ items, Proper item) : Proper (.list items)
  | table {fields : List (String × Datum)} (distinct : Distinct fields)
    (fields_proper : ∀ field ∈ fields, Proper field.2) : Proper (.table fields)

/-- The fields of a proper table. -/
structure ProperFields (fields : List (String × Datum)) : Prop where
  distinct : Distinct fields
  proper : ∀ field ∈ fields, field.2.Proper

theorem Proper.fieldsOf {datum : Datum} (h : datum.Proper) :
    ProperFields (Layer.fieldsOf datum) := by
  cases h with
  | table distinct proper => exact ⟨distinct, proper⟩
  | _ => exact ⟨List.nodup_nil, List.forall_mem_nil _⟩

theorem ProperFields.lookup? {fields : List (String × Datum)} {key : String} {datum : Datum}
    (h : ProperFields fields) (hlookup : Datum.lookup? key fields = some datum) : datum.Proper :=
  h.proper _ (mem_of_lookup? hlookup)

end Datum

namespace Layer

open Datum (lookup? lookup?_cons lookup?_cons_self lookup?_cons_ne lookup?_eq_none_iff Distinct
  ProperFields)

section

variable {key name : String} {datum base : Datum} {change : Datum → Datum}
variable {fields upper source : List (String × Datum)}

/-! ## One change -/

theorem mem_keys_update {k : String} (h : k ∈ (update key change fields).map Prod.fst) :
    k = key ∨ k ∈ fields.map Prod.fst := by
  induction fields with
  | nil => exact .inl (List.mem_singleton.mp h)
  | cons field fields ih =>
    obtain ⟨name, datum⟩ := field
    rw [update] at h
    split at h
    case isTrue => exact .inr h
    case isFalse =>
      rcases List.mem_cons.mp h with rfl | h
      · exact .inr List.mem_cons_self
      · exact (ih h).imp_right (List.mem_cons_of_mem _)

theorem distinct_update (h : Distinct fields) : Distinct (update key change fields) := by
  induction fields with
  | nil => exact List.nodup_singleton key
  | cons field fields ih =>
    obtain ⟨name, datum⟩ := field
    obtain ⟨hfresh, hrest⟩ := List.nodup_cons.mp h
    rw [update]
    split
    case isTrue => exact h
    case isFalse hname =>
      refine List.nodup_cons.mpr ⟨fun hmem => ?_, ih hrest⟩
      exact (mem_keys_update hmem).elim hname hfresh

theorem lookup?_update_self (h : Distinct fields) :
    lookup? key (update key change fields) = some (change ((lookup? key fields).getD .null)) := by
  induction fields with
  | nil => exact lookup?_cons_self rfl
  | cons field fields ih =>
    obtain ⟨name, datum⟩ := field
    rw [update]
    split
    case isTrue hname =>
      subst hname
      rw [lookup?_cons_self h.head, lookup?_cons_self h.head, Option.getD_some]
    case isFalse hname => rw [lookup?_cons_ne hname, lookup?_cons_ne hname, ih h.tail]

theorem lookup?_update_ne (h : key ≠ name) :
    lookup? name (update key change fields) = lookup? name fields := by
  induction fields with
  | nil => exact lookup?_cons_ne h
  | cons field fields ih =>
    obtain ⟨other, datum⟩ := field
    rw [update]
    split
    case isTrue hother => rw [lookup?_cons_ne (hother ▸ h), lookup?_cons_ne (hother ▸ h)]
    case isFalse => rw [lookup?_cons, lookup?_cons, ih]

theorem update_fresh (h : lookup? key fields = none) :
    update key change fields = fields ++ [(key, change .null)] := by
  induction fields with
  | nil => rfl
  | cons field fields ih =>
    obtain ⟨name, datum⟩ := field
    rw [lookup?_cons, Option.or_eq_none_iff] at h
    have hname : name ≠ key := by
      rintro rfl
      rw [if_pos rfl] at h
      cases h.2
    rw [update, if_neg hname, ih h.1]
    rfl

/-! ## Tables -/

/-- The datum under a key, laid over what was there. -/
def laid (upper base : Option Datum) : Option Datum :=
  match upper with
  | some datum => some (merge datum (base.getD .null))
  | none => base

theorem lookup?_mergeFields (hupper : Distinct upper) (hfields : Distinct fields) :
    lookup? key (mergeFields upper fields) = laid (lookup? key upper) (lookup? key fields) := by
  induction upper generalizing fields with
  | nil => rfl
  | cons field upper ih =>
    obtain ⟨name, datum⟩ := field
    rw [mergeFields, ih hupper.tail (distinct_update hfields)]
    by_cases hname : name = key
    · subst hname
      rw [hupper.head, lookup?_cons_self hupper.head, lookup?_update_self hfields]
      rfl
    · rw [lookup?_cons_ne hname, lookup?_update_ne hname]

theorem distinct_mergeFields (h : Distinct fields) : Distinct (mergeFields upper fields) := by
  induction upper generalizing fields with
  | nil => exact h
  | cons field upper ih =>
    obtain ⟨name, datum⟩ := field
    exact ih (distinct_update h)

/-- Where the base has none of the keys, the fields come after those of the base. -/
theorem mergeFields_append (hupper : Distinct upper)
    (same : ∀ field ∈ upper, merge field.2 .null = field.2)
    (apart : ∀ field ∈ upper, lookup? field.1 fields = none) :
    mergeFields upper fields = fields ++ upper := by
  induction upper generalizing fields with
  | nil => exact (List.append_nil fields).symm
  | cons field upper ih =>
    obtain ⟨name, datum⟩ := field
    obtain ⟨hsame, hrest⟩ := List.forall_mem_cons.mp same
    obtain ⟨hname, hapart⟩ := List.forall_mem_cons.mp apart
    rw [mergeFields, update_fresh hname, ih hupper.tail hrest, List.append_assoc, hsame]
    · rfl
    · intro field hfield
      have hne : name ≠ field.1 := by
        rintro rfl
        exact lookup?_eq_none_iff.mp hupper.head (List.mem_map_of_mem hfield)
      rw [← @update_fresh name (merge datum) fields hname, lookup?_update_ne hne]
      exact hapart field hfield

/-- Proper data replace what is no table, or an empty one. -/
theorem merge_leaf (h : datum.Proper) (hbase : fieldsOf base = []) : merge datum base = datum := by
  induction h generalizing base with
  | table distinct proper ih =>
    rw [merge, hbase, mergeFields_append distinct (fun field hfield => ih field hfield rfl)
      (fun _ _ => rfl), List.nil_append]
  | _ => rfl

end

/-! ## Sources -/

/-- No key of a source but the key itself leads to a key at the top. -/
def Apart (top : String) (source : List (String × Datum)) : Prop :=
  ∀ field ∈ source, field.1 ≠ top → (steps field.1).head? ≠ some (.key top)

theorem steps_key (key : String) : ∃ name rest, steps key = .key name :: rest := by
  unfold steps
  split
  · exact ⟨_, _, rfl⟩
  · split <;> exact ⟨_, _, rfl⟩

/-- What a source says under a key at the top is laid over what was there. -/
theorem lookup?_overlay {top : String} {fields source : List (String × Datum)}
    (htop : steps top = [.key top]) (hsource : Distinct source) (hfields : Distinct fields)
    (apart : Apart top source) :
    ∃ all, overlay (.table fields) source = .table all ∧ Distinct all ∧
      lookup? top all = laid (lookup? top source) (lookup? top fields) := by
  induction source generalizing fields with
  | nil => exact ⟨fields, rfl, hfields, rfl⟩
  | cons field source ih =>
    obtain ⟨key, datum⟩ := field
    obtain ⟨hkey, hrest⟩ := List.forall_mem_cons.mp apart
    obtain ⟨name, rest, hsteps⟩ := steps_key key
    have hstep : overlay (.table fields) ((key, datum) :: source) =
        overlay (.table (update name (updateAt (merge datum) rest) fields)) source := by
      change overlay (updateAt (merge datum) (steps key) (.table fields)) source = _
      rw [hsteps]
      rfl
    obtain ⟨all, hall, distinct, hlookup⟩ :=
      @ih (update name (updateAt (merge datum) rest) fields) hsource.tail (distinct_update hfields)
        hrest
    refine ⟨all, hstep.trans hall, distinct, hlookup.trans ?_⟩
    by_cases hname : key = top
    · subst hname
      obtain ⟨rfl, rfl⟩ : key = name ∧ [] = rest := by simpa [htop] using hsteps
      rw [hsource.head, lookup?_cons_self hsource.head, lookup?_update_self hfields]
      rfl
    · have hne : name ≠ top := by
        rintro rfl
        exact hkey hname (by rw [hsteps]; rfl)
      rw [lookup?_cons_ne hname, lookup?_update_ne hne]

end Layer

end Flaky
