-- SUMMARY: Finite sets over an ordered type, held as strictly increasing lists; membership, insertion, union, difference, intersection and extensionality.

/-!
# Ordered sets

A finite set is its strictly increasing list of members, so two sets with the
same members are equal (`OrderedSet.ext_mem`) and every listing of a set is in
the order of its type. The main statements say what each operation does to
membership.
-/

namespace Flaky

/-! ## Insertion into an increasing list -/

/-- Every element comes strictly before all later ones. -/
abbrev Increasing [Ord α] (xs : List α) : Prop :=
  xs.Pairwise fun a b => compare a b = .lt

/-- Insert into an increasing list; an element that is already there stays as it is. -/
def insertInOrder [Ord α] (a : α) : List α → List α
  | [] => [a]
  | b :: rest =>
    match compare a b with
    | .lt => a :: b :: rest
    | .eq => b :: rest
    | .gt => b :: insertInOrder a rest

section

variable [Ord α] [Std.TransOrd α] [Std.LawfulEqOrd α]

omit [Std.TransOrd α] in
theorem mem_insertInOrder {a x : α} {xs : List α} :
    x ∈ insertInOrder a xs ↔ x = a ∨ x ∈ xs := by
  induction xs with
  | nil => simp [insertInOrder]
  | cons b rest ih =>
    simp only [insertInOrder]
    split <;> rename_i h
    · simp
    · have := Std.LawfulEqOrd.eq_of_compare h
      subst this
      simp
    · simp only [List.mem_cons, ih]
      exact ⟨fun h => h.elim (fun h => .inr (.inl h)) (fun h => h.elim .inl (fun h => .inr (.inr h))),
        fun h => h.elim (fun h => .inr (.inl h)) (fun h => h.elim .inl (fun h => .inr (.inr h)))⟩

theorem increasing_insertInOrder {a : α} {xs : List α} (h : Increasing xs) :
    Increasing (insertInOrder a xs) := by
  induction xs with
  | nil => simp [insertInOrder, Increasing]
  | cons b rest ih =>
    have hb := List.pairwise_cons.1 h
    simp only [insertInOrder]
    split <;> rename_i hc
    · refine List.pairwise_cons.2 ⟨fun x hx => ?_, h⟩
      rcases List.mem_cons.1 hx with rfl | hx
      · exact hc
      · exact Std.TransCmp.lt_trans hc (hb.1 x hx)
    · exact h
    · refine List.pairwise_cons.2 ⟨fun x hx => ?_, ih hb.2⟩
      rcases mem_insertInOrder.1 hx with rfl | hx
      · exact Std.OrientedCmp.lt_of_gt hc
      · exact hb.1 x hx

omit [Std.TransOrd α] in
theorem Increasing.not_mem_head {a : α} {xs : List α} (h : Increasing (a :: xs)) : a ∉ xs := by
  intro ha
  have := (List.pairwise_cons.1 h).1 a ha
  simp [Std.ReflCmp.compare_self] at this

theorem Increasing.ext {xs ys : List α} (hx : Increasing xs) (hy : Increasing ys)
    (h : ∀ a, a ∈ xs ↔ a ∈ ys) : xs = ys := by
  induction xs generalizing ys with
  | nil =>
    cases ys with
    | nil => rfl
    | cons b ys => exact absurd ((h b).2 (by simp)) (by simp)
  | cons a xs ih =>
    cases ys with
    | nil => exact absurd ((h a).1 (by simp)) (by simp)
    | cons b ys =>
      have hab : a = b := by
        rcases List.mem_cons.1 ((h a).1 (by simp)) with e | ha
        · exact e
        · rcases List.mem_cons.1 ((h b).2 (by simp)) with e | hb
          · exact e.symm
          · have h1 := (List.pairwise_cons.1 hy).1 a ha
            have h2 := (List.pairwise_cons.1 hx).1 b hb
            have := Std.TransCmp.lt_trans h1 h2
            simp [Std.ReflCmp.compare_self] at this
      subst hab
      congr 1
      refine ih (List.pairwise_cons.1 hx).2 (List.pairwise_cons.1 hy).2 fun x => ?_
      constructor
      · intro hxm
        rcases List.mem_cons.1 ((h x).1 (by simp [hxm])) with e | hm
        · exact absurd (e ▸ hxm) hx.not_mem_head
        · exact hm
      · intro hxm
        rcases List.mem_cons.1 ((h x).2 (by simp [hxm])) with e | hm
        · exact absurd (e ▸ hxm) hy.not_mem_head
        · exact hm

end

/-! ## Sets -/

/-- A finite set, listed in strictly increasing order. -/
structure OrderedSet (α : Type) [Ord α] where
  toList : List α
  increasing : Increasing toList

namespace OrderedSet

variable {α : Type} [Ord α]

instance [DecidableEq α] : DecidableEq (OrderedSet α) := fun s t =>
  if h : s.toList = t.toList then
    .isTrue (by cases s; cases t; simp_all)
  else
    .isFalse fun e => h (congrArg toList e)

instance : Membership α (OrderedSet α) := ⟨fun s a => a ∈ s.toList⟩

theorem mem_toList {a : α} {s : OrderedSet α} : a ∈ s.toList ↔ a ∈ s := Iff.rfl

instance [DecidableEq α] (a : α) (s : OrderedSet α) : Decidable (a ∈ s) :=
  inferInstanceAs (Decidable (a ∈ s.toList))

def empty : OrderedSet α := ⟨[], .nil⟩

instance : EmptyCollection (OrderedSet α) := ⟨empty⟩

instance : Inhabited (OrderedSet α) := ⟨empty⟩

def contains [BEq α] (s : OrderedSet α) (a : α) : Bool := s.toList.contains a

def size (s : OrderedSet α) : Nat := s.toList.length

def isEmpty (s : OrderedSet α) : Bool := s.toList.isEmpty

def filter (p : α → Bool) (s : OrderedSet α) : OrderedSet α :=
  ⟨s.toList.filter p, s.increasing.filter p⟩

/-- The members of `s` that are not in `t`. -/
def diff [BEq α] (s t : OrderedSet α) : OrderedSet α := s.filter fun a => !t.contains a

/-- The members of `s` that are in `t`. -/
def inter [BEq α] (s t : OrderedSet α) : OrderedSet α := s.filter t.contains

section

variable [Std.TransOrd α] [Std.LawfulEqOrd α]

def insert (s : OrderedSet α) (a : α) : OrderedSet α :=
  ⟨insertInOrder a s.toList, increasing_insertInOrder s.increasing⟩

def ofList (xs : List α) : OrderedSet α := xs.foldl insert empty

def union (s t : OrderedSet α) : OrderedSet α := t.toList.foldl insert s

end

/-! ## Membership -/

@[simp] theorem not_mem_empty {a : α} : a ∉ (empty : OrderedSet α) := by
  intro h
  exact absurd (mem_toList.2 h) (by simp [empty])

@[simp] theorem mem_filter {p : α → Bool} {a : α} {s : OrderedSet α} :
    a ∈ s.filter p ↔ a ∈ s ∧ p a = true :=
  List.mem_filter

@[simp] theorem contains_eq_true [DecidableEq α] {a : α} {s : OrderedSet α} :
    s.contains a = true ↔ a ∈ s := by
  simp [contains, ← mem_toList]

@[simp] theorem mem_diff [DecidableEq α] {a : α} {s t : OrderedSet α} :
    a ∈ s.diff t ↔ a ∈ s ∧ a ∉ t := by
  simp [diff, Bool.eq_false_iff]

@[simp] theorem mem_inter [DecidableEq α] {a : α} {s t : OrderedSet α} :
    a ∈ s.inter t ↔ a ∈ s ∧ a ∈ t := by
  simp [inter]

section

variable [Std.TransOrd α] [Std.LawfulEqOrd α]

@[simp] theorem mem_insert {a x : α} {s : OrderedSet α} : x ∈ s.insert a ↔ x = a ∨ x ∈ s :=
  mem_insertInOrder

theorem mem_foldl_insert {x : α} {xs : List α} {s : OrderedSet α} :
    x ∈ xs.foldl insert s ↔ x ∈ s ∨ x ∈ xs := by
  induction xs generalizing s with
  | nil => simp
  | cons a xs ih =>
    simp only [List.foldl_cons, ih, mem_insert, List.mem_cons]
    constructor
    · rintro ((h | h) | h)
      · exact .inr (.inl h)
      · exact .inl h
      · exact .inr (.inr h)
    · rintro (h | h | h)
      · exact .inl (.inr h)
      · exact .inl (.inl h)
      · exact .inr h

@[simp] theorem mem_ofList {x : α} {xs : List α} : x ∈ ofList xs ↔ x ∈ xs := by
  simp [ofList, mem_foldl_insert]

@[simp] theorem mem_union {x : α} {s t : OrderedSet α} : x ∈ s.union t ↔ x ∈ s ∨ x ∈ t := by
  simp [union, mem_foldl_insert, mem_toList]

/-- A set is determined by its members. -/
theorem ext_mem {s t : OrderedSet α} (h : ∀ a, a ∈ s ↔ a ∈ t) : s = t := by
  have : s.toList = t.toList := s.increasing.ext t.increasing h
  cases s; cases t; simp_all

/-- Listing a set through a partial function depends only on the members where it is defined. -/
theorem filterMap_toList_congr {β : Type} {s t : OrderedSet α} {f : α → Option β}
    (h : ∀ a, (f a).isSome = true → (a ∈ s ↔ a ∈ t)) :
    s.toList.filterMap f = t.toList.filterMap f := by
  have restrict : ∀ u : OrderedSet α,
      u.toList.filterMap f = (u.filter fun a => (f a).isSome).toList.filterMap f := by
    intro u
    rw [filter, List.filterMap_filter]
    congr 1
    funext a
    cases f a <;> simp
  have same : (s.filter fun a => (f a).isSome) = t.filter fun a => (f a).isSome := by
    apply ext_mem
    intro a
    simpa using fun ha => h a ha
  rw [restrict s, restrict t, same]

end

end OrderedSet

end Flaky
