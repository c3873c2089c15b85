-- SUMMARY: A TOML document holds proper data: no table in it has a key twice, and nothing is null.
import Flaky.Proofs.Settings.Overlay
import Flaky.Toml

/-!
# TOML documents are proper

A header or a key changes what is under one key of a table, so no table gets a key twice.
That holds for what one line does to the tables in the making, hence for all lines.
-/

namespace Flaky.Toml

/-! ## Tables in the making -/

/-- No key stands twice in a table, and the values are proper. -/
inductive Node.Proper : Node → Prop
  | value {datum : Datum} (proper : datum.Proper) : Proper (.value datum)
  | table {origin : Origin} {entries : Entries} (distinct : (entries.map Prod.fst).Nodup)
    (proper : ∀ entry ∈ entries, Proper entry.2) : Proper (.table origin entries)
  | tables {items : List Entries} (distinct : ∀ entries ∈ items, (entries.map Prod.fst).Nodup)
    (proper : ∀ entries ∈ items, ∀ entry ∈ entries, Proper entry.2) : Proper (.tables items)

structure ProperEntries (entries : Entries) : Prop where
  distinct : (entries.map Prod.fst).Nodup
  proper : ∀ entry ∈ entries, entry.2.Proper

theorem ProperEntries.nil : ProperEntries [] := ⟨List.nodup_nil, List.forall_mem_nil _⟩

/-- A change of a table, if it takes place, leaves it proper. -/
def Keeps (f : Entries → Option Entries) : Prop :=
  ∀ {entries entries'}, ProperEntries entries → f entries = some entries' → ProperEntries entries'

section

variable {key : String} {f : Option Node → Option Node} {entries entries' : Entries}

theorem mem_keys_alter (h : alter key f entries = some entries') {k : String}
    (hk : k ∈ entries'.map Prod.fst) : k = key ∨ k ∈ entries.map Prod.fst := by
  induction entries generalizing entries' with
  | nil =>
    obtain ⟨node, -, rfl⟩ := Option.map_eq_some_iff.mp h
    exact .inl (List.mem_singleton.mp hk)
  | cons entry entries ih =>
    obtain ⟨name, node⟩ := entry
    rw [alter] at h
    split at h
    case isTrue =>
      obtain ⟨node', -, rfl⟩ := Option.map_eq_some_iff.mp h
      exact .inr hk
    case isFalse =>
      obtain ⟨rest, hrest, rfl⟩ := Option.map_eq_some_iff.mp h
      rcases List.mem_cons.mp hk with rfl | hk
      · exact .inr List.mem_cons_self
      · exact (ih hrest hk).imp_right (List.mem_cons_of_mem _)

/-- What is done under one key leaves a table proper if it leaves a proper node there. -/
theorem alter_keeps
    (hf : ∀ {old new}, (∀ node, old = some node → node.Proper) → f old = some new → new.Proper) :
    Keeps (alter key f) := by
  intro entries entries' h halter
  induction entries generalizing entries' with
  | nil =>
    obtain ⟨node, hnode, rfl⟩ := Option.map_eq_some_iff.mp halter
    exact ⟨List.nodup_singleton key, List.forall_mem_singleton.mpr (@hf none node nofun hnode)⟩
  | cons entry entries ih =>
    obtain ⟨name, node⟩ := entry
    obtain ⟨hfresh, hdistinct⟩ := List.nodup_cons.mp h.distinct
    obtain ⟨hnode, hproper⟩ := List.forall_mem_cons.mp h.proper
    rw [alter] at halter
    split at halter
    case isTrue =>
      obtain ⟨node', hnode', rfl⟩ := Option.map_eq_some_iff.mp halter
      have hnew : node'.Proper := hf (fun old hold => Option.some.inj hold ▸ hnode) hnode'
      exact ⟨h.distinct, List.forall_mem_cons.mpr ⟨hnew, hproper⟩⟩
    case isFalse hname =>
      obtain ⟨rest, hrest, rfl⟩ := Option.map_eq_some_iff.mp halter
      obtain ⟨hrestDistinct, hrestProper⟩ := ih ⟨hdistinct, hproper⟩ hrest
      refine ⟨List.nodup_cons.mpr ⟨fun hmem => ?_, hrestDistinct⟩,
        List.forall_mem_cons.mpr ⟨hnode, hrestProper⟩⟩
      exact (mem_keys_alter hrest hmem).elim hname hfresh

end

/-- The last table of an array may be replaced by another. -/
theorem Node.Proper.replaceLast {items before : List Entries} {last last' : Entries}
    (h : (Node.tables items).Proper) (hreverse : items.reverse = last :: before)
    (hlast : ProperEntries last → ProperEntries last') :
    (Node.tables (last' :: before).reverse).Proper := by
  cases h with
  | tables distinct proper =>
    have hmem : last ∈ items := by
      rw [← List.mem_reverse, hreverse]
      exact List.mem_cons_self
    obtain ⟨distinct', proper'⟩ := hlast ⟨distinct last hmem, proper last hmem⟩
    have hcases : ∀ entries ∈ (last' :: before).reverse, entries = last' ∨ entries ∈ items := by
      intro entries hentries
      rcases List.mem_cons.mp (List.mem_reverse.mp hentries) with rfl | hbefore
      · exact .inl rfl
      · rw [← List.mem_reverse, hreverse]
        exact .inr (List.mem_cons_of_mem _ hbefore)
    refine .tables (fun entries hentries => ?_) fun entries hentries => ?_
    · rcases hcases entries hentries with rfl | hold
      · exact distinct'
      · exact distinct entries hold
    · rcases hcases entries hentries with rfl | hold
      · exact proper'
      · exact proper entries hold

/-- What is done at the end of a path leaves the tables on the way proper. -/
theorem within_keeps {create : Origin} {isOpen : Origin → Bool}
    {f : Origin → Entries → Option Entries} (hf : ∀ origin, Keeps (f origin)) (path : List String)
    (origin : Origin) : Keeps (within create isOpen f path origin) := by
  induction path generalizing origin with
  | nil => exact hf origin
  | cons key path ih =>
    refine alter_keeps fun {old new} hold hnew => ?_
    split at hnew
    case h_1 =>
      obtain ⟨inner, hinner, rfl⟩ := Option.map_eq_some_iff.mp hnew
      obtain ⟨distinct, proper⟩ := ih create .nil hinner
      exact .table distinct proper
    case h_2 origin inner =>
      split at hnew
      case isTrue =>
        obtain ⟨inner', hinner, rfl⟩ := Option.map_eq_some_iff.mp hnew
        cases hold _ rfl with
        | table distinct proper =>
          obtain ⟨distinct', proper'⟩ := ih origin ⟨distinct, proper⟩ hinner
          exact .table distinct' proper'
      case isFalse => cases hnew
    case h_3 items =>
      split at hnew
      case h_1 => cases hnew
      case h_2 last before hreverse =>
        obtain ⟨last', hlast, rfl⟩ := Option.map_eq_some_iff.mp hnew
        exact (hold _ rfl).replaceLast hreverse fun proper => ih .defined proper hlast
    case h_4 => cases hnew

theorem atHeader_keeps {f : Entries → Option Entries} (hf : Keeps f) (path : List String) :
    Keeps (atHeader path f) :=
  within_keeps (fun _ => hf) path .defined

/-! ## Headers and keys -/

theorem defineTable_keeps (path : List String) : Keeps (defineTable path) := by
  intro entries entries' h hdefine
  unfold defineTable at hdefine
  split at hdefine
  case h_1 => cases hdefine
  case h_2 =>
    refine atHeader_keeps (alter_keeps fun {old new} hold hnew => ?_) _ h hdefine
    split at hnew
    case h_1 =>
      rw [← Option.some.inj hnew]
      exact .table List.nodup_nil (List.forall_mem_nil _)
    case h_2 =>
      rw [← Option.some.inj hnew]
      cases hold _ rfl with
      | table distinct proper => exact .table distinct proper
    case h_3 => cases hnew

theorem addTable_keeps (path : List String) : Keeps (addTable path) := by
  intro entries entries' h hadd
  unfold addTable at hadd
  split at hadd
  case h_1 => cases hadd
  case h_2 =>
    refine atHeader_keeps (alter_keeps fun {old new} hold hnew => ?_) _ h hadd
    split at hnew
    case h_1 =>
      rw [← Option.some.inj hnew]
      exact .tables (List.forall_mem_singleton.mpr List.nodup_nil)
        (List.forall_mem_singleton.mpr (List.forall_mem_nil _))
    case h_2 =>
      rw [← Option.some.inj hnew]
      cases hold _ rfl with
      | tables distinct proper =>
        refine .tables ?_ ?_
        · exact List.forall_mem_append.mpr
            ⟨distinct, List.forall_mem_singleton.mpr List.nodup_nil⟩
        · exact List.forall_mem_append.mpr
            ⟨proper, List.forall_mem_singleton.mpr (List.forall_mem_nil _)⟩
    case h_3 => cases hnew

theorem assign_keeps {datum : Datum} (hdatum : datum.Proper) (path : List String) :
    Keeps (assign path datum) := by
  intro entries entries' h hassign
  unfold assign at hassign
  split at hassign
  case h_1 => cases hassign
  case h_2 =>
    refine within_keeps (fun origin => ?_) _ _ h hassign
    intro inner inner' hinner hset
    split at hset
    case isTrue =>
      refine alter_keeps (fun {old new} hold hnew => ?_) hinner hset
      split at hnew
      case h_1 =>
        rw [← Option.some.inj hnew]
        exact .value hdatum
      case h_2 => cases hnew
    case isFalse => cases hset

/-! ## Data -/

theorem dataOf_eq_map (entries : Entries) :
    dataOf entries = entries.map fun entry => (entry.1, entry.2.toDatum) := by
  induction entries with
  | nil => rfl
  | cons entry entries ih => rw [dataOf, ih, List.map_cons]

theorem tablesOf_eq_map (items : List Entries) :
    tablesOf items = items.map fun entries => .table (dataOf entries) := by
  induction items with
  | nil => rfl
  | cons entries items ih => rw [tablesOf, ih, List.map_cons]

theorem properFields_dataOf {entries : Entries} (distinct : (entries.map Prod.fst).Nodup)
    (proper : ∀ entry ∈ entries, entry.2.toDatum.Proper) : Datum.ProperFields (dataOf entries) := by
  rw [dataOf_eq_map]
  refine ⟨?_, List.forall_mem_map.mpr proper⟩
  rw [Datum.Distinct, List.map_map]
  exact distinct

theorem Node.Proper.toDatum {node : Node} (h : node.Proper) : node.toDatum.Proper := by
  induction h with
  | value proper => exact proper
  | table distinct proper ih =>
    obtain ⟨distinct', proper'⟩ := properFields_dataOf distinct ih
    exact .table distinct' proper'
  | tables distinct proper ih =>
    refine .list ?_
    rw [tablesOf_eq_map]
    refine List.forall_mem_map.mpr fun entries hentries => ?_
    obtain ⟨distinct', proper'⟩ :=
      properFields_dataOf (distinct entries hentries) (ih entries hentries)
    exact .table distinct' proper'

theorem ProperEntries.dataOf {entries : Entries} (h : ProperEntries entries) :
    Datum.ProperFields (dataOf entries) :=
  properFields_dataOf h.distinct fun entry hentry => (h.proper entry hentry).toDatum

/-! ## Values -/

theorem ofLiteral?_proper {cs : List Char} {datum : Datum} (h : ofLiteral? cs = some datum) :
    datum.Proper := by
  unfold ofLiteral? at h
  repeat' split at h
  · exact Option.some.inj h ▸ .bool
  · exact Option.some.inj h ▸ .bool
  · rcases Option.or_eq_some_iff.mp h with h | ⟨-, h⟩
    · obtain ⟨n, -, rfl⟩ := Option.map_eq_some_iff.mp h
      exact .integer
    · rcases Option.or_eq_some_iff.mp h with h | ⟨-, h⟩
      · obtain ⟨x, -, rfl⟩ := Option.map_eq_some_iff.mp h
        exact .float
      · obtain ⟨s, -, rfl⟩ := Option.map_eq_some_iff.mp h
        exact .text

/-- What the readers of values, items and fields give with some fuel. -/
structure ReadsProper (fuel : Nat) : Prop where
  value : ∀ {cs datum rest}, value? fuel cs = some (datum, rest) → datum.Proper
  items : ∀ {cs items rest}, items? fuel cs = some (items, rest) → ∀ item ∈ items, item.Proper
  fields : ∀ {entries cs entries' rest}, ProperEntries entries →
    fields? fuel entries cs = some (entries', rest) → ProperEntries entries'

section

variable {fuel : Nat} {cs rest : List Char}

theorem ReadsProper.value_next (h : ReadsProper fuel) {datum : Datum}
    (hread : value? (fuel + 1) cs = some (datum, rest)) : datum.Proper := by
  unfold value? at hread
  split at hread
  case h_1 | h_2 =>
    obtain ⟨⟨s, rest'⟩, -, hs⟩ := Option.map_eq_some_iff.mp hread
    rw [← (Prod.mk.inj hs).1]
    exact .text
  case h_3 =>
    obtain ⟨⟨items, rest'⟩, hitems, hlist⟩ := Option.map_eq_some_iff.mp hread
    rw [← (Prod.mk.inj hlist).1]
    exact .list (h.items hitems)
  case h_4 =>
    obtain ⟨⟨entries, rest'⟩, hentries, htable⟩ := Option.map_eq_some_iff.mp hread
    rw [← (Prod.mk.inj htable).1]
    obtain ⟨distinct, proper⟩ := (h.fields .nil hentries).dataOf
    exact .table distinct proper
  case h_5 =>
    obtain ⟨scalar, hscalar, heq⟩ := Option.map_eq_some_iff.mp hread
    rw [← (Prod.mk.inj heq).1]
    exact ofLiteral?_proper hscalar

theorem ReadsProper.items_next (h : ReadsProper fuel) {items : List Datum}
    (hread : items? (fuel + 1) cs = some (items, rest)) : ∀ item ∈ items, item.Proper := by
  unfold items? at hread
  split at hread
  case h_1 =>
    rw [← (Prod.mk.inj (Option.some.inj hread)).1]
    exact List.forall_mem_nil _
  case h_2 =>
    split at hread
    case h_1 => cases hread
    case h_2 item _ hitem =>
      have hproper := h.value hitem
      split at hread
      case h_1 =>
        obtain ⟨⟨others, rest'⟩, hothers, hcons⟩ := Option.map_eq_some_iff.mp hread
        rw [← (Prod.mk.inj hcons).1]
        exact List.forall_mem_cons.mpr ⟨hproper, h.items hothers⟩
      case h_2 =>
        rw [← (Prod.mk.inj (Option.some.inj hread)).1]
        exact List.forall_mem_singleton.mpr hproper
      case h_3 => cases hread

theorem ReadsProper.fields_next (h : ReadsProper fuel) {entries entries' : Entries}
    (hentries : ProperEntries entries)
    (hread : fields? (fuel + 1) entries cs = some (entries', rest)) : ProperEntries entries' := by
  unfold fields? at hread
  split at hread
  case h_1 => exact (Prod.mk.inj (Option.some.inj hread)).1 ▸ hentries
  case h_2 =>
    split at hread
    case h_1 => cases hread
    case h_2 path _ hpath =>
      split at hread
      case h_1 =>
        split at hread
        case h_1 => cases hread
        case h_2 datum _ hdatum =>
          split at hread
          case h_1 => cases hread
          case h_2 assigned hassign =>
            have hassigned := assign_keeps (h.value hdatum) path hentries hassign
            split at hread
            case h_1 => exact h.fields hassigned hread
            case h_2 => exact (Prod.mk.inj (Option.some.inj hread)).1 ▸ hassigned
            case h_3 => cases hread
      case h_2 => cases hread

end

theorem readsProper (fuel : Nat) : ReadsProper fuel := by
  induction fuel with
  | zero =>
    constructor
    case value =>
      intro cs datum rest h
      rw [value?] at h
      cases h
    case items =>
      intro cs items rest h
      rw [items?] at h
      cases h
    case fields =>
      intro entries cs entries' rest _ h
      rw [fields?] at h
      cases h
  | succ fuel ih => exact ⟨ih.value_next, ih.items_next, ih.fields_next⟩

/-! ## Documents -/

/-- The value of a key is proper. -/
def Line.Proper : Line → Prop
  | .table _ | .tableOfArray _ => True
  | .assignment _ datum => datum.Proper

theorem line?_proper {fuel : Nat} {cs rest : List Char} {line : Line}
    (h : line? fuel cs = some (line, rest)) : line.Proper := by
  unfold line? at h
  split at h
  case h_1 | h_2 =>
    split at h
    case h_1 =>
      rw [← (Prod.mk.inj (Option.some.inj h)).1]
      trivial
    case h_2 => cases h
  case h_3 =>
    split at h
    case h_1 =>
      obtain ⟨⟨datum, rest'⟩, hdatum, hline⟩ := Option.map_eq_some_iff.mp h
      rw [← (Prod.mk.inj hline).1]
      exact (readsProper fuel).value hdatum
    case h_2 => cases h

theorem Document.add_proper {doc doc' : Document} {line : Line} (h : ProperEntries doc.root)
    (hline : line.Proper) (hadd : doc.add line = some doc') : ProperEntries doc'.root := by
  cases line with
  | table path =>
    obtain ⟨root, hroot, rfl⟩ := Option.map_eq_some_iff.mp hadd
    exact defineTable_keeps path h hroot
  | tableOfArray path =>
    obtain ⟨root, hroot, rfl⟩ := Option.map_eq_some_iff.mp hadd
    exact addTable_keeps path h hroot
  | assignment path datum =>
    obtain ⟨root, hroot, rfl⟩ := Option.map_eq_some_iff.mp hadd
    exact atHeader_keeps (assign_keeps hline path) doc.here h hroot

theorem lines?_proper {size fuel : Nat} {doc doc' : Document} {cs : List Char}
    (h : ProperEntries doc.root) (hlines : lines? size fuel doc cs = some doc') :
    ProperEntries doc'.root := by
  induction fuel generalizing doc cs with
  | zero =>
    rw [lines?] at hlines
    cases hlines
  | succ fuel ih =>
    unfold lines? at hlines
    split at hlines
    case h_1 => exact Option.some.inj hlines ▸ h
    case h_2 =>
      split at hlines
      case h_1 => cases hlines
      case h_2 line _ hline =>
        split at hlines
        case h_1 => cases hlines
        case h_2 added hadd =>
          have hadded := Document.add_proper h (line?_proper hline) hadd
          split at hlines
          case h_1 => exact Option.some.inj hlines ▸ hadded
          case h_2 =>
            obtain ⟨rest, -, hrest⟩ := Option.bind_eq_some_iff.mp hlines
            exact ih hadded hrest

/-- What a document says is proper. -/
theorem ofText?_proper {text : String} {fields : List (String × Datum)}
    (h : ofText? text = some fields) : Datum.ProperFields fields := by
  obtain ⟨doc, hlines, rfl⟩ := Option.map_eq_some_iff.mp h
  exact (lines?_proper .nil hlines).dataOf

end Flaky.Toml
