import MailMerge.Proofs.Predicate.Renaming
import MailMerge.Store.Basic
import Mathlib.Data.List.Find
import Mathlib.Logic.Equiv.Basic

/-!
# Renaming the columns of a table

A table whose columns are renamed, no two to one, holds the same rows in the same order,
selects the same of them, and has the same values in them. Only a column that numbers the
rows must stay one, and no other may become one.
-/

namespace MailMerge

variable {σ : String → String}

namespace Table

/-- A table with its columns renamed. -/
def renamed (σ : String → String) (t : Table) : Table :=
  { t with columns := t.columns.map fun c => { c with name := σ c.name } }

/-- Whether a name is the one that numbers rows. -/
def numbers (n : String) : Bool := sameName n "rowid"

variable (t : Table)

theorem names_renamed : (t.renamed σ).names = t.names.map σ := by
  simp [names, renamed, Function.comp_def]

-- ---------------------------------------------------------------------------
-- Rows
-- ---------------------------------------------------------------------------

theorem slots_renamed (row : List Cell) :
    (t.renamed σ).slots row = (t.slots row).map fun e => (σ e.1, e.2) := by
  simp [slots, renamed, List.zip_map_left, Function.comp_def]

theorem slot_renamed (hσ : Function.Injective σ) (row : List Cell) (n : String) :
    (t.renamed σ).slot row (σ n) = t.slot row n := by
  rw [slot, slots_renamed, Context.lookup_map_names hσ, slot]

theorem project_renamed (hσ : Function.Injective σ) (ns : List String) (row : List Cell) :
    (t.renamed σ).project (ns.map σ) row = t.project ns row := by
  simp only [project, List.map_map]
  refine List.map_congr_left fun n _ => ?_
  simp only [Function.comp_apply, slot_renamed t hσ]

theorem orderColumn?_renamed (hnumbers : ∀ n ∈ t.names, numbers (σ n) = numbers n) :
    (t.renamed σ).orderColumn? = t.orderColumn?.map σ := by
  have hfind : t.names.find? (numbers ∘ σ) = t.names.find? numbers := List.find?_congr hnumbers
  rw [orderColumn?, names_renamed]
  exact List.find?_map.trans (congrArg (Option.map σ) hfind)

/-- Rows that no column numbers are read in the order in which they were put in. -/
theorem ordered_eq_rows (h : ∀ n ∈ t.names, numbers n = false) : t.ordered = t.rows := by
  have hnone : t.orderColumn? = none :=
    List.find?_eq_none.mpr fun n hn => Bool.eq_false_iff.mp (h n hn)
  rw [ordered, hnone]

theorem ordered_renamed (hσ : Function.Injective σ)
    (hnumbers : ∀ n ∈ t.names, numbers (σ n) = numbers n) : (t.renamed σ).ordered = t.ordered := by
  have hrows : (t.renamed σ).rows = t.rows := rfl
  rw [ordered, orderColumn?_renamed t hnumbers, ordered]
  cases t.orderColumn? with
  | none => rfl
  | some n => simp only [Option.map_some, slot_renamed t hσ, hrows]

theorem selected_renamed (hσ : Function.Injective σ)
    (hnumbers : ∀ n ∈ t.names, numbers (σ n) = numbers n) (p : Option Predicate) :
    (t.renamed σ).selected (p.map (Predicate.renamed σ)) = t.selected p := by
  rw [selected, ordered_renamed t hσ hnumbers, selected]
  refine List.filter_congr fun row _ => ?_
  exact Predicate.selects_renamed (slot_renamed t hσ row) p

/-- Renaming one column to a name that no column has. -/
theorem renameColumn_eq_renamed {old new : String} (hnew : new ∉ t.names) :
    t.renameColumn old new = t.renamed (Equiv.swap old new) := by
  rw [renameColumn, renamed]
  congr 1
  refine List.map_congr_left fun c hc => ?_
  have hne : c.name ≠ new := fun heq => hnew (heq ▸ List.mem_map_of_mem hc)
  by_cases h : c.name = old
  · rw [if_pos (beq_iff_eq.mpr h), h, Equiv.swap_apply_left]
  · rw [if_neg (mt beq_iff_eq.mp h), Equiv.swap_apply_of_ne_of_ne h hne]

end Table

-- ---------------------------------------------------------------------------
-- Stores
-- ---------------------------------------------------------------------------

namespace Store

variable {t : Table} (s : Store) (id : Int64)

theorem table_put : (s.put id t).table id = .ok t := by
  simp [table, find?, put]

theorem checkColumns_renamed (hσ : Function.Injective σ) {ns : List String}
    (h : checkColumns t ns = .ok ()) : checkColumns (t.renamed σ) (ns.map σ) = .ok () := by
  have hcontains : ∀ n, (t.names.map σ).contains (σ n) = t.names.contains n := by
    intro n
    rw [Bool.eq_iff_iff, List.contains_iff_mem, List.contains_iff_mem,
      List.mem_map_of_injective hσ]
  have hfind : (ns.map σ).find? (fun n => !(t.names.map σ).contains n)
      = (ns.find? fun n => !t.names.contains n).map σ := by
    simp only [List.find?_map, Function.comp_def, hcontains]
  rw [checkColumns] at h
  rw [checkColumns, Table.names_renamed, hfind]
  cases hnone : ns.find? fun n => !t.names.contains n with
  | none => rfl
  | some n =>
    rw [hnone] at h
    cases h

theorem compileFilter_eq_ok {filter : Option Formula} {p : Option Predicate}
    (h : compileFilter t filter = .ok p) :
    (filter = none ∧ p = none) ∨ ∃ f, filter = some f ∧ f.compile (some t.names) = .ok p := by
  cases filter with
  | none =>
    cases h
    exact .inl ⟨rfl, rfl⟩
  | some f =>
    refine .inr ⟨f, rfl, ?_⟩
    rw [compileFilter] at h
    cases hf : f.compile (some t.names) with
    | error e => rw [hf] at h; cases h
    | ok p' => rw [hf] at h; cases h; rfl

theorem compileFilter_renamed (hσ : Function.Injective σ) {filter : Option Formula}
    {p : Option Predicate} (h : compileFilter t filter = .ok p) :
    compileFilter (t.renamed σ) (filter.map (Formula.renamed σ))
      = .ok (p.map (Predicate.renamed σ)) := by
  rcases compileFilter_eq_ok h with ⟨rfl, rfl⟩ | ⟨f, rfl, hf⟩
  · rfl
  · rw [Option.map_some, compileFilter, Table.names_renamed, Formula.compile_renamed hσ, hf]
    rfl

/-- What it takes to read rows, and what is read. -/
theorem rows_eq_ok {s : Store} {id : Int64} {filter : Option Formula} {ns : List String}
    {rows : List Row} (h : s.rows id filter ns = .ok rows) :
    ∃ t p, s.table id = .ok t ∧ checkColumns t ns = .ok () ∧ compileFilter t filter = .ok p ∧
      ns.isEmpty = false ∧ rows = (t.selected p).map (t.project ns) := by
  rw [Store.rows] at h
  cases ht : s.table id with
  | error e => rw [ht] at h; cases h
  | ok t =>
    cases hcolumns : checkColumns t ns with
    | error e => simp [ht, hcolumns, bind, Except.bind] at h
    | ok _ =>
      cases hp : compileFilter t filter with
      | error e => simp [ht, hcolumns, hp, bind, Except.bind] at h
      | ok p =>
        simp only [ht, hcolumns, hp, bind, Except.bind, readRows] at h
        split at h
        · cases h
        · next hns =>
          cases h
          exact ⟨t, p, rfl, hcolumns, hp, Bool.eq_false_iff.mpr hns, rfl⟩

theorem length_of_mem_rows {s : Store} {id : Int64} {filter : Option Formula} {ns : List String}
    {rows : List Row} (h : s.rows id filter ns = .ok rows) : ∀ r ∈ rows, r.length = ns.length := by
  obtain ⟨t, p, -, -, -, -, rfl⟩ := rows_eq_ok h
  intro r hr
  obtain ⟨cells, -, rfl⟩ := List.mem_map.mp hr
  exact List.length_map _

/-- What a filter reads from a table it reads from the renamed one with everything renamed. -/
theorem rows_renamed (hσ : Function.Injective σ)
    (hnumbers : ∀ n ∈ t.names, Table.numbers (σ n) = Table.numbers n)
    (ht : s.table id = .ok t) {filter : Option Formula} {ns : List String} {rows : List Row}
    (h : s.rows id filter ns = .ok rows) :
    (s.put id (t.renamed σ)).rows id (filter.map (Formula.renamed σ)) (ns.map σ) = .ok rows := by
  obtain ⟨t', p, ht', hcolumns, hp, hns, rfl⟩ := rows_eq_ok h
  cases ht.symm.trans ht'
  have hproject : (t.renamed σ).project (ns.map σ) = t.project ns :=
    funext (Table.project_renamed t hσ ns)
  have hread : readRows (t.renamed σ) (p.map (Predicate.renamed σ)) (ns.map σ)
      = .ok ((t.selected p).map (t.project ns)) := by
    rw [readRows, List.isEmpty_map, hns, Table.selected_renamed t hσ hnumbers, hproject]
    rfl
  simp only [Store.rows, table_put, bind, Except.bind, checkColumns_renamed hσ hcolumns,
    compileFilter_renamed hσ hp, hread]

/-- What it takes to rename a column, and what comes of it. -/
theorem renameColumn_eq_ok {s s' : Store} {id : Int64} {old new : String}
    (h : s.renameColumn id old new = .ok s') :
    ∃ t, s.table id = .ok t ∧ old ∈ t.names ∧ new ∉ t.names ∧
      s' = s.put id (t.renamed (Equiv.swap old new)) := by
  cases ht : s.table id with
  | error e => simp [renameColumn, ht, bind, Except.bind] at h
  | ok t =>
    simp only [renameColumn, ht, bind, Except.bind] at h
    cases hcolumns : checkColumns t [old] with
    | error e => rw [hcolumns] at h; cases h
    | ok _ =>
      simp only [hcolumns] at h
      have hold : old ∈ t.names := by
        rw [checkColumns, List.find?_singleton] at hcolumns
        by_contra hmem
        rw [if_pos (by simpa using hmem)] at hcolumns
        cases hcolumns
      split at h
      · cases h
      · next hnew =>
        have hnew : new ∉ t.names := by simpa using hnew
        cases hname : checkName new with
        | error e => simp [hname] at h
        | ok _ =>
          simp only [hname] at h
          split at h
          · cases h
          · cases h
            exact ⟨t, rfl, hold, hnew, by rw [t.renameColumn_eq_renamed hnew]⟩

end Store

end MailMerge
