import MailMerge.Proofs.Table.Stored
import MailMerge.Store.Basic
import Mathlib.Data.List.Forall2

/-!
# Filled tables

A table that is made with some columns and filled with values of their types holds in every
row, beside every column, null or a cell that shows a value of the column's type. The values
of a row, by the names of the columns, are what formulas are asked about.
-/

namespace MailMerge

namespace Context

/-- What is bound to each name by one rule is found by the rule. -/
theorem get?_insertAll_map (g : String → Value) (ns : List String) (c : Context) (m : String) :
    (c.insertAll (ns.map fun n => (n, g n))).get? m
      = if m ∈ ns then some (g m) else c.get? m := by
  induction ns generalizing c with
  | nil => rfl
  | cons n ns ih =>
    have hstep : c.insertAll ((n :: ns).map fun n => (n, g n))
        = (Context.insert n (g n) c).insertAll (ns.map fun n => (n, g n)) := rfl
    rw [hstep, ih, get?_insert]
    by_cases h : m = n
    · simp [h]
    · simp [h]

end Context

namespace Table

/-- A row as it is read back, by the names of the columns. -/
def context (t : Table) (cells : List Cell) : Context :=
  Row.toContext (t.project t.names cells) t.names

theorem get?_context (t : Table) (cells : List Cell) {n : String} (hn : n ∈ t.names) :
    (t.context cells).get? n = some ((t.slot cells n).2.toValue (t.slot cells n).1) := by
  have hzip : t.names.zip (t.project t.names cells)
      = t.names.map fun m => (m, (t.slot cells m).2.toValue (t.slot cells m).1) := by
    have hmap := List.zip_map' (f := fun m => m)
      (g := fun m => (t.slot cells m).2.toValue (t.slot cells m).1) (l := t.names)
    rwa [List.map_id'] at hmap
  rw [context, Row.toContext, hzip, Context.ofEntries]
  refine (Context.get?_insertAll_map _ t.names [] n).trans ?_
  rw [if_pos hn]

-- ---------------------------------------------------------------------------
-- Rows of their columns' types
-- ---------------------------------------------------------------------------

/-- A row with a value for each column that the column takes. -/
def TakesRow (columns : List Column) (row : Row) : Prop :=
  List.Forall₂ (fun c v => Value.Storable c.dataType v) columns row

instance (columns : List Column) (row : Row) : Decidable (TakesRow columns row) :=
  inferInstanceAs (Decidable (List.Forall₂ _ _ _))

/-- A row of cells in which each column holds null or shows a value. -/
def HoldsRow (columns : List Column) (cells : List Cell) : Prop :=
  List.Forall₂ (fun c cell => Cell.Held c.dataType cell) columns cells

/-- A table whose columns have different names and hold values of their types. -/
structure Sound (columns : List Column) (t : Table) : Prop where
  shape : t.columns = columns
  distinct : (columns.map (·.name)).Nodup
  held : ∀ cells ∈ t.rows, HoldsRow columns cells

variable {columns : List Column} {t t' : Table}

/-- Beside each column stands what it stores for the value beside it. -/
theorem forall₂_storedRow {R : Column → Value → Prop} {row : Row}
    (h : List.Forall₂ R t.columns row) :
    List.Forall₂ (fun c cell => ∃ v, R c v ∧ cell = (Cell.ofValue v).stored c.dataType)
      t.columns (t.storedRow row) := by
  rw [storedRow]
  generalize t.columns = columns at h
  induction h with
  | nil => exact .nil
  | cons hv _ ih => exact .cons ⟨_, hv, rfl⟩ ih

theorem holdsRow_storedRow {row : Row} (h : TakesRow t.columns row) :
    HoldsRow t.columns (t.storedRow row) := by
  refine List.Forall₂.imp ?_ (forall₂_storedRow h)
  rintro c cell ⟨v, hv, rfl⟩
  exact Cell.held_stored hv

/-- Where the columns have different names a cell is found by the name of its column. -/
theorem slot_of_mem_zip (hnames : t.names.Nodup) {cells : List Cell} {c : Column} {cell : Cell}
    (h : (c, cell) ∈ t.columns.zip cells) : t.slot cells c.name = (c.dataType, cell) := by
  have hlookup : List.lookup c.name (t.slots cells) = some (c.dataType, cell) := by
    rw [slots]
    rw [names] at hnames
    generalize t.columns = columns at hnames h
    induction columns generalizing cells with
    | nil => cases h
    | cons d ds ih =>
      obtain ⟨hfresh, hnames⟩ := List.nodup_cons.mp hnames
      cases cells with
      | nil => cases h
      | cons cell' cells =>
        rw [List.zip_cons_cons] at h
        rw [List.zip_cons_cons, List.map_cons, List.lookup_cons]
        rcases List.mem_cons.mp h with heq | h
        · cases heq
          simp
        · have hmem : c ∈ ds := (List.of_mem_zip h).1
          have hne : (c.name == d.name) = false :=
            beq_eq_false_iff_ne.mpr fun heq => hfresh (List.mem_map.mpr ⟨c, hmem, heq⟩)
          rw [hne]
          exact ih hnames h
  rw [slot, hlookup]
  rfl

/-- What stands beside every column stands in the slot of the column. -/
theorem exists_slot {R : Column → Cell → Prop} (hnames : t.names.Nodup) {cells : List Cell}
    (h : List.Forall₂ R t.columns cells) {c : Column} (hc : c ∈ t.columns) :
    ∃ cell, t.slot cells c.name = (c.dataType, cell) ∧ R c cell := by
  obtain ⟨hlength, hzip⟩ := List.forall₂_iff_zip.mp h
  rw [← List.map_fst_zip (Nat.le_of_eq hlength)] at hc
  obtain ⟨⟨c, cell⟩, hmem, rfl⟩ := List.mem_map.mp hc
  exact ⟨cell, slot_of_mem_zip hnames hmem, hzip hmem⟩

/-- Beside each column a row shows what the cell beside the column shows. -/
theorem forall₂_project {R : Column → Cell → Prop} (hnames : t.names.Nodup) {cells : List Cell}
    (h : List.Forall₂ R t.columns cells) :
    List.Forall₂ (fun c v => ∃ cell, R c cell ∧ v = cell.toValue c.dataType)
      t.columns (t.project t.names cells) := by
  rw [project, names, List.map_map, List.forall₂_map_right_iff, List.forall₂_same]
  intro c hc
  obtain ⟨cell, hslot, hcell⟩ := exists_slot hnames h hc
  exact ⟨cell, hcell, by rw [Function.comp_apply, hslot]⟩

/-- In each column of a sound table a row holds null or shows a value. -/
theorem Sound.slot (hsound : t.Sound columns) {cells : List Cell} (hcells : cells ∈ t.rows)
    {c : Column} (hc : c ∈ columns) :
    ∃ cell, t.slot cells c.name = (c.dataType, cell) ∧ Cell.Held c.dataType cell := by
  obtain ⟨rfl, hnames, hheld⟩ := hsound
  exact exists_slot hnames (hheld cells hcells) hc

/-- Rows are put in as they are stored, behind those that are there. -/
theorem appendRows_eq_ok {id : Int64} {position : Nat} {rows : List Row}
    (h : Store.appendRows id position t rows = .ok t') :
    t' = { t with rows := t.rows ++ rows.map t.storedRow } := by
  induction rows generalizing t position with
  | nil =>
    cases h
    simp
  | cons row rows ih =>
    rw [Store.appendRows] at h
    simp only [bind, Except.bind] at h
    split at h
    · cases h
    · split at h
      · cases h
      · rw [ih h, List.map_cons, List.append_assoc]
        rfl

/-- Rows that the columns take leave a table sound. -/
theorem Sound.append (hsound : t.Sound columns) {rows : List Row}
    (hrows : ∀ row ∈ rows, TakesRow columns row) :
    Sound columns { t with rows := t.rows ++ rows.map t.storedRow } := by
  obtain ⟨rfl, hdistinct, hheld⟩ := hsound
  refine ⟨rfl, hdistinct, fun cells hcells => ?_⟩
  rcases List.mem_append.mp hcells with hcells | hcells
  · exact hheld cells hcells
  · obtain ⟨row, hrow, rfl⟩ := List.mem_map.mp hcells
    exact holdsRow_storedRow (hrows row hrow)

end Table

namespace Store

/-- A store whose table was made with the given columns and filled with values of their types,
whatever was done to other tables. -/
inductive Filled (id : Int64) (columns : List Column) : Store → Prop
  | created {s s' : Store} (h : s.create id columns = .ok s') : Filled id columns s'
  | inserted {s s' : Store} {rows : List Row} (hs : Filled id columns s)
    (hrows : ∀ row ∈ rows, Table.TakesRow columns row)
    (h : s.insert id rows = .ok s') : Filled id columns s'
  | elsewhere {s s' : Store} (hs : Filled id columns s) (h : s'.find? id = s.find? id) :
    Filled id columns s'

variable {s s' : Store} {id : Int64} {columns : List Column}

theorem nodup_of_checkDistinct {ns : List String} (h : checkDistinct ns = .ok ()) : ns.Nodup := by
  induction ns with
  | nil => exact List.nodup_nil
  | cons n ns ih =>
    rw [checkDistinct] at h
    split at h
    · cases h
    · next hany =>
      refine List.nodup_cons.mpr ⟨fun hmem => hany ?_, ih h⟩
      exact List.any_eq_true.mpr ⟨n, hmem, beq_self_eq_true _⟩

theorem create_eq_ok (h : s.create id columns = .ok s') :
    s' = s.put id { columns } ∧ columns ≠ [] ∧
      checkDistinct (columns.map (·.name)) = .ok () := by
  simp only [create, bind, Except.bind] at h
  split at h
  · cases h
  · next hempty =>
    split at h
    · cases h
    · split at h
      · cases h
      · split at h
        · cases h
        · next hdistinct =>
          cases h
          exact ⟨rfl, by simpa using hempty, hdistinct⟩

theorem insert_eq_ok {rows : List Row} (h : s.insert id rows = .ok s') :
    ∃ t, s.find? id = some t ∧
      s' = s.put id { t with rows := t.rows ++ rows.map t.storedRow } := by
  simp only [insert, table, bind, Except.bind] at h
  cases hfind : s.find? id with
  | none => rw [hfind] at h; cases h
  | some t =>
    simp only [hfind] at h
    cases happend : appendRows id 1 t rows with
    | error e => rw [happend] at h; cases h
    | ok t' =>
      rw [happend] at h
      cases h
      exact ⟨t, rfl, by rw [Table.appendRows_eq_ok happend]⟩

theorem find?_put (s : Store) (id : Int64) (t : Table) : (s.put id t).find? id = some t := by
  simp [find?, put]

/-- A filled table is sound, by induction on how it was filled. -/
theorem Filled.sound (h : s.Filled id columns) : ∃ t, s.find? id = some t ∧ t.Sound columns := by
  induction h with
  | created h =>
    obtain ⟨rfl, -, hdistinct⟩ := create_eq_ok h
    exact ⟨_, find?_put .., rfl, nodup_of_checkDistinct hdistinct, fun _ hcells => nomatch hcells⟩
  | inserted _ hrows h ih =>
    obtain ⟨t, hfind, hsound⟩ := ih
    obtain ⟨t', hfind', rfl⟩ := insert_eq_ok h
    cases hfind.symm.trans hfind'
    exact ⟨_, find?_put .., hsound.append hrows⟩
  | elsewhere _ h ih =>
    obtain ⟨t, hfind, hsound⟩ := ih
    exact ⟨t, h.trans hfind, hsound⟩

end Store

end MailMerge
