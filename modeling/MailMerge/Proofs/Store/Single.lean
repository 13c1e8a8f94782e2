import MailMerge.Proofs.Store.Lawful

/-!
# Rows with a single value

A row may have a value in one column and nothing in the others. What can be seen in a column of
a table can be seen with such rows, whatever the other columns are: they are taken in wherever
the values do not repeat each other.
-/

namespace MailMerge

namespace Table

/-- A row with a value in the column of a name, and null in all others. -/
def rowWith (columns : List Column) (name : String) (v : Value) : Row :=
  columns.map fun c => if c.name = name then v else .null

/-- Such a row as a table with the columns stores it. -/
def cellsWith (columns : List Column) (name : String) (v : Value) : List Cell :=
  storedRow { columns } (rowWith columns name v)

/-- No two of some values are stored alike in a column of a type. -/
def StoredApart (d : DataType) (vs : List Value) : Prop :=
  vs.Pairwise fun v w => ((Cell.ofValue v).stored d).order ((Cell.ofValue w).stored d) ≠ .eq

variable {t : Table} {columns : List Column} {c d : Column} {v : Value}

theorem length_rowWith (columns : List Column) (name : String) (v : Value) :
    (rowWith columns name v).length = columns.length :=
  List.length_map _

theorem zip_columns {α : Type} (columns : List Column) (g : Column → α) :
    columns.zip (columns.map g) = columns.map fun c => (c, g c) := by
  have hzip := List.zip_map' (f := fun c => c) (g := g) (l := columns)
  rwa [List.map_id'] at hzip

theorem cellsWith_eq (columns : List Column) (name : String) (v : Value) :
    cellsWith columns name v = columns.map fun c =>
      (Cell.ofValue (if c.name = name then v else .null)).stored c.dataType := by
  rw [cellsWith, storedRow, rowWith, zip_columns, List.map_map]
  rfl

/-- In the one column such a row has the value as it is stored, in the others nothing. -/
theorem slot_cellsWith (ht : t.columns = columns) (hnames : (columns.map (·.name)).Nodup)
    (hc : c ∈ columns) (name : String) (v : Value) :
    t.slot (cellsWith columns name v) c.name
      = (c.dataType, (Cell.ofValue (if c.name = name then v else .null)).stored c.dataType) := by
  subst ht
  apply slot_of_mem_zip hnames
  rw [cellsWith_eq, zip_columns]
  exact List.mem_map_of_mem hc

theorem slot_cellsWith_self (ht : t.columns = columns) (hnames : (columns.map (·.name)).Nodup)
    (hd : d ∈ columns) (v : Value) :
    t.slot (cellsWith columns d.name v) d.name
      = (d.dataType, (Cell.ofValue v).stored d.dataType) := by
  rw [slot_cellsWith ht hnames hd, if_pos rfl]

/-- A table is lawful with rows whose values in the one column do not repeat each other. -/
theorem lawful_cellsWith (hcolumns : Table.Lawful { columns }) (hd : d ∈ columns)
    {vs : List Value} (hvs : StoredApart d.dataType vs) :
    Table.Lawful { columns, rows := vs.map (cellsWith columns d.name) } where
  columns := hcolumns.columns
  distinct := hcolumns.distinct
  width := by
    intro cells hcells
    obtain ⟨v, -, rfl⟩ := List.mem_map.mp hcells
    exact length_storedRow (length_rowWith ..)
  keys := by
    intro c hc _
    rw [List.pairwise_map]
    refine hvs.imp ?_
    intro v w hne hv _
    have hslot := slot_cellsWith (t := { columns, rows := vs.map (cellsWith columns d.name) }) rfl
      hcolumns.nodup hc d.name
    rw [hslot] at hv
    rw [hslot, hslot]
    by_cases hname : c.name = d.name
    · rw [if_pos hname, if_pos hname, List.inj_on_of_nodup_map hcolumns.nodup hc hd hname]
      exact hne
    · rw [if_neg hname] at hv
      exact absurd (Cell.stored_null _) hv

end Table

namespace Store

variable {s : Store} {id : Int64} {columns : List Column} {d : Column}

/-- Rows whose values in one column do not repeat each other are taken in. -/
theorem insert_rowWith (hcolumns : Table.Lawful { columns }) (hd : d ∈ columns) {vs : List Value}
    (hvs : Table.StoredApart d.dataType vs) (hs : s.find? id = some { columns }) :
    s.insert id (vs.map (Table.rowWith columns d.name))
      = .ok (s.put id { columns, rows := vs.map (Table.cellsWith columns d.name) }) := by
  have hwidth : ∀ row ∈ vs.map (Table.rowWith columns d.name),
      row.length = columns.length := by
    intro row hrow
    obtain ⟨v, -, rfl⟩ := List.mem_map.mp hrow
    exact Table.length_rowWith ..
  have hrows : (vs.map (Table.rowWith columns d.name)).map (Table.storedRow { columns })
      = vs.map (Table.cellsWith columns d.name) := by
    rw [List.map_map]
    rfl
  have happend := (hcolumns.appendRows_eq_ok_iff id 1).mpr
    ⟨hwidth, rfl, by rw [hrows]; exact Table.lawful_cellsWith hcolumns hd hvs⟩
  rw [insert_eq, hs]
  dsimp only
  rw [happend, hrows]
  rfl

end Store

end MailMerge
