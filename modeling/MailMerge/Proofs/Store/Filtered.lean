import MailMerge.Proofs.Predicate.Leaf
import MailMerge.Proofs.Store.Single

/-!
# Rows that a leaf keeps

A table is stocked with values of its columns' types. A leaf on one of the columns is asked about
the value in it alone, so what holds of all rows of all tables with these columns holds of all
values of the column's type, and the other way round.
-/

namespace MailMerge

/-- A value of a type, of which an instant is one that clocks show. -/
def Value.HasType (t : DataType) (v : Value) : Prop := v.dataType? = some t ∧ v.OnClock

instance (t : DataType) (v : Value) : Decidable (v.HasType t) :=
  inferInstanceAs (Decidable (_ ∧ _))

namespace Table

/-- A row with null or a value of the column's type for each column. -/
def StocksRow (columns : List Column) (row : Row) : Prop :=
  List.Forall₂ (fun c v => v = .null ∨ Value.HasType c.dataType v) columns row

/-- A table whose columns have different names, and whose rows were put in with null or a value of
the column's type for each column. -/
structure Stocked (t : Table) : Prop where
  distinct : t.names.Nodup
  rows : ∀ cells ∈ t.rows, ∃ row, StocksRow t.columns row ∧ cells = t.storedRow row

variable {t : Table} {columns : List Column} {cells : List Cell} {d : Column} {v : Value}

theorem Stocked.append (ht : t.Stocked) {rows : List Row}
    (hrows : ∀ row ∈ rows, StocksRow t.columns row) :
    Stocked { t with rows := t.rows ++ rows.map t.storedRow } where
  distinct := ht.distinct
  rows := by
    intro cells hcells
    rcases List.mem_append.mp hcells with hcells | hcells
    · exact ht.rows cells hcells
    · obtain ⟨row, hrow, rfl⟩ := List.mem_map.mp hcells
      exact ⟨row, hrows row hrow, rfl⟩

/-- A slot of a stocked table is empty or has what its column stores for a value of its type. -/
theorem Stocked.slot (ht : t.Stocked) (hcells : cells ∈ t.rows) (hd : d ∈ t.columns)
    (hnull : (t.slot cells d.name).2 ≠ .null) :
    ∃ v : Value, v.HasType d.dataType ∧
      t.slot cells d.name = (d.dataType, (Cell.ofValue v).stored d.dataType) := by
  obtain ⟨row, hrow, rfl⟩ := ht.rows cells hcells
  obtain ⟨cell, hslot, v, hv, rfl⟩ := exists_slot ht.distinct (forall₂_storedRow hrow) hd
  rcases hv with rfl | hv
  · rw [hslot, Cell.ofValue, Cell.stored_null] at hnull
    exact absurd rfl hnull
  · exact ⟨v, hv, hslot⟩

/-- A row with a value in one column and nothing in the others. -/
theorem stocksRow_rowWith (hcolumns : Table.Lawful { columns }) (hd : d ∈ columns)
    (hv : v.HasType d.dataType) : StocksRow columns (rowWith columns d.name v) := by
  rw [StocksRow, rowWith, List.forall₂_map_right_iff, List.forall₂_same]
  intro c hc
  by_cases hname : c.name = d.name
  · rw [if_pos hname, List.inj_on_of_nodup_map hcolumns.nodup hc hd hname]
    exact .inr hv
  · rw [if_neg hname]
    exact .inl rfl

end Table

namespace Store

/-- A store whose table was made with the given columns and stocked with values of their types,
whatever was done to other tables. -/
inductive Stocked (id : Int64) (columns : List Column) : Store → Prop
  | created {s s' : Store} (h : s.create id columns = .ok s') : Stocked id columns s'
  | inserted {s s' : Store} {rows : List Row} (hs : Stocked id columns s)
    (hrows : ∀ row ∈ rows, Table.StocksRow columns row)
    (h : s.insert id rows = .ok s') : Stocked id columns s'
  | elsewhere {s s' : Store} (hs : Stocked id columns s) (h : s'.find? id = s.find? id) :
    Stocked id columns s'

/-- A stocked store has a stocked table, by induction on how it was stocked. -/
theorem Stocked.table {s : Store} {id : Int64} {columns : List Column}
    (h : s.Stocked id columns) : ∃ t, s.find? id = some t ∧ t.columns = columns ∧ t.Stocked := by
  induction h with
  | created h =>
    obtain ⟨rfl, -, hdistinct⟩ := create_eq_ok h
    exact ⟨_, find?_put .., rfl, nodup_of_checkDistinct hdistinct, fun _ h => nomatch h⟩
  | inserted _ hrows h ih =>
    obtain ⟨t, ht, rfl⟩ := insert_eq_ok h
    obtain ⟨t', ht', rfl, hstocked⟩ := ih
    cases ht'.symm.trans ht
    exact ⟨_, find?_put .., rfl, hstocked.append hrows⟩
  | elsewhere _ h ih =>
    obtain ⟨t, ht, hcolumns, hstocked⟩ := ih
    exact ⟨t, h.trans ht, hcolumns, hstocked⟩

/-- A filter keeps some of the rows that are read without it, whatever columns are read. -/
def Keeps (s : Store) (id : Int64) (f : Formula) (t : Table) (keep : List Cell → Bool) : Prop :=
  ∀ ns, ns ≠ [] → (∀ n ∈ ns, n ∈ t.names) →
    s.rows id none ns = .ok (t.ordered.map (t.project ns)) ∧
    s.rows id (some f) ns = .ok ((t.ordered.filter keep).map (t.project ns))

variable {s : Store} {id : Int64} {t : Table} {c : Comparison} {keep : List Cell → Bool}

theorem keeps_leaf (hs : s.find? id = some t) (hfield : c.field ∈ t.names) (hgiven : c.Given) :
    s.Keeps id (.leaf c) t fun cells => c.selects (t.slot cells c.field) := by
  obtain ⟨p, hp⟩ := hgiven.compile_eq_ok hfield
  have hfilter : compileFilter t (some (.leaf c)) = .ok (some p) := by
    rw [compileFilter, Formula.compile, Formula.fold, hp]
    rfl
  have hselected : t.selected (some p)
      = t.ordered.filter fun cells => c.selects (t.slot cells c.field) :=
    List.filter_congr fun cells _ => Comparison.selects_compile hp (t.slot cells)
  intro ns hne hns
  have hall : t.selected none = t.ordered := List.filter_eq_self.mpr fun _ _ => rfl
  rw [rows_of_compileFilter hs (p := none) rfl hne hns, hall,
    rows_of_compileFilter hs hfilter hne hns, hselected]
  exact ⟨rfl, rfl⟩

/-- Of a single row it can be seen whether a filter keeps it. -/
theorem Keeps.eq_of_single {f : Formula} {cells : List Cell} {keep' : List Cell → Bool}
    (h : s.Keeps id f t keep) (h' : s.Keeps id f t keep') (hrows : t.rows = [cells])
    (hnames : t.names ≠ []) : keep cells = keep' cells := by
  have hordered : t.ordered = [cells] := List.perm_singleton.mp (hrows ▸ t.ordered_perm)
  have hread := (h t.names hnames fun n hn => hn).2.symm.trans (h' t.names hnames fun n hn => hn).2
  have hlength := congrArg List.length (Except.ok.inj hread)
  simp only [hordered, List.length_map, List.filter_singleton] at hlength
  cases hkeep : keep cells <;> cases hkeep' : keep' cells <;>
    simp [hkeep, hkeep'] at hlength <;> rfl

/-- Into a table that was made any value of a column's type can be put. -/
theorem exists_stocked {made : Store} {columns : List Column} {d : Column} {v : Value}
    (hmade : s.create id columns = .ok made) (hd : d ∈ columns) (hv : v.HasType d.dataType) :
    ∃ (s' : Store) (t : Table), s'.Stocked id columns ∧ s'.find? id = some t ∧ t.columns = columns ∧
      t.rows = [Table.cellsWith columns d.name v] ∧
      t.slot (Table.cellsWith columns d.name v) d.name
        = (d.dataType, (Cell.ofValue v).stored d.dataType) := by
  obtain ⟨rfl, hne, hdistinct⟩ := create_eq_ok hmade
  have hlawful := Table.lawful_of_distinct hne (pairwise_of_checkDistinct hdistinct)
  have hapart : Table.StoredApart d.dataType [v] := List.pairwise_singleton ..
  have hinsert := insert_rowWith hlawful hd hapart (find?_put s id { columns })
  refine ⟨_, _, .inserted (.created hmade) ?_ hinsert, find?_put .., rfl, rfl,
    Table.slot_cellsWith_self rfl hlawful.nodup hd v⟩
  exact List.forall_mem_singleton.mpr (Table.stocksRow_rowWith hlawful hd hv)

end Store

/-- What is read back from a column of a row where anything is. -/
def Table.Shows (t : Table) (cells : List Cell) (n : String) (v : Value) : Prop :=
  (t.context cells).get? n = some v ∧ v ≠ .null

/-- What relates a value, whether its row is kept and the truth of the leaf holds of all rows of
all tables with the columns exactly if it holds of all values of the type of the leaf's
column. -/
theorem Comparison.forall_rows_iff {s made : Store} {id : Int64} {columns : List Column}
    (hmade : s.create id columns = .ok made) {d : Column} (hd : d ∈ columns) {c : Comparison}
    (hfield : c.field = d.name) (hgiven : c.Given) {R : Value → Bool → Option Bool → Prop} :
    (∀ (s : Store) (id : Int64), s.Stocked id columns →
      ∃ t keep, s.find? id = some t ∧ s.Keeps id (.leaf c) t keep ∧
        ∀ cells ∈ t.rows, ∀ v, t.Shows cells d.name v →
          R v (keep cells) ((Formula.leaf c).isTrue (some (t.context cells))).toOption) ↔
      ∀ v : Value, v.HasType d.dataType →
        ((Cell.ofValue v).stored d.dataType).toValue d.dataType ≠ .null →
        R (((Cell.ofValue v).stored d.dataType).toValue d.dataType)
          (c.selects (d.dataType, (Cell.ofValue v).stored d.dataType))
          (c.answer? (((Cell.ofValue v).stored d.dataType).toValue d.dataType)) := by
  have hname : ∀ {t : Table}, t.columns = columns → d.name ∈ t.names := fun ht => by
    rw [Table.names, ht]
    exact List.mem_map_of_mem hd
  have hget : ∀ {t : Table} (cells : List Cell), t.columns = columns →
      (t.context cells).get? c.field
        = some ((t.slot cells d.name).2.toValue (t.slot cells d.name).1) :=
    fun cells ht => by rw [hfield]; exact Table.get?_context _ cells (hname ht)
  have hanswer : ∀ {t : Table} {cells : List Cell} {v : Value},
      (t.context cells).get? c.field = some v →
      ((Formula.leaf c).isTrue (some (t.context cells))).toOption = c.answer? v :=
    fun h => toOption_isTrue h
  constructor
  · intro h v hv hnull
    obtain ⟨s', t, hstocked, hs', ht, hrows, hslot⟩ := Store.exists_stocked hmade hd hv
    obtain ⟨t', keep, ht', hkeep, hcells⟩ := h s' id hstocked
    cases ht'.symm.trans hs'
    have hkeeps := Store.keeps_leaf hs' (by rw [hfield]; exact hname ht) hgiven
    have hshows := hget (Table.cellsWith columns d.name v) ht
    rw [hslot] at hshows
    have hrow := hcells (Table.cellsWith columns d.name v) (by rw [hrows]; exact List.mem_cons_self)
      _ ⟨hfield ▸ hshows, hnull⟩
    rwa [hkeep.eq_of_single hkeeps hrows (List.ne_nil_of_mem (hname ht)), hfield, hslot,
      hanswer hshows] at hrow
  · rintro h s id hs
    obtain ⟨t, ht, rfl, hstocked⟩ := hs.table
    refine ⟨t, _, ht, Store.keeps_leaf ht (by rw [hfield]; exact hname rfl) hgiven, ?_⟩
    rintro cells hcells w ⟨hw, hnull⟩
    have hshows := hget cells rfl
    rw [hfield, hw, Option.some_inj] at hshows
    have hcell : (t.slot cells d.name).2 ≠ .null := by
      intro hcell
      rw [hshows, hcell] at hnull
      exact hnull rfl
    obtain ⟨v, hv, hslot⟩ := hstocked.slot hcells hd hcell
    rw [hslot] at hshows
    rw [hanswer (hfield ▸ hw), hfield, hslot, hshows]
    exact h v hv (hshows ▸ hnull)

end MailMerge
