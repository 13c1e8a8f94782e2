import MailMerge.Proofs.Document.Json.Written
import MailMerge.Proofs.Store.Failing

/-!
# Where an import puts values

An import reads a value for each column it is told of, and the table takes the values of a row
by their position. So they stand where their names say if the columns were told in the order of
the table, and in every other order some import puts a value where it does not belong.
-/

namespace MailMerge

namespace Cell

theorem toNumber_ne_null {cell : Cell} (h : cell ≠ .null) : cell.toNumber ≠ .null := by
  cases cell with
  | null => exact absurd rfl h
  | int i => exact Cell.noConfusion
  | real d => exact ofDouble_ne_null d
  | text s =>
    rw [toNumber]
    cases hnumber : number? s with
    | none => exact Cell.noConfusion
    | some cell =>
      rintro rfl
      exact number?_ne_null hnumber

/-- A column does not lose what is put into it. -/
theorem stored_ne_null {t : DataType} {cell : Cell} (h : cell ≠ .null) : cell.stored t ≠ .null := by
  have hcompared : cell.compared t ≠ .null := by
    cases t with
    | string => cases cell <;> first | exact absurd rfl h | exact Cell.noConfusion
    | _ => exact toNumber_ne_null h
  unfold stored
  split
  · exact Cell.noConfusion
  · exact hcompared

end Cell

-- ---------------------------------------------------------------------------
-- Columns in another order
-- ---------------------------------------------------------------------------

/-- Columns that have the names and types of others, in some order. -/
def SameColumns (given columns : List Column) : Prop :=
  (given.map fun c => (c.name, c.dataType)).Perm (columns.map fun c => (c.name, c.dataType))

instance (given columns : List Column) : Decidable (SameColumns given columns) :=
  inferInstanceAs (Decidable (List.Perm _ _))

variable {given columns : List Column}

theorem SameColumns.length_eq (h : SameColumns given columns) : given.length = columns.length := by
  simpa [SameColumns] using List.Perm.length_eq h

theorem SameColumns.names (h : SameColumns given columns) :
    (given.map (·.name)).Perm (columns.map (·.name)) := by
  simpa [Function.comp_def] using List.Perm.map Prod.fst h

/-- In the order of the names, each column has the type of the one it stands for. -/
theorem SameColumns.forall₂ (h : SameColumns given columns)
    (hnames : given.map (·.name) = columns.map (·.name)) (hnodup : (columns.map (·.name)).Nodup) :
    List.Forall₂ (fun c d => c.name = d.name ∧ c.dataType = d.dataType) given columns := by
  induction columns generalizing given with
  | nil =>
    rw [List.map_eq_nil_iff.mp hnames]
    exact .nil
  | cons d ds ih =>
    obtain ⟨c, cs, rfl, hname, hnames⟩ := List.map_eq_cons_iff.mp hnames
    obtain ⟨hfresh, hnodup⟩ := List.nodup_cons.mp hnodup
    have hmem : (c.name, c.dataType) ∈ (d :: ds).map fun c => (c.name, c.dataType) :=
      List.Perm.mem_iff h |>.mp List.mem_cons_self
    have htype : c.dataType = d.dataType := by
      rcases List.mem_cons.mp hmem with heq | hmem
      · exact (Prod.mk.inj heq).2
      · obtain ⟨e, he, heq⟩ := List.mem_map.mp hmem
        have hename : e.name = d.name := (Prod.mk.inj heq).1.trans hname
        exact absurd (List.mem_map.mpr ⟨e, he, hename⟩) hfresh
    refine .cons ⟨hname, htype⟩ (ih ?_ hnames hnodup)
    rw [SameColumns, List.map_cons, List.map_cons, hname, htype] at h
    exact List.Perm.cons_inv h

/-- Columns in another order: some column stands where one of another name belongs. -/
theorem exists_name_ne (h : given.length = columns.length)
    (hnames : given.map (·.name) ≠ columns.map (·.name)) :
    ∃ i, ∃ (hi : i < given.length) (hi' : i < columns.length),
      given[i].name ≠ columns[i].name := by
  by_contra hall
  push Not at hall
  refine hnames (List.ext_getElem (by simpa using h) ?_)
  intro i hi hi'
  simpa using hall i (by simpa using hi) (by simpa using hi')

namespace Store

variable {s s' : Store} {id : Int64} {t : Table} {text : String} {n : Nat}

/-- Behind the rows of a table stands a row for each record of a text, with what the record gives
for some columns, from the first to the last, as the columns of the table store it. -/
def Placed (given : List Column) (id : Int64) (t : Table) (text : String) (s' : Store) : Prop :=
  ∃ records rows, (Json.read? text).bind records? = some records ∧
    List.Forall₂ (fun record row => List.Forall₂ (Context.Gives record) given row) records rows ∧
    s'.find? id = some { t with rows := t.rows ++ rows.map t.storedRow }

/-- An import places values in the table that was there, or in the one it makes. -/
theorem exists_placed_of_importText (h : s.importText id given text = (s', .ok n)) :
    ∃ t, (s.find? id = some t ∨ s.find? id = none ∧ t = { columns := given }) ∧
      Placed given id t text s' := by
  obtain ⟨d, hread, himport⟩ := importText_eq_ok h
  obtain ⟨rows, made, hrows, -, hmade, hinsert⟩ := importRecords_eq_ok himport
  obtain ⟨records, hrecords, hgives⟩ := rowsOf_eq_ok hrows
  obtain ⟨t, ht, rfl⟩ := insert_eq_ok hinsert
  refine ⟨t, ?_, records, rows, by rw [hread]; exact hrecords, hgives, find?_put ..⟩
  rcases hmade with ⟨rfl, -⟩ | ⟨hnone, hcreate⟩
  · exact .inl ht
  · rw [(create_eq_ok hcreate).1, find?_put] at ht
    exact .inr ⟨hnone, (Option.some.inj ht).symm⟩

/-- Values stand in the order in which the import was told the columns. -/
theorem placed_of_importText (ht : s.find? id = some t)
    (h : s.importText id given text = (s', .ok n)) : Placed given id t text s' := by
  obtain ⟨t', ht' | ⟨hnone, -⟩, hplaced⟩ := exists_placed_of_importText h
  · cases ht.symm.trans ht'
    exact hplaced
  · cases hnone.symm.trans ht

/-- What a record gives for columns depends on their names and types. -/
theorem gives_of_forall₂ {record : Context} {row : Row}
    (h : List.Forall₂ (fun c d : Column => c.name = d.name ∧ c.dataType = d.dataType) given columns)
    (hrow : List.Forall₂ record.Gives given row) : List.Forall₂ record.Gives columns row := by
  induction h generalizing row with
  | nil => exact hrow
  | cons hcd _ ih =>
    obtain ⟨v, rest, hv, hrest, rfl⟩ := List.forall₂_cons_left_iff.mp hrow
    refine .cons ?_ (ih hrest)
    rw [Context.Gives] at hv ⊢
    rwa [← hcd.1, ← hcd.2]

/-- If the columns were told in the order of the table, values stand where their names say. -/
theorem Placed.of_names (hsame : SameColumns given columns)
    (hnames : given.map (·.name) = columns.map (·.name)) (hnodup : (columns.map (·.name)).Nodup)
    (h : Placed given id t text s') : Placed columns id t text s' := by
  obtain ⟨records, rows, hrecords, hgives, hfind⟩ := h
  refine ⟨records, rows, hrecords, hgives.imp ?_, hfind⟩
  exact fun record row => gives_of_forall₂ (hsame.forall₂ hnames hnodup)

-- ---------------------------------------------------------------------------
-- Columns told in another order
-- ---------------------------------------------------------------------------

/-- What a record gives for a column is taken over. -/
theorem importedValue_of_gives {record : Context} {c : Column} {v : Value} (position : Nat)
    (h : record.Gives c v) : importedValue position record c = .ok v := by
  rw [Context.Gives] at h
  rw [importedValue]
  split at h
  · next hget =>
    rw [hget, h]
    rfl
  · next hget =>
    rw [hget, h]
    rfl
  · next raw hraw hget =>
    rw [hget, Option.getD_some]
    split
    · exact absurd rfl hraw
    · rw [h]

/-- A record gives one value for a column. -/
theorem gives_unique {record : Context} {c : Column} {v w : Value} (hv : record.Gives c v)
    (hw : record.Gives c w) : v = w := by
  have hread := importedValue_of_gives 1 hv
  have hread' := importedValue_of_gives 1 hw
  exact Except.ok.inj (hread.symm.trans hread')

/-- A scalar that every column of a type takes for a value. -/
def sample : DataType → Scalar
  | .datetime => .text "2024-03-01T09:00:00Z"
  | _ => .int 1

theorem exact_sample (t : DataType) : (sample t).Exact := by
  cases t <;> decide

theorem coerce?_sample (t : DataType) :
    ∃ v, t.coerce? (Value.ofScalar (sample t)) = some v ∧ Cell.ofValue v ≠ .null := by
  cases t with
  | datetime => exact ⟨.time ⟨1709283600, 0⟩, by decide +kernel, Cell.noConfusion⟩
  | double => exact ⟨.double (.ofInt 1), by decide +kernel, by decide +kernel⟩
  | integer | boolean | string => exact ⟨_, rfl, Cell.noConfusion⟩

/-- One record, with a value for one column. -/
def lone (c : Column) : Document := .list [.record [(c.name, .scalar (sample c.dataType))]]

theorem read?_lone (c : Column) : Json.read? (Json.write (lone c)) = some (lone c) := by
  apply Json.read?_write
  · exact ⟨⟨exact_sample c.dataType, trivial⟩, trivial⟩
  · have hdepth : (lone c).depth = 2 := rfl
    rw [hdepth]
    decide

theorem records?_lone (c : Column) :
    records? (lone c) = some [[(c.name, Value.ofScalar (sample c.dataType))]] := by
  cases c with
  | mk name dataType isKey => cases dataType <;> rfl

theorem gives_lone {c d : Column} {v : Value}
    (hv : c.dataType.coerce? (Value.ofScalar (sample c.dataType)) = some v)
    (hdc : d.name = c.name → d = c) :
    Context.Gives [(c.name, Value.ofScalar (sample c.dataType))] d
      (if d.name = c.name then v else .null) := by
  rw [Context.Gives, Context.get?_cons]
  by_cases hname : d.name = c.name
  · rw [if_pos hname, if_pos hname, hdc hname]
    split
    · next h => cases h
    · next h =>
      have hnull : Value.ofScalar (sample c.dataType) = .null := Option.some.inj h
      rw [hnull, DataType.coerce?] at hv
      cases hv
    · next h =>
      cases h
      exact hv
  · rw [if_neg hname, if_neg hname]
    rfl

/-- The record is read as a row that has a value beside the one column only. -/
theorem rowsOf_lone {c : Column} {v : Value} (hnodup : (given.map (·.name)).Nodup)
    (hc : c ∈ given) (hv : c.dataType.coerce? (Value.ofScalar (sample c.dataType)) = some v) :
    rowsOf given (lone c) = .ok [given.map fun d => if d.name = c.name then v else .null] := by
  have hrow : given.mapM (importedValue 1 [(c.name, Value.ofScalar (sample c.dataType))])
      = .ok (given.map fun d => if d.name = c.name then v else .null) := by
    rw [mapM_eq_ok_iff, List.forall₂_map_right_iff, List.forall₂_same]
    intro d hd
    apply importedValue_of_gives
    exact gives_lone hv fun hname => List.inj_on_of_nodup_map hnodup hd hc hname
  rw [rowsOf, records?_lone]
  simp only [importedRows, hrow, bind, Except.bind, pure, Except.pure]

theorem importText_lone {c : Column} {v : Value} (hcolumns : Table.Lawful { columns })
    (hsame : SameColumns given columns) (hc : c ∈ given)
    (hv : c.dataType.coerce? (Value.ofScalar (sample c.dataType)) = some v) :
    ∃ s', (empty.put 1 { columns }).importText 1 given (Json.write (lone c)) = (s', .ok 1) := by
  have hnodup : (given.map (·.name)).Nodup := hsame.names.nodup_iff.mpr hcolumns.nodup
  have hrows := rowsOf_lone hnodup hc hv
  generalize given.map (fun d => if d.name = c.name then v else .null) = row at hrows
  have hwidth : ∀ r ∈ [row], r.length = columns.length := fun r hr =>
    (length_of_rowsOf hrows r hr).trans hsame.length_eq
  have hlawful : Table.Lawful { columns, rows := [Table.storedRow { columns } row] } := by
    refine ⟨hcolumns.columns, hcolumns.distinct, ?_, ?_⟩
    · intro cells hcells
      rw [List.mem_singleton.mp hcells]
      exact Table.length_storedRow (hwidth row List.mem_cons_self)
    · exact fun d _ _ => List.pairwise_singleton ..
  have happend := (hcolumns.appendRows_eq_ok_iff 1 1).mpr ⟨hwidth, rfl, hlawful⟩
  simp [importText, read?_lone, importRecords, hrows, find?_put, insert_eq, happend]

theorem getElem?_storedRow {row : Row} {i : Nat} (hi : i < t.columns.length)
    (hrow : i < row.length) :
    (t.storedRow row)[i]? = some ((Cell.ofValue row[i]).stored t.columns[i].dataType) := by
  have hstored : i < (t.storedRow row).length := by
    simpa [Table.storedRow] using And.intro hi hrow
  rw [List.getElem?_eq_getElem hstored]
  simp [Table.storedRow]

/-- Rows of which one has a value where the other has none are stored as different rows. -/
theorem storedRow_ne {row row' : Row} {i : Nat} (hi : i < t.columns.length)
    (hrow : i < row.length) (hrow' : i < row'.length) (hcell : Cell.ofValue row[i] ≠ .null)
    (hnull : row'[i] = .null) : t.storedRow row ≠ t.storedRow row' := by
  intro heq
  have hat := congrArg (·[i]?) heq
  simp only [getElem?_storedRow hi hrow, getElem?_storedRow hi hrow', hnull,
    Option.some.injEq] at hat
  exact Cell.stored_ne_null hcell (hat.trans (Cell.stored_null _))

/-- In any other order, there is an import that puts a value where another belongs. -/
theorem exists_not_placed (hcolumns : Table.Lawful { columns })
    (hsame : SameColumns given columns) (hnames : given.map (·.name) ≠ columns.map (·.name)) :
    ∃ text s', (empty.put 1 { columns }).importText 1 given text = (s', .ok 1) ∧
      ¬Placed columns 1 { columns } text s' := by
  obtain ⟨i, hi, hi', hne⟩ := exists_name_ne hsame.length_eq hnames
  obtain ⟨v, hv, hcell⟩ := coerce?_sample given[i].dataType
  obtain ⟨s', himport⟩ := importText_lone hcolumns hsame (List.getElem_mem hi) hv
  refine ⟨_, s', himport, ?_⟩
  rintro ⟨records, rows, hrecords, hgives, hfind⟩
  obtain ⟨records', rows', hrecords', hgives', hfind'⟩ := placed_of_importText (find?_put ..) himport
  rw [read?_lone, Option.bind_some, records?_lone] at hrecords hrecords'
  cases hrecords
  cases hrecords'
  obtain ⟨row, _, hrow, hnil, rfl⟩ := List.forall₂_cons_left_iff.mp hgives
  obtain ⟨row', _, hrow', hnil', rfl⟩ := List.forall₂_cons_left_iff.mp hgives'
  rw [List.forall₂_nil_left_iff.mp hnil] at hfind
  rw [List.forall₂_nil_left_iff.mp hnil'] at hfind'
  have hrows := congrArg Table.rows (Option.some.inj (hfind'.symm.trans hfind))
  have hstored : Table.storedRow { columns } row' = Table.storedRow { columns } row := by
    simpa using hrows
  have hlength : i < row.length := hrow.length_eq ▸ hi'
  have hlength' : i < row'.length := hrow'.length_eq ▸ hi
  -- The column that was told in this place is given the value, the one that stands in it nothing.
  have hvalue : row'[i] = v := by
    have hgiven := gives_lone (d := given[i]) hv fun _ => rfl
    rw [if_pos rfl] at hgiven
    exact gives_unique (hrow'.get hi hlength') hgiven
  have hnull : row[i] = .null := by
    have hgiven := gives_lone (d := columns[i]) hv fun h => absurd h.symm hne
    rw [if_neg (Ne.symm hne)] at hgiven
    exact gives_unique (hrow.get hi' hlength) hgiven
  exact storedRow_ne hi' hlength' hlength (hvalue ▸ hcell) hnull hstored

/-- An import puts values where it was told the columns, which is where they belong if the order
is that of the table. For every other order there is a table and a text of which this goes
wrong without an error. -/
theorem placed_by_name_iff (hcolumns : Table.Lawful { columns })
    (hsame : SameColumns given columns) :
    (∀ (s : Store) id t text s' n, s.find? id = some t → t.columns = columns →
      s.importText id given text = (s', .ok n) →
        Placed given id t text s' ∧
          (given.map (·.name) = columns.map (·.name) → Placed columns id t text s')) ∧
    (given.map (·.name) ≠ columns.map (·.name) →
      ∃ (s : Store) (id : Int64) (t : Table) (text : String) (s' : Store) (n : Nat),
        s.Lawful ∧ s.find? id = some t ∧ t.columns = columns ∧
        s.importText id given text = (s', .ok n) ∧ ¬Placed columns id t text s') := by
  refine ⟨?_, ?_⟩
  · intro s id t text s' n ht _ himport
    have hplaced := placed_of_importText ht himport
    exact ⟨hplaced, fun hnames => hplaced.of_names hsame hnames hcolumns.nodup⟩
  · intro hnames
    obtain ⟨text, s', himport, hmisplaced⟩ := exists_not_placed hcolumns hsame hnames
    have hempty : empty.Lawful := fun id t ht => nomatch ht
    exact ⟨_, 1, _, text, s', 1, Every.put hempty hcolumns, find?_put .., rfl, himport, hmisplaced⟩

def pairColumns : List Column := [⟨"a", .integer, false⟩, ⟨"b", .integer, false⟩]

def pairText : String := "[\x7b\"a\":1,\"b\":2\x7d]"

theorem lawful_pairColumns : Table.Lawful { columns := pairColumns } :=
  Table.lawful_of_distinct (by decide) (by decide +kernel)

theorem placed_by_name_iff_pair :
    (Table.Lawful { columns := pairColumns } ∧ SameColumns pairColumns.reverse pairColumns) ∧
    (∃ s', (empty.put 1 { columns := pairColumns }).importText 1 pairColumns pairText
        = (s', .ok 1) ∧ Placed pairColumns 1 { columns := pairColumns } pairText s') ∧
    ∃ (s : Store) (id : Int64) (t : Table) (text : String) (s' : Store) (n : Nat),
      s.Lawful ∧ s.find? id = some t ∧ t.columns = pairColumns ∧
      s.importText id pairColumns.reverse text = (s', .ok n) ∧ ¬Placed pairColumns id t text s' := by
  have hsame : SameColumns pairColumns pairColumns := by decide +kernel
  have hreverse : SameColumns pairColumns.reverse pairColumns := by decide +kernel
  have himport : (empty.put 1 { columns := pairColumns }).importText 1 pairColumns pairText
      = (empty.put 1 { columns := pairColumns, rows := [[.int 1, .int 2]] }, .ok 1) := by
    decide +kernel
  have hplaced := (placed_by_name_iff lawful_pairColumns hsame).1 _ _ _ _ _ _ rfl rfl himport
  have hmisplaced := (placed_by_name_iff lawful_pairColumns hreverse).2 (by decide +kernel)
  exact ⟨⟨lawful_pairColumns, hreverse⟩, ⟨_, himport, hplaced.2 rfl⟩, hmisplaced⟩

/-- The columns are told in the opposite order, and the values change places. -/
theorem not_placed_pair :
    ∃ s', (empty.put 1 { columns := pairColumns }).importText 1 pairColumns.reverse pairText
        = (s', .ok 1) ∧
      SameColumns pairColumns.reverse pairColumns ∧
      s'.rows 1 none ["a", "b"] = .ok [[.int 2, .int 1]] ∧
      ¬Placed pairColumns 1 { columns := pairColumns } pairText s' := by
  have hread : (Json.read? pairText).bind records? = some [[("a", .int 1), ("b", .int 2)]] := by
    decide +kernel
  refine ⟨empty.put 1 { columns := pairColumns, rows := [[.int 2, .int 1]] }, by decide +kernel,
    by decide +kernel, by decide +kernel, ?_⟩
  rintro ⟨records, rows, hrecords, hgives, hfind⟩
  cases hread.symm.trans hrecords
  obtain ⟨row, _, hrow, hnil, rfl⟩ := List.forall₂_cons_left_iff.mp hgives
  cases hnil
  obtain ⟨v, rest, hv, hrest, rfl⟩ := List.forall₂_cons_left_iff.mp hrow
  obtain ⟨w, _, hw, hnil, rfl⟩ := List.forall₂_cons_left_iff.mp hrest
  cases hnil
  cases gives_unique hv (w := .int 1) rfl
  cases gives_unique hw (w := .int 2) rfl
  cases hfind

end Store

end MailMerge
