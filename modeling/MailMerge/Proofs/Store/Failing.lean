import MailMerge.Proofs.Store.Import
import MailMerge.Proofs.Store.Lawful
import MailMerge.Proofs.Workflow.Names

/-!
# Calls that fail

What is left of a call that fails, on a database that is not in the middle of a transaction.
Making, filling and renaming leave everything as it was, and so does renaming in a workflow.
An import makes its table before it puts rows into it, so that one whose rows repeat a key
leaves the table behind, without rows.
-/

namespace MailMerge

namespace Store

variable {id : Int64} {t t' : Table} {columns : List Column} {position : Nat} {rows : List Row}

theorem length_of_appendRows (h : appendRows id position t rows = .ok t') :
    ∀ row ∈ rows, row.length = t.columns.length := by
  induction rows generalizing t position with
  | nil => exact fun row hrow => nomatch hrow
  | cons row rest ih =>
    rw [appendRows_cons] at h
    split at h
    · next hwidth =>
      split at h
      · cases h
      · have hrest := ih h
        exact List.forall_mem_cons.mpr ⟨hwidth, hrest⟩
    · cases h

/-- Rows of the right width are refused for a key only. -/
theorem appendRows_eq_error {e : StoreError} (h : appendRows id position t rows = .error e)
    (hwidth : ∀ row ∈ rows, row.length = t.columns.length) :
    ∃ column, e = .repeatedKey (tableName id) column := by
  induction rows generalizing t position with
  | nil => cases h
  | cons row rest ih =>
    obtain ⟨hrow, hrest⟩ := List.forall_mem_cons.mp hwidth
    rw [appendRows_cons, if_pos hrow] at h
    split at h
    · next column _ =>
      cases h
      exact ⟨column, rfl⟩
    · exact ih h hrest

/-- Rows are read from records, one from each. -/
theorem rowsOf_eq_ok {d : Document} (h : rowsOf columns d = .ok rows) :
    ∃ records, records? d = some records ∧
      List.Forall₂ (fun record row => List.Forall₂ (Context.Gives record) columns row)
        records rows := by
  rw [rowsOf] at h
  split at h
  · cases h
  · next records hrecords => exact ⟨records, hrecords, gives_of_importedRows h⟩

theorem length_of_rowsOf {d : Document} (h : rowsOf columns d = .ok rows) :
    ∀ row ∈ rows, row.length = columns.length := by
  obtain ⟨records, -, hgives⟩ := rowsOf_eq_ok h
  intro row hrow
  obtain ⟨record, -, hrecord⟩ := exists_mem_of_forall₂ hgives hrow
  exact hrecord.length_eq.symm

end Store

namespace Database

variable {db db' : Database} {id : Int64} {columns : List Column} {rows : List Row}
  {e : StoreError} {n : Nat}

-- ---------------------------------------------------------------------------
-- Single calls
-- ---------------------------------------------------------------------------

theorem unchanged_of_create (h : (create id columns).run db = .error e db') : db' = db := by
  rw [run_create, run_make] at h
  split at h
  · cases h
    rfl
  · split at h
    · cases h
      rfl
    · split at h
      · cases h
        rfl
      · split at h
        · cases h
          rfl
        · cases h

/-- A table that is made was not there before, and can be made of its columns. -/
theorem run_create_eq_ok (h : (create id columns).run db = .ok () db') :
    db.tables (Store.tableName id) = none ∧ db' = db.put (Store.tableName id) { columns } ∧
      Table.Lawful { columns } := by
  rw [run_create, run_make] at h
  split at h
  · cases h
  · next hempty =>
    split at h
    · cases h
    · next hnone =>
      split at h
      · cases h
      · split at h
        · cases h
        · next hdistinct =>
          cases h
          have hne : columns ≠ [] := by simpa using hempty
          refine ⟨by simpa using hnone, rfl, ?_⟩
          exact Table.lawful_of_distinct hne (Store.pairwise_of_checkDistinct hdistinct)

theorem unchanged_of_insert (hdb : db.AtRest) (h : (insert id rows).run db = .error e db') :
    db' = db := by
  rw [run_insert hdb] at h
  split at h
  · cases h
    rfl
  · split at h
    · cases h
    · cases h
      rfl

/-- Rows that are put in stand, as they are stored, behind those that were there. -/
theorem run_insert_eq_ok (hdb : db.AtRest) (h : (insert id rows).run db = .ok n db') :
    n = rows.length ∧ ∃ t, db.tables (Store.tableName id) = some t ∧
      (∀ row ∈ rows, row.length = t.columns.length) ∧
      db' = db.put (Store.tableName id) { t with rows := t.rows ++ rows.map t.storedRow } := by
  rw [run_insert hdb] at h
  split at h
  · cases h
  · next t ht =>
    split at h
    · next t' happend =>
      cases h
      rw [Table.appendRows_eq_ok happend]
      exact ⟨rfl, t, ht, Store.length_of_appendRows happend, rfl⟩
    · cases h

theorem unchanged_of_renameColumn {old new : String}
    (h : (renameColumn id old new).run db = .error e db') : db' = db := by
  rw [run_renameColumn] at h
  split at h
  · cases h
    rfl
  · split at h
    · cases h
      rfl
    · split at h
      · cases h
        rfl
      · split at h
        · cases h
          rfl
        · split at h
          · cases h
            rfl
          · cases h

/-- A call that makes a table, fills one or renames a column of one changes nothing if it fails,
and neither does renaming in a workflow. Rows that are put in stand, one for each that was
given and as its columns store them, behind those that were there. -/
theorem calls_all_or_nothing (hdb : db.AtRest) (w : Workflow) (id : Int64) :
    (∀ columns e db', (create id columns).run db = .error e db' → db' = db) ∧
    (∀ rows e db', (insert id rows).run db = .error e db' → db' = db) ∧
    (∀ old new e db', (renameColumn id old new).run db = .error e db' → db' = db) ∧
    (∀ old new e w', (Workflow.renameInPlace old new).run w = .error e w' → w' = w) ∧
    ∀ rows n db', (insert id rows).run db = .ok n db' →
      n = rows.length ∧ ∃ t, db.tables (Store.tableName id) = some t ∧
        (∀ row ∈ rows, row.length = t.columns.length) ∧
        db' = db.put (Store.tableName id) { t with rows := t.rows ++ rows.map t.storedRow } := by
  refine ⟨?_, ?_, ?_, ?_, ?_⟩
  · intro columns e db' h
    exact unchanged_of_create h
  · intro rows e db' h
    exact unchanged_of_insert hdb h
  · intro old new e db' h
    exact unchanged_of_renameColumn h
  · intro old new e w' h
    rw [Workflow.run_renameInPlace] at h
    split at h
    · cases h
    · cases h
      rfl
  · intro rows n db' h
    exact run_insert_eq_ok hdb h

/-- A guest, and one with the name of another. -/
def twiceBob : List Row :=
  [[.text "Cy", .text " 12 ", .null, .null, .null], [.text "Bob", .null, .null, .null, .null]]

theorem calls_all_or_nothing_guests :
    (ofStore Store.guestStore).AtRest ∧
    (∃ db', (insert 1 twiceBob).run (ofStore Store.guestStore)
        = .error (.repeatedKey "ontask_workflow_1" "name") db' ∧ db' = ofStore Store.guestStore) ∧
    (∃ db', (renameColumn 1 "age" "Name").run (ofStore Store.guestStore)
        = .error (.repeatedColumn "Name") db' ∧ db' = ofStore Store.guestStore) ∧
    (∃ w', (Workflow.renameInPlace "age" "name").run { id := 1, columns := Store.guestColumns }
        = .error (.inUse "name") w' ∧ w' = { id := 1, columns := Store.guestColumns }) ∧
    ∃ db', (insert 1 (twiceBob.take 1)).run (ofStore Store.guestStore) = .ok 1 db' ∧
      ∃ t, (ofStore Store.guestStore).tables "ontask_workflow_1" = some t ∧
        db' = (ofStore Store.guestStore).put "ontask_workflow_1"
          { t with rows := t.rows ++ [[.text "Cy", .int 12, .null, .null, .null]] } := by
  have hrest := atRest_ofStore Store.guestStore
  obtain ⟨-, hinsert, hrename, hworkflow, hkept⟩ :=
    calls_all_or_nothing hrest { id := 1, columns := Store.guestColumns } 1
  refine ⟨hrest, ⟨_, rfl, hinsert twiceBob _ _ rfl⟩, ⟨_, rfl, hrename "age" "Name" _ _ rfl⟩,
    ⟨_, rfl, hworkflow "age" "name" _ _ rfl⟩, _, rfl, ?_⟩
  obtain ⟨-, t, ht, -, hdb'⟩ := hkept (twiceBob.take 1) _ _ rfl
  cases ht
  exact ⟨_, rfl, hdb'⟩

-- ---------------------------------------------------------------------------
-- Imports
-- ---------------------------------------------------------------------------

/-- An import that has rows and begins with making its table. -/
structure Making (db : Database) (id : Int64) (columns : List Column) (text : String)
    (rows : List Row) (made : Database) : Prop where
  read : ∃ d, Json.read? text = some d ∧ Store.rowsOf columns d = .ok rows
  create : (create id columns).run db = .ok () made

variable {text : String} {made : Database}

theorem Making.run_importText (h : db.Making id columns text rows made) :
    (importText id columns text).run db = (insert id rows).run made := by
  obtain ⟨⟨d, hread, hrows⟩, hcreate⟩ := h
  obtain ⟨hnone, -, -⟩ := run_create_eq_ok hcreate
  simp only [Database.run_importText, hread, hrows, hnone, hcreate]

theorem unchanged_of_not_making (hdb : db.AtRest)
    (hmaking : ∀ rows made, ¬db.Making id columns text rows made)
    (h : (importText id columns text).run db = .error e db') : db' = db := by
  rw [run_importText] at h
  split at h
  · cases h
    rfl
  · next d hread =>
    split at h
    · cases h
      rfl
    · next rows hrows =>
      split at h
      · exact unchanged_of_insert hdb h
      · split at h
        · next hcreate =>
          cases h
          exact unchanged_of_create hcreate
        · next made hcreate => exact absurd ⟨⟨d, hread, hrows⟩, hcreate⟩ (hmaking rows made)

/-- An import that makes its table although it cannot hold the rows: two of them have the same
cell in a key column. -/
def RepeatsKey (db : Database) (id : Int64) (columns : List Column) (text : String) : Prop :=
  ∃ rows made, db.Making id columns text rows made ∧ ∃ c ∈ columns, c.isKey = true ∧
    ¬(rows.map (Table.storedRow { columns })).Pairwise (Table.Apart { columns } c.name)

/-- Rows of the right width are refused by an empty table if two of them repeat a key. -/
theorem exists_key_of_appendRows (hempty : Table.Lawful { columns })
    (hwidth : ∀ row ∈ rows, row.length = columns.length)
    (h : Store.appendRows id 1 { columns } rows = .error e) :
    ∃ c ∈ columns, c.isKey = true ∧
      ¬(rows.map (Table.storedRow { columns })).Pairwise (Table.Apart { columns } c.name) := by
  by_contra hkeys
  push Not at hkeys
  have hlawful : Table.Lawful { columns, rows := rows.map (Table.storedRow { columns }) } := by
    refine ⟨hempty.columns, hempty.distinct, ?_, hkeys⟩
    intro cells hcells
    obtain ⟨row, hrow, rfl⟩ := List.mem_map.mp hcells
    exact Table.length_storedRow (hwidth row hrow)
  have happend := (hempty.appendRows_eq_ok_iff id 1).mpr ⟨hwidth, rfl, hlawful⟩
  cases h.symm.trans happend

/-- An import that makes its table and then fails leaves the table there, without rows. -/
theorem Making.eq_of_error (hdb : db.AtRest) (hmaking : db.Making id columns text rows made)
    (h : (importText id columns text).run db = .error e db') :
    db' = db.put (Store.tableName id) { columns } ∧ db.RepeatsKey id columns text ∧
      ∃ column, e = .repeatedKey (Store.tableName id) column := by
  have ⟨⟨d, hread, hrows⟩, hcreate⟩ := hmaking
  obtain ⟨-, rfl, hempty⟩ := run_create_eq_ok hcreate
  have hwidth := Store.length_of_rowsOf hrows
  have hmade : (db.put (Store.tableName id) { columns }).AtRest := hdb
  rw [hmaking.run_importText, run_insert hmade, tables_put] at h
  dsimp only at h
  split at h
  · cases h
  · next happend =>
    cases h
    refine ⟨rfl, ⟨rows, _, hmaking, ?_⟩, ?_⟩
    · exact exists_key_of_appendRows hempty hwidth happend
    · exact Store.appendRows_eq_error happend hwidth

/-- An import that fails leaves everything as it was, unless its table is made and cannot hold
the rows: then the table stays, without rows, and all others are as they were. -/
theorem importText_error_iff (hdb : db.AtRest)
    (h : (importText id columns text).run db = .error e db') :
    (db' = db ↔ ¬db.RepeatsKey id columns text) ∧
      (db.RepeatsKey id columns text →
        db.tables (Store.tableName id) = none ∧
        db' = db.put (Store.tableName id) { columns } ∧
        (∃ column, e = .repeatedKey (Store.tableName id) column) ∧
        ∀ id' ≠ id, db'.tables (Store.tableName id') = db.tables (Store.tableName id')) := by
  by_cases hmaking : ∃ rows made, db.Making id columns text rows made
  · obtain ⟨rows, made, hmaking⟩ := hmaking
    obtain ⟨hnone, -, -⟩ := run_create_eq_ok hmaking.create
    obtain ⟨rfl, hkey, hcolumn⟩ := hmaking.eq_of_error hdb h
    have hchanged : db.put (Store.tableName id) { columns } ≠ db := by
      intro heq
      rw [← heq, tables_put] at hnone
      cases hnone
    refine ⟨iff_of_false hchanged (not_not_intro hkey), ?_⟩
    intro _
    refine ⟨hnone, rfl, hcolumn, ?_⟩
    intro id' hid
    exact if_neg (mt (fun heq => Store.tableName_injective heq) hid)
  · push Not at hmaking
    have hkey : ¬db.RepeatsKey id columns text := by
      rintro ⟨rows, made, hmaking', -⟩
      exact hmaking rows made hmaking'
    exact ⟨iff_of_true (unchanged_of_not_making hdb hmaking h) hkey, fun h => absurd h hkey⟩

def loginColumns : List Column := [⟨"email", .string, true⟩]

/-- Two records with one key. -/
def twinText : String := "[\x7b\"email\":\"a\"\x7d,\x7b\"email\":\"a\"\x7d]"

theorem importText_error_iff_twins :
    (ofStore .empty).AtRest ∧
    (∃ db', (importText 1 loginColumns twinText).run (ofStore .empty)
        = .error (.repeatedKey "ontask_workflow_1" "email") db' ∧
      RepeatsKey (ofStore .empty) 1 loginColumns twinText ∧
      db' = (ofStore .empty).put "ontask_workflow_1" { columns := loginColumns }) ∧
    ∃ e db', (importText 1 loginColumns "[7]").run (ofStore .empty) = .error e db' ∧
      db' = ofStore .empty ∧ ¬RepeatsKey (ofStore .empty) 1 loginColumns "[7]" := by
  have hrest := atRest_ofStore .empty
  have htwins : Store.empty.importText 1 loginColumns twinText
      = (Store.empty.put 1 { columns := loginColumns },
        .error (.repeatedKey "ontask_workflow_1" "email")) := by decide +kernel
  have hseven : Store.empty.importText 1 loginColumns "[7]"
      = (Store.empty, .error .malformedRecords) := by decide +kernel
  have hrefused := run_importText_ofStore .empty 1 loginColumns twinText
  rw [htwins] at hrefused
  have hmalformed := run_importText_ofStore .empty 1 loginColumns "[7]"
  rw [hseven] at hmalformed
  have hkey : RepeatsKey (ofStore .empty) 1 loginColumns twinText := by
    by_contra hkey
    have hsame := (importText_error_iff hrest hrefused).1.mpr hkey
    have htable := congrArg (fun db => db.tables (Store.tableName 1)) hsame
    simp only [tables_ofStore] at htable
    cases htable
  obtain ⟨-, hleft, -⟩ := (importText_error_iff hrest hrefused).2 hkey
  have hunchanged := (importText_error_iff hrest hmalformed).1
  exact ⟨hrest, ⟨_, hrefused, hkey, hleft⟩, _, _, hmalformed, rfl, hunchanged.mp rfl⟩

end Database

namespace Store

/-- An import that is refused for a key has made a table that was not there. -/
theorem columnNames_importText_twins :
    ∃ s', empty.importText 1 Database.loginColumns Database.twinText
        = (s', .error (.repeatedKey "ontask_workflow_1" "email")) ∧
      empty.columnNames 1 = .error (.tableNotFound "ontask_workflow_1") ∧
      s'.columnNames 1 = .ok ["email"] := by
  refine ⟨empty.put 1 { columns := Database.loginColumns }, ?_, rfl, rfl⟩
  decide +kernel

end Store

end MailMerge
