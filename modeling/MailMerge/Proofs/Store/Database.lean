import MailMerge.Proofs.Document.Json.Scalar
import MailMerge.Proofs.Store.Reachable
import MailMerge.Store.Database

/-!
# Stores in databases

A database that is not in the middle of a transaction keeps a store: it has the table of each
workflow under a name that no other workflow's table has. Calls on the database then answer as
the operations on the store do, and leave the database with the store that these give.
-/

namespace MailMerge

namespace Store

/-- A number is read back from what it is written as, so no two tables have one name. -/
theorem tableName_injective : Function.Injective tableName := by
  intro a b h
  have hwritten : toString a.toInt = toString b.toInt := String.append_right_inj .. |>.mp h
  have hread : ∀ i : Int64,
      Json.number? ((toString i.toInt).toList ++ []) = some (.int i.toInt, []) := fun i =>
    Json.number?_written i.le_toInt (Int.lt_trans i.toInt_lt (by decide)) fun _ hc => nomatch hc
  have hscalars := hread a
  rw [hwritten, hread b] at hscalars
  exact (Int64.toInt_inj.mp (Scalar.int.inj (Prod.mk.inj (Option.some.inj hscalars)).1)).symm

-- ---------------------------------------------------------------------------
-- Operations, check by check
-- ---------------------------------------------------------------------------

theorem create_eq (s : Store) (id : Int64) (columns : List Column) :
    s.create id columns
      = if columns.isEmpty then .error .noColumns
        else if (s.find? id).isSome then .error (.tableExists (tableName id))
        else match (columns.map (·.name)).forM checkName with
          | .error e => .error e
          | .ok _ => match checkDistinct (columns.map (·.name)) with
            | .error e => .error e
            | .ok _ => .ok (s.put id { columns }) := by
  unfold create
  split
  · rfl
  · dsimp only [bind, Except.bind]
    split
    · rfl
    · cases (columns.map (·.name)).forM checkName with
      | error e => rfl
      | ok _ => cases checkDistinct (columns.map (·.name)) <;> rfl

theorem appendRows_cons (id : Int64) (position : Nat) (t : Table) (row : Row) (rest : List Row) :
    appendRows id position t (row :: rest)
      = if row.length = t.columns.length then
          match t.repeatedKey? (t.storedRow row) with
          | some column => .error (.repeatedKey (tableName id) column)
          | none => appendRows id (position + 1) { t with rows := t.rows ++ [t.storedRow row] } rest
        else .error (.rowWidth position row.length t.columns.length) := by
  by_cases hwidth : row.length = t.columns.length
  · simp only [appendRows, hwidth, bne_self_eq_false, Bool.false_eq_true, if_false, if_true]
    cases t.repeatedKey? (t.storedRow row) <;> rfl
  · simp only [appendRows, bne_iff_ne.mpr hwidth, if_true, if_neg hwidth]
    rfl

theorem insert_eq (s : Store) (id : Int64) (rows : List Row) :
    s.insert id rows = match s.find? id with
      | none => .error (.tableNotFound (tableName id))
      | some t => match appendRows id 1 t rows with
        | .error e => .error e
        | .ok t' => .ok (s.put id t') := by
  simp only [insert, table, bind, Except.bind]
  cases s.find? id with
  | none => rfl
  | some t =>
    cases h : appendRows id 1 t rows with
    | error e => simp [h]
    | ok t' =>
      simp only [h]
      rfl

theorem renameColumn_eq (s : Store) (id : Int64) (old new : String) :
    s.renameColumn id old new
      = match s.find? id with
        | none => .error (.tableNotFound (tableName id))
        | some t => match checkColumns t [old] with
          | .error e => .error e
          | .ok _ => if t.names.contains new then .error (.columnExists new)
            else match checkName new with
              | .error e => .error e
              | .ok _ => if t.names.any fun n => n != old && Table.sameName n new then
                  .error (.repeatedColumn new)
                else .ok (s.put id (t.renameColumn old new)) := by
  simp only [renameColumn, table, bind, Except.bind]
  cases s.find? id with
  | none => rfl
  | some t =>
    dsimp only
    cases checkColumns t [old] with
    | error e => rfl
    | ok _ =>
      dsimp only
      split
      · rfl
      · cases checkName new with
        | error e => rfl
        | ok _ =>
          dsimp only
          split <;> rfl

end Store

namespace Database

variable {db : Database} {name : String} {t t' : Table} {id : Int64}

-- ---------------------------------------------------------------------------
-- Tables
-- ---------------------------------------------------------------------------

@[simp] theorem tables_put (db : Database) (name : String) (t : Table) :
    (db.put name t).tables name = some t := by
  simp [put]

@[simp] theorem savepoint_put (db : Database) (name : String) (t : Table) :
    (db.put name t).savepoint = db.savepoint := rfl

@[simp] theorem put_put (db : Database) (name : String) (t t' : Table) :
    (db.put name t).put name t' = db.put name t' := by
  simp only [put, Database.mk.injEq, and_true]
  funext n
  split <;> rfl

theorem put_eq_self (ht : db.tables name = some t) : db.put name t = db := by
  have htables : (fun n => if n = name then some t else db.tables n) = db.tables := by
    funext n
    split
    · next h => rw [h, ht]
    · rfl
  exact congrArg (Database.mk · db.savepoint) htables

-- ---------------------------------------------------------------------------
-- Statements
-- ---------------------------------------------------------------------------

theorem run_ofExcept {α : Type} (x : Except StoreError α) (db : Database) :
    (ofExcept x : Session α).run db = match x with
      | .ok a => .ok a db
      | .error e => .error e db := by
  cases x <;> rfl

theorem run_table (name : String) (db : Database) :
    (table name).run db = match db.tables name with
      | some t => .ok t db
      | none => .error (.tableNotFound name) db := by
  simp only [table, EStateM.run_bind, EStateM.run_get]
  cases db.tables name <;> rfl

/-- Making a table changes nothing if it fails. -/
theorem run_make (name : String) (columns : List Column) (db : Database) :
    (make name columns).run db
      = match (columns.map (·.name)).forM Store.checkName with
        | .error e => .error e db
        | .ok _ => match Store.checkDistinct (columns.map (·.name)) with
          | .error e => .error e db
          | .ok _ => .ok () (db.put name { columns }) := by
  simp only [make, EStateM.run_bind, run_ofExcept]
  cases (columns.map (·.name)).forM Store.checkName with
  | error e => rfl
  | ok _ => cases Store.checkDistinct (columns.map (·.name)) <;> rfl

/-- A row is written if no key column has its cell already. -/
theorem run_write (ht : db.tables name = some t) (row : Row) :
    (write name row).run db = match t.repeatedKey? (t.storedRow row) with
      | some column => .error (.repeatedKey name column) db
      | none => .ok () (db.put name { t with rows := t.rows ++ [t.storedRow row] }) := by
  simp only [write, EStateM.run_bind, run_table, ht]
  cases t.repeatedKey? (t.storedRow row) <;> rfl

theorem run_writeEach_cons (name : String) (width position : Nat) (row : Row) (rest : List Row)
    (db : Database) :
    (writeEach name width position (row :: rest)).run db
      = if row.length = width then
          match (write name row).run db with
          | .ok _ db' => (writeEach name width (position + 1) rest).run db'
          | .error e db' => .error e db'
        else .error (.rowWidth position row.length width) db := by
  by_cases hwidth : row.length = width
  · simp only [writeEach, hwidth, bne_self_eq_false, Bool.false_eq_true, if_false, if_true,
      EStateM.run_bind]
    cases (write name row).run db <;> rfl
  · simp [writeEach, hwidth, EStateM.run_bind]

/-- Rows are written as they are appended to a table. What was written before a row that is
refused is still there, and so is what an open transaction began with. -/
theorem run_writeEach (ht : db.tables (Store.tableName id) = some t) (position : Nat)
    (rows : List Row) :
    match Store.appendRows id position t rows with
    | .ok t' => (writeEach (Store.tableName id) t.columns.length position rows).run db
        = .ok () (db.put (Store.tableName id) t')
    | .error e => ∃ db', db'.savepoint = db.savepoint ∧
        (writeEach (Store.tableName id) t.columns.length position rows).run db = .error e db' := by
  induction rows generalizing db t position with
  | nil => exact congrArg (EStateM.Result.ok ()) (put_eq_self ht).symm
  | cons row rest ih =>
    rw [run_writeEach_cons, Store.appendRows_cons, run_write ht]
    by_cases hwidth : row.length = t.columns.length
    · cases hkey : t.repeatedKey? (t.storedRow row) with
      | some column => simp [hwidth]
      | none =>
        have hrest := ih (tables_put db _ { t with rows := t.rows ++ [t.storedRow row] })
          (position + 1)
        simpa [hwidth] using hrest
    · simp [hwidth]

/-- What a session that failed has done to the database is there for its handler to see. -/
theorem run_tryCatch {α : Type} (body : Session α) (handle : StoreError → Session α)
    (db : Database) :
    (tryCatch body handle).run db = match body.run db with
      | .ok a db' => .ok a db'
      | .error e db' => (handle e).run db' := by
  simp only [tryCatch, tryCatchThe, MonadExceptOf.tryCatch, EStateM.tryCatch, EStateM.run]
  cases body db <;> rfl

/-- What is done in a transaction is kept if all of it succeeds, and else undone. -/
theorem run_transaction {α : Type} (body : Session α) (db : Database) :
    (transaction body).run db = match body.run db.begun with
      | .ok a db' => .ok a db'.committed
      | .error e db' => .error e db'.rolledBack := by
  simp only [transaction, EStateM.run_bind, EStateM.run_modify, run_tryCatch]
  cases body.run db.begun <;> rfl

/-- A database outside of a transaction. -/
def AtRest (db : Database) : Prop := db.savepoint = none

theorem AtRest.committed_begun (hdb : db.AtRest) (name : String) (t : Table) :
    (db.begun.put name t).committed = db.put name t := by
  simp only [committed, begun, put, Database.mk.injEq, true_and]
  exact hdb.symm

theorem AtRest.rolledBack {db' : Database} (hdb : db.AtRest)
    (h : db'.savepoint = db.begun.savepoint) : db'.rolledBack = db := by
  simp only [Database.rolledBack, h, begun, Option.getD_some]
  exact congrArg (Database.mk db.tables) hdb.symm

/-- Rows are put into a table as they are appended to it, and if that fails nothing is changed. -/
theorem run_insert (hdb : db.AtRest) (id : Int64) (rows : List Row) :
    (insert id rows).run db = match db.tables (Store.tableName id) with
      | none => .error (.tableNotFound (Store.tableName id)) db
      | some t => match Store.appendRows id 1 t rows with
        | .ok t' => .ok rows.length (db.put (Store.tableName id) t')
        | .error e => .error e db := by
  have htables : db.begun.tables = db.tables := rfl
  simp only [insert, run_transaction, EStateM.run_bind, run_table, htables]
  cases ht : db.tables (Store.tableName id) with
  | none =>
    have hback : db.begun.rolledBack = db := hdb.rolledBack rfl
    simp [hback]
  | some t =>
    have hbegun : db.begun.tables (Store.tableName id) = some t := ht
    have hwrite := run_writeEach hbegun 1 rows
    cases happend : Store.appendRows id 1 t rows with
    | ok t' =>
      rw [happend] at hwrite
      have hkept := hdb.committed_begun (Store.tableName id) t'
      simp [happend, hwrite, hkept]
    | error e =>
      rw [happend] at hwrite
      obtain ⟨db', hsavepoint, hrun⟩ := hwrite
      have hback := hdb.rolledBack hsavepoint
      simp [happend, hrun, hback]

-- ---------------------------------------------------------------------------
-- The database of a store
-- ---------------------------------------------------------------------------

/-- The database that keeps a store. -/
def ofStore (s : Store) : Database where
  tables name := List.lookup name (s.tables.map fun e => (Store.tableName e.1, e.2))

theorem atRest_ofStore (s : Store) : (ofStore s).AtRest := rfl

/-- The table of each workflow stands under its own name. -/
@[simp] theorem tables_ofStore (s : Store) (id : Int64) :
    (ofStore s).tables (Store.tableName id) = s.find? id := by
  obtain ⟨tables⟩ := s
  simp only [ofStore, Store.find?]
  induction tables with
  | nil => rfl
  | cons e tables ih =>
    rw [List.map_cons, List.lookup_cons, List.lookup_cons, ih]
    have hname : (Store.tableName id == Store.tableName e.1) = (id == e.1) := by
      rw [Bool.eq_iff_iff, beq_iff_eq, beq_iff_eq, Store.tableName_injective.eq_iff]
    rw [hname]

theorem ofStore_drop (s : Store) (id : Int64) :
    ofStore (s.drop id) = (ofStore s).remove (Store.tableName id) := by
  obtain ⟨tables⟩ := s
  simp only [ofStore, Store.drop, remove, Database.mk.injEq, and_true]
  funext name
  induction tables with
  | nil => simp
  | cons e tables ih =>
    by_cases hid : e.1 = id
    · have hne : ¬(e.1 != id) = true := by simpa using hid
      rw [List.filter_cons, if_neg hne, ih, List.map_cons, List.lookup_cons, hid]
      by_cases hname : name = Store.tableName id
      · simp [hname]
      · simp [hname, beq_eq_false_iff_ne.mpr hname]
    · have hne : (e.1 != id) = true := by simpa using hid
      rw [List.filter_cons, if_pos hne, List.map_cons, List.lookup_cons, ih, List.map_cons,
        List.lookup_cons]
      by_cases hname : name = Store.tableName e.1
      · have hother : ¬Store.tableName e.1 = Store.tableName id :=
          mt (fun h => Store.tableName_injective h) hid
        simp [hname, hother]
      · simp [beq_eq_false_iff_ne.mpr hname]

theorem ofStore_put (s : Store) (id : Int64) (t : Table) :
    ofStore (s.put id t) = (ofStore s).put (Store.tableName id) t := by
  have hdrop := congrArg Database.tables (ofStore_drop s id)
  have hcons : ∀ name, (ofStore (s.put id t)).tables name
      = if name = Store.tableName id then some t else (ofStore (s.drop id)).tables name := by
    intro name
    simp only [ofStore, Store.put, List.map_cons, List.lookup_cons]
    by_cases hname : name = Store.tableName id
    · simp [hname]
    · simp [hname, beq_eq_false_iff_ne.mpr hname]
  have htables : (ofStore (s.put id t)).tables = ((ofStore s).put (Store.tableName id) t).tables := by
    funext name
    rw [hcons, hdrop]
    simp only [remove, put]
    split <;> rfl
  exact congrArg (Database.mk · none) htables

-- ---------------------------------------------------------------------------
-- Calls on the database of a store
-- ---------------------------------------------------------------------------

theorem run_create (id : Int64) (columns : List Column) (db : Database) :
    (create id columns).run db
      = if columns.isEmpty then .error .noColumns db
        else if (db.tables (Store.tableName id)).isSome then
          .error (.tableExists (Store.tableName id)) db
        else (make (Store.tableName id) columns).run db := by
  unfold create
  split
  · rfl
  · simp only [EStateM.run_bind, EStateM.run_get]
    split <;> rfl

/-- How a call ends that has failed or has led to another store. -/
def ended (s : Store) : Except StoreError Store → EStateM.Result StoreError Database Unit
  | .ok s' => .ok () (ofStore s')
  | .error e => .error e (ofStore s)

theorem run_create_ofStore (s : Store) (id : Int64) (columns : List Column) :
    (create id columns).run (ofStore s) = ended s (s.create id columns) := by
  rw [run_create, Store.create_eq, tables_ofStore, run_make]
  split
  · rfl
  · split
    · rfl
    · cases (columns.map (·.name)).forM Store.checkName with
      | error e => rfl
      | ok _ =>
        cases Store.checkDistinct (columns.map (·.name)) with
        | error e => rfl
        | ok _ => simp [ended, ofStore_put]

theorem run_insert_ofStore (s : Store) (id : Int64) (rows : List Row) :
    (insert id rows).run (ofStore s) = match s.insert id rows with
      | .ok s' => .ok rows.length (ofStore s')
      | .error e => .error e (ofStore s) := by
  rw [run_insert (atRest_ofStore s), Store.insert_eq, tables_ofStore]
  cases s.find? id with
  | none => rfl
  | some t =>
    cases h : Store.appendRows id 1 t rows with
    | error e => simp [h]
    | ok t' => simp [h, ofStore_put]

theorem run_renameColumn (id : Int64) (old new : String) (db : Database) :
    (renameColumn id old new).run db
      = match db.tables (Store.tableName id) with
        | none => .error (.tableNotFound (Store.tableName id)) db
        | some t => match Store.checkColumns t [old] with
          | .error e => .error e db
          | .ok _ => if t.names.contains new then .error (.columnExists new) db
            else match Store.checkName new with
              | .error e => .error e db
              | .ok _ => if t.names.any fun n => n != old && Table.sameName n new then
                  .error (.repeatedColumn new) db
                else .ok () (db.put (Store.tableName id) (t.renameColumn old new)) := by
  unfold renameColumn
  simp only [EStateM.run_bind, run_table]
  cases db.tables (Store.tableName id) with
  | none => rfl
  | some t =>
    simp only [run_ofExcept]
    cases Store.checkColumns t [old] with
    | error e => rfl
    | ok _ =>
      dsimp only
      split
      · rfl
      · simp only [EStateM.run_bind, run_ofExcept]
        cases Store.checkName new with
        | error e => rfl
        | ok _ =>
          dsimp only
          split <;> rfl

theorem run_renameColumn_ofStore (s : Store) (id : Int64) (old new : String) :
    (renameColumn id old new).run (ofStore s) = ended s (s.renameColumn id old new) := by
  rw [run_renameColumn, Store.renameColumn_eq, tables_ofStore]
  cases s.find? id with
  | none => rfl
  | some t =>
    dsimp only
    cases Store.checkColumns t [old] with
    | error e => rfl
    | ok _ =>
      dsimp only
      split
      · rfl
      · cases Store.checkName new with
        | error e => rfl
        | ok _ =>
          dsimp only
          split
          · rfl
          · simp [ended, ofStore_put]

theorem run_drop_ofStore (s : Store) (id : Int64) :
    (drop id).run (ofStore s) = .ok () (ofStore (s.drop id)) := by
  rw [ofStore_drop]
  rfl

theorem run_importText (id : Int64) (columns : List Column) (text : String) (db : Database) :
    (importText id columns text).run db = match Json.read? text with
      | none => .error .malformedRecords db
      | some d => match Store.rowsOf columns d with
        | .error e => .error e db
        | .ok rows => match db.tables (Store.tableName id) with
          | some _ => (insert id rows).run db
          | none => match (create id columns).run db with
            | .error e made => .error e made
            | .ok _ made => (insert id rows).run made := by
  unfold importText
  cases Json.read? text with
  | none => rfl
  | some d =>
    simp only [EStateM.run_bind, run_ofExcept]
    cases Store.rowsOf columns d with
    | error e => rfl
    | ok rows =>
      simp only [EStateM.run_get]
      cases db.tables (Store.tableName id) with
      | some t => rfl
      | none =>
        simp only [Option.isNone_none, if_true, EStateM.run_bind]
        cases (create id columns).run db <;> rfl

theorem run_importText_ofStore (s : Store) (id : Int64) (columns : List Column) (text : String) :
    (importText id columns text).run (ofStore s) = match s.importText id columns text with
      | (s', .ok n) => .ok n (ofStore s')
      | (s', .error e) => .error e (ofStore s') := by
  rw [run_importText, Store.importText, tables_ofStore]
  cases Json.read? text with
  | none => rfl
  | some d =>
    simp only [Store.importRecords]
    cases Store.rowsOf columns d with
    | error e => rfl
    | ok rows =>
      cases hfind : s.find? id with
      | some t =>
        simp only [Option.isSome_some, if_true, run_insert_ofStore]
        cases s.insert id rows <;> rfl
      | none =>
        simp only [Option.isSome_none, Bool.false_eq_true, if_false, run_create_ofStore]
        cases s.create id columns with
        | error e => rfl
        | ok made =>
          simp only [ended, run_insert_ofStore]
          cases made.insert id rows <;> rfl

end Database

end MailMerge
