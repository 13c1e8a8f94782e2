import MailMerge.Store.Import

/-!
# Databases

A store is kept in a database, which has tables by name. What is done on a database may fail
half way, and what was done until then stays. A single statement is carried out or changes
nothing; several statements stand or fall together in a transaction, which keeps the tables
that were there when it was begun.
-/

namespace MailMerge

structure Database where
  tables : String → Option Table := fun _ => none
  /-- The tables that were there when the open transaction was begun. -/
  savepoint : Option (String → Option Table) := none

namespace Database

/-- Something that is done on a database. -/
abbrev Session (α : Type) := EStateM StoreError Database α

/-- Puts a table under a name. -/
def put (db : Database) (name : String) (t : Table) : Database :=
  { db with tables := fun n => if n = name then some t else db.tables n }

/-- Removes the table of a name, if there is one. -/
def remove (db : Database) (name : String) : Database :=
  { db with tables := fun n => if n = name then none else db.tables n }

-- ---------------------------------------------------------------------------
-- Transactions
-- ---------------------------------------------------------------------------

def begun (db : Database) : Database := { db with savepoint := some db.tables }

def committed (db : Database) : Database := { db with savepoint := none }

def rolledBack (db : Database) : Database := { tables := db.savepoint.getD db.tables }

/-- Does something in a transaction of its own, which is undone if it fails. -/
def transaction {α : Type} (body : Session α) : Session α := do
  modify begun
  try
    let a ← body
    modify committed
    pure a
  catch e =>
    modify rolledBack
    throw e

-- ---------------------------------------------------------------------------
-- Statements
-- ---------------------------------------------------------------------------

/-- The table of a name, which must be there. -/
def table (name : String) : Session Table := do
  match (← get).tables name with
  | some t => return t
  | none => throw (.tableNotFound name)

/-- Makes a table. -/
def make (name : String) (columns : List Column) : Session Unit := do
  let names := columns.map (·.name)
  ofExcept (names.forM Store.checkName)
  ofExcept (Store.checkDistinct names)
  modify (·.put name { columns })

/-- Writes one row behind those of a table. -/
def write (name : String) (row : Row) : Session Unit := do
  let t ← table name
  let cells := t.storedRow row
  match t.repeatedKey? cells with
  | some column => throw (.repeatedKey name column)
  | none => modify (·.put name { t with rows := t.rows ++ [cells] })

/-- Writes rows one after the other; positions are counted from the given one. -/
def writeEach (name : String) (width position : Nat) : List Row → Session Unit
  | [] => return
  | row :: rest => do
    if row.length != width then throw (.rowWidth position row.length width)
    write name row
    writeEach name width (position + 1) rest

-- ---------------------------------------------------------------------------
-- Calls
-- ---------------------------------------------------------------------------

/-- Makes an empty table for a workflow. -/
def create (id : Int64) (columns : List Column) : Session Unit := do
  if columns.isEmpty then throw .noColumns
  let name := Store.tableName id
  if ((← get).tables name).isSome then throw (.tableExists name)
  make name columns

/-- Removes the table of a workflow, if it is there. -/
def drop (id : Int64) : Session Unit := modify (·.remove (Store.tableName id))

/-- Puts rows behind those of a table. -/
def insert (id : Int64) (rows : List Row) : Session Nat :=
  transaction do
    let t ← table (Store.tableName id)
    writeEach (Store.tableName id) t.columns.length 1 rows
    return rows.length

/-- Gives a column another name. -/
def renameColumn (id : Int64) (old new : String) : Session Unit := do
  let t ← table (Store.tableName id)
  ofExcept (Store.checkColumns t [old])
  if t.names.contains new then throw (.columnExists new)
  ofExcept (Store.checkName new)
  if t.names.any fun n => n != old && Table.sameName n new then throw (.repeatedColumn new)
  modify (·.put (Store.tableName id) (t.renameColumn old new))

/-- Imports the records of a text. The table is made before the transaction in which the rows
are put into it. -/
def importText (id : Int64) (columns : List Column) (text : String) : Session Nat := do
  match Json.read? text with
  | none => throw .malformedRecords
  | some d =>
    let rows ← ofExcept (Store.rowsOf columns d)
    if ((← get).tables (Store.tableName id)).isNone then create id columns
    insert id rows

end Database

end MailMerge
