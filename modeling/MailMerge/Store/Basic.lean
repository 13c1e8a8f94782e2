import MailMerge.Predicate.Compile
import MailMerge.Store.Error
import MailMerge.Table.Basic

/-!
# Stores

A store holds a table for each workflow that has data. Whatever fails leaves the store
as it was. Reading checks, in this order, that the table is there, that the columns are,
that the filter can be compiled, and that some column is asked for.
-/

namespace MailMerge

/-- Tables by the number of their workflow. -/
structure Store where
  tables : List (Int64 × Table) := []
deriving DecidableEq, Inhabited

namespace Store

def empty : Store := {}

/-- The name of the table of a workflow. -/
def tableName (id : Int64) : String := "ontask_workflow_" ++ toString id.toInt

def find? (s : Store) (id : Int64) : Option Table := List.lookup id s.tables

/-- The table of a workflow, which must be there. -/
def table (s : Store) (id : Int64) : Except StoreError Table :=
  match s.find? id with
  | some t => .ok t
  | none => .error (.tableNotFound (tableName id))

/-- Removes a table, if it is there. -/
def drop (s : Store) (id : Int64) : Store := ⟨s.tables.filter fun e => e.1 != id⟩

/-- Puts a table in place of the one that is there. -/
def put (s : Store) (id : Int64) (t : Table) : Store := ⟨(id, t) :: (s.drop id).tables⟩

-- ---------------------------------------------------------------------------
-- Changing tables
-- ---------------------------------------------------------------------------

/-- A name that columns can have. -/
def checkName (name : String) : Except StoreError Unit :=
  if name.toList.contains '\x00' then .error .unusableName else .ok ()

/-- Fails when a name occurs twice. -/
def checkDistinct : List String → Except StoreError Unit
  | [] => .ok ()
  | n :: ns => if ns.any (Table.sameName n) then .error (.repeatedColumn n) else checkDistinct ns

/-- Makes an empty table. -/
def create (s : Store) (id : Int64) (columns : List Column) : Except StoreError Store := do
  if columns.isEmpty then throw .noColumns
  if (s.find? id).isSome then throw (.tableExists (tableName id))
  let names := columns.map (·.name)
  names.forM checkName
  checkDistinct names
  return s.put id { columns }

/-- Puts rows behind those of a table; positions are counted from the given one. -/
def appendRows (id : Int64) (position : Nat) (t : Table) : List Row → Except StoreError Table
  | [] => .ok t
  | row :: rest => do
    if row.length != t.columns.length then
      throw (.rowWidth position row.length t.columns.length)
    let cells := t.storedRow row
    match t.repeatedKey? cells with
    | some column => throw (.repeatedKey (tableName id) column)
    | none => appendRows id (position + 1) { t with rows := t.rows ++ [cells] } rest

/-- Puts rows behind those of a table: all of them, or none. -/
def insert (s : Store) (id : Int64) (rows : List Row) : Except StoreError Store := do
  let t ← s.table id
  return s.put id (← appendRows id 1 t rows)

/-- Fails at the first name that is no column. -/
def checkColumns (t : Table) (names : List String) : Except StoreError Unit :=
  match names.find? fun n => !t.names.contains n with
  | some n => .error (.columnNotFound n)
  | none => .ok ()

/-- Gives a column another name; only the case of its own letters may stay in the way. -/
def renameColumn (s : Store) (id : Int64) (old new : String) : Except StoreError Store := do
  let t ← s.table id
  checkColumns t [old]
  if t.names.contains new then throw (.columnExists new)
  checkName new
  if t.names.any fun n => n != old && Table.sameName n new then throw (.repeatedColumn new)
  return s.put id (t.renameColumn old new)

-- ---------------------------------------------------------------------------
-- Reading tables
-- ---------------------------------------------------------------------------

/-- The predicate of a filter, which may compare only columns of the table. -/
def compileFilter (t : Table) (filter : Option Formula) : Except StoreError (Option Predicate) :=
  match filter with
  | none => .ok none
  | some f => (f.compile (some t.names)).mapError .filter

/-- The rows a predicate selects, with the values of some columns. -/
def readRows (t : Table) (p : Option Predicate) (columns : List String) :
    Except StoreError (List Row) :=
  if columns.isEmpty then .error .noColumnsSelected
  else .ok ((t.selected p).map (t.project columns))

/-- The names of the columns of a table. -/
def columnNames (s : Store) (id : Int64) : Except StoreError (List String) :=
  (s.table id).map Table.names

/-- The rows a filter selects. -/
def rows (s : Store) (id : Int64) (filter : Option Formula) (columns : List String) :
    Except StoreError (List Row) := do
  let t ← s.table id
  checkColumns t columns
  readRows t (← compileFilter t filter) columns

/-- The rows behind a number of others, up to a limit. -/
def window (offset limit : Nat) (rows : List Row) : List Row := (rows.drop offset).take limit

/-- The selected row with a given number, counted from one. -/
def rowAt (s : Store) (id : Int64) (filter : Option Formula) (index : Nat)
    (columns : List String) : Except StoreError (Option Row) := do
  if index == 0 then throw .indexZero
  let t ← s.table id
  checkColumns t columns
  let rows ← readRows t (← compileFilter t filter) columns
  if 2 ^ 63 < index then throw .indexTooLarge
  return (window (index - 1) 1 rows).head?

/-- The first selected row with a given value in the key column. -/
def rowByKey (s : Store) (id : Int64) (filter : Option Formula) (keyColumn : String)
    (key : Value) (columns : List String) : Except StoreError (Option Row) := do
  let t ← s.table id
  checkColumns t columns
  checkColumns t [keyColumn]
  let p ← compileFilter t filter
  let isKey := Predicate.test (.compare keyColumn .eq key)
  let rows ← readRows t (Predicate.combine? .and [p, some isKey]) columns
  return (window 0 1 rows).head?

/-- How many rows a filter selects. -/
def countRows (s : Store) (id : Int64) (filter : Option Formula) : Except StoreError Nat := do
  let t ← s.table id
  return (t.selected (← compileFilter t filter)).length

end Store

end MailMerge
