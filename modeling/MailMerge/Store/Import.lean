import MailMerge.Document.Json.Reader
import MailMerge.Store.Basic

/-!
# Importing records

Records name their values. A value is read as the type of its column; a column a record
does not name is null there, and names that are no columns are passed over.
-/

namespace MailMerge

namespace Store

/-- The named values of a record. -/
def recordOf? (d : Document) : Option Context := do
  let entries ← d.entries?
  return Context.ofEntries (← entries.mapM fun e => return (e.1, ← e.2.value?))

/-- The records a document lists. -/
def records? (d : Document) : Option (List Context) :=
  match d with
  | .list items => items.mapM recordOf?
  | _ => none

/-- The cell of a record in a column. -/
def importedValue (position : Nat) (record : Context) (c : Column) : Except StoreError Value :=
  match (record.get? c.name).getD .null with
  | .null => .ok .null
  | v =>
    match c.dataType.coerce? v with
    | some w => .ok w
    | none => .error (.badValue position v.display c.dataType c.name)

/-- The rows of records; positions are counted from the given one. -/
def importedRows (columns : List Column) (position : Nat) :
    List Context → Except StoreError (List Row)
  | [] => .ok []
  | record :: rest => do
    let row ← columns.mapM (importedValue position record)
    return row :: (← importedRows columns (position + 1) rest)

/-- The rows of a document that lists records. -/
def rowsOf (columns : List Column) (d : Document) : Except StoreError (List Row) :=
  match records? d with
  | none => .error .malformedRecords
  | some records => importedRows columns 1 records

/-- Puts the records of a document into the table of a workflow, which is made when it is
missing. The store comes back with how many records there were; a table made for them
stays also when they are refused. -/
def importRecords (s : Store) (id : Int64) (columns : List Column) (d : Document) :
    Store × Except StoreError Nat :=
  match rowsOf columns d with
  | .error e => (s, .error e)
  | .ok rows =>
    match if (s.find? id).isSome then .ok s else s.create id columns with
    | .error e => (s, .error e)
    | .ok made =>
      match made.insert id rows with
      | .error e => (made, .error e)
      | .ok filled => (filled, .ok rows.length)

/-- Imports the records of a text. -/
def importText (s : Store) (id : Int64) (columns : List Column) (text : String) :
    Store × Except StoreError Nat :=
  match Json.read? text with
  | none => (s, .error .malformedRecords)
  | some d => s.importRecords id columns d

end Store

end MailMerge
