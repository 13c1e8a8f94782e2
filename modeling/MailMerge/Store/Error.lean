import MailMerge.Formula.Basic

/-!
# Errors of a store
-/

namespace MailMerge

/-- Why a store refuses what it is asked for. -/
inductive StoreError where
  | tableNotFound (table : String)
  | columnNotFound (name : String)
  | tableExists (table : String)
  | columnExists (name : String)
  | noColumns
  | noColumnsSelected
  | indexZero
  /-- A row has more or fewer values than the table has columns. -/
  | rowWidth (position values columns : Nat)
  /-- A value of a record cannot be read as the type of its column. -/
  | badValue (position : Nat) (shown : String) (dataType : DataType) (column : String)
  | filter (e : FormulaError)
  /-- A key column holds the cell already. -/
  | repeatedKey (table column : String)
  /-- Two columns would differ at most in the case of letters. -/
  | repeatedColumn (name : String)
  /-- A name with a NUL character is none. -/
  | unusableName
  | indexTooLarge
  /-- The text or document is no list of records. -/
  | malformedRecords
deriving DecidableEq

/-- What an error is about. -/
inductive StoreError.Kind where
  | notFound
  | validation
  | filter
  | query
  | serialization
deriving DecidableEq, Repr

namespace StoreError

def kind : StoreError → Kind
  | .tableNotFound _ | .columnNotFound _ => .notFound
  | .tableExists _ | .columnExists _ | .noColumns | .noColumnsSelected | .indexZero
  | .rowWidth .. | .badValue .. => .validation
  | .filter _ => .filter
  | .repeatedKey .. | .repeatedColumn _ | .unusableName | .indexTooLarge => .query
  | .malformedRecords => .serialization

/-- What is wrong, without the kind of the error. -/
def detail : StoreError → String
  | .tableNotFound table => "table not found: " ++ table
  | .columnNotFound name => "column not found: " ++ name
  | .tableExists table => "table " ++ table ++ " already exists"
  | .columnExists name => "column " ++ name ++ " already exists"
  | .noColumns => "a table needs at least one column"
  | .noColumnsSelected => "no columns selected"
  | .indexZero => "row indices start at 1"
  | .rowWidth position values columns =>
    "row " ++ toString position ++ " has " ++ toString values ++ " values, table has "
      ++ toString columns ++ " columns"
  | .badValue position shown dataType column =>
    "record " ++ toString position ++ ": " ++ Text.quoted shown ++ " is not a valid "
      ++ dataType.name ++ " for column " ++ column
  | .filter e => e.message
  | .repeatedKey table column => "UNIQUE constraint failed: " ++ table ++ "." ++ column
  | .repeatedColumn name => "duplicate column name: " ++ name
  | .unusableName => "nul byte found in provided data"
  | .indexTooLarge => "datatype mismatch"
  | .malformedRecords => "invalid records"

/-- The wording of an error. -/
def message (e : StoreError) : String :=
  match e.kind with
  | .notFound => e.detail
  | .validation => "validation error: " ++ e.detail
  | .filter => "filter error: " ++ e.detail
  | .query => "query error: " ++ e.detail
  | .serialization => "serialization error: " ++ e.detail

end StoreError

end MailMerge
