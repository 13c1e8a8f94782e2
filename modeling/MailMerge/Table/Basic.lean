import MailMerge.Predicate.Truth
import MailMerge.Table.Column

/-!
# Tables

A table has columns and, row by row, a cell for each. Rows keep the order in which they
were put in, unless a column named `rowid` numbers them. In a key column no two cells
are equal, null apart. Names of columns differ in more than the case of ASCII letters.
-/

namespace MailMerge

structure Table where
  columns : List Column
  rows : List (List Cell) := []
deriving DecidableEq, Inhabited

namespace Table

/-- A name without regard to the case of ASCII letters. -/
def foldName (name : String) : List Char := name.toList.map Char.toLower

def sameName (a b : String) : Bool := foldName a == foldName b

def names (t : Table) : List String := t.columns.map (·.name)

/-- The cells of a row beside their columns. -/
def slots (t : Table) (row : List Cell) : List (String × Slot) :=
  (t.columns.zip row).map fun (c, cell) => (c.name, (c.dataType, cell))

/-- The cell of a row in a column, null where there is no such column. -/
def slot (t : Table) (row : List Cell) (name : String) : Slot :=
  (List.lookup name (t.slots row)).getD (.string, .null)

-- ---------------------------------------------------------------------------
-- Reading
-- ---------------------------------------------------------------------------

/-- The name of the column that numbers the rows, if there is one. -/
def orderColumn? (t : Table) : Option String := t.names.find? fun n => sameName n "rowid"

/-- The rows in the order in which they are read. -/
def ordered (t : Table) : List (List Cell) :=
  match t.orderColumn? with
  | none => t.rows
  | some name => t.rows.mergeSort fun a b => ((t.slot a name).2.order (t.slot b name).2).isLE

/-- The rows a predicate selects, in order. -/
def selected (t : Table) (p : Option Predicate) : List (List Cell) :=
  t.ordered.filter fun row => Predicate.selects p (t.slot row)

/-- The values of a row in the given columns. -/
def project (t : Table) (names : List String) (row : List Cell) : Row :=
  names.map fun n => (t.slot row n).2.toValue (t.slot row n).1

-- ---------------------------------------------------------------------------
-- Changing
-- ---------------------------------------------------------------------------

/-- A row as it is stored. -/
def storedRow (t : Table) (row : Row) : List Cell :=
  (t.columns.zip row).map fun (c, v) => (Cell.ofValue v).stored c.dataType

/-- Whether a cell stands in a column already. -/
def holds (t : Table) (name : String) (cell : Cell) : Bool :=
  t.rows.any fun row => (t.slot row name).2.order cell == .eq

/-- The first key column in which a row would repeat a cell. -/
def repeatedKey? (t : Table) (row : List Cell) : Option String :=
  (t.columns.zip row).findSome? fun (c, cell) =>
    if c.isKey && cell != .null && t.holds c.name cell then some c.name else none

/-- Gives a column another name. -/
def renameColumn (t : Table) (old new : String) : Table :=
  { t with columns := t.columns.map fun c => if c.name == old then { c with name := new } else c }

end Table

end MailMerge
