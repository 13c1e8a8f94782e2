import MailMerge.Document.Fields
import MailMerge.Value.DataType

/-!
# Columns and rows

A column has a name, the type its cells declare, and a mark that its cells are unique.
A row is a list of cells, paired with the columns by position.
-/

namespace MailMerge

structure Column where
  name : String
  dataType : DataType := .string
  isKey : Bool := false
deriving DecidableEq, Inhabited, Repr

abbrev Row := List Value

/-- The named cells of a row. Cells without a name, and names without a cell, are
dropped. -/
def Row.toContext (row : Row) (names : List String) : Context :=
  Context.ofEntries (names.zip row)

-- ---------------------------------------------------------------------------
-- Documents
-- ---------------------------------------------------------------------------

def DataType.ofDocument? (format : Document.Format) (d : Document) : Option DataType :=
  (d.choice? format).bind DataType.ofName?

namespace Column

def fieldNames : List String := ["name", "data_type", "is_key"]

def ofDocument? (format : Document.Format) (d : Document) : Option Column := do
  let fs ← d.fields? format fieldNames
  let name ← fs.required? "name" Document.text?
  let dataType ← fs.optional? "data_type" .string (DataType.ofDocument? format)
  let isKey ← fs.optional? "is_key" false Document.bool?
  some ⟨name, dataType, isKey⟩

def toDocument (c : Column) : Document :=
  .record [("name", .text c.name), ("data_type", .text c.dataType.name), ("is_key", .bool c.isKey)]

end Column

end MailMerge
