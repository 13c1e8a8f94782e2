import MailMerge.Formula.RuleBuilder.Node
import MailMerge.Formula.RuleBuilder.Writer
import MailMerge.Workflow.Basic

/-!
# Documents of workflows

Fields that are left out have defaults, apart from the number of a workflow, the names
of its parts and the formulas of its conditions. What is empty or unknown is not
written, apart from what a reader would look for.
-/

namespace MailMerge

namespace Condition

def fieldNames : List String :=
  ["name", "description_text", "formula", "is_filter", "n_rows_selected"]

/-- A count, which may be missing. -/
def countOf? (d : Document) : Option (Option Nat) :=
  if d.isNull then some none
  else (d.intWithin? 0 (2 ^ 64 - 1)).map fun n => some n.toNat

/-- A formula; unquoted scalars inside it have their meaning. -/
def formulaOf? (d : Document) : Option Formula := do
  (Formula.ofDocument (← d.resolve? Plain.scalar?)).toOption

def ofDocument? (format : Document.Format) (d : Document) : Option Condition := do
  let fs ← d.fields? format fieldNames
  let name ← fs.required? "name" Document.text?
  let description ← fs.optional? "description_text" "" Document.text?
  let formula ← fs.required? "formula" formulaOf?
  let isFilter ← fs.optional? "is_filter" false Document.bool?
  let selectedRows ← fs.optional? "n_rows_selected" none countOf?
  some { name, description, formula, isFilter, selectedRows }

/-- A text that is left out when it is empty. -/
def textField (name text : String) : List (String × Document) :=
  if text.isEmpty then [] else [(name, .text text)]

def toDocument (c : Condition) : Document :=
  .record ([("name", .text c.name)] ++ textField "description_text" c.description
    ++ [("formula", c.formula.toDocument), ("is_filter", .bool c.isFilter)]
    ++ match c.selectedRows with
      | some n => [("n_rows_selected", .int n)]
      | none => [])

end Condition

namespace ActionKind

def name : ActionKind → String
  | .out => "out"
  | .input => "in"

def ofName? (s : String) : Option ActionKind := [out, input].find? fun k => k.name == s

def ofDocument? (format : Document.Format) (d : Document) : Option ActionKind :=
  (d.choice? format).bind ofName?

end ActionKind

namespace ActionColumn

def fieldNames : List String := ["name", "is_active"]

def ofDocument? (format : Document.Format) (d : Document) : Option ActionColumn := do
  let fs ← d.fields? format fieldNames
  let name ← fs.required? "name" Document.text?
  let isActive ← fs.optional? "is_active" true Document.bool?
  some { name, isActive }

def toDocument (c : ActionColumn) : Document :=
  .record [("name", .text c.name), ("is_active", .bool c.isActive)]

end ActionColumn

namespace Action

def fieldNames : List String :=
  ["name", "action_type", "content", "description_text", "conditions", "columns"]

def ofDocument? (format : Document.Format) (d : Document) : Option Action := do
  let fs ← d.fields? format fieldNames
  let name ← fs.required? "name" Document.text?
  let kind ← fs.optional? "action_type" .out (ActionKind.ofDocument? format)
  let content ← fs.optional? "content" "" Document.text?
  let description ← fs.optional? "description_text" "" Document.text?
  let conditions ← fs.optional? "conditions" [] (Document.listOf? (Condition.ofDocument? format))
  let columns ← fs.optional? "columns" [] (Document.listOf? (ActionColumn.ofDocument? format))
  some { name, kind, content, description, conditions, columns }

def toDocument (a : Action) : Document :=
  .record ([("name", .text a.name), ("action_type", .text a.kind.name),
      ("content", .text a.content)]
    ++ Condition.textField "description_text" a.description
    ++ [("conditions", .list (a.conditions.map Condition.toDocument))]
    ++ if a.columns.isEmpty then []
      else [("columns", .list (a.columns.map ActionColumn.toDocument))])

end Action

namespace Workflow

def fieldNames : List String := ["id", "name", "columns", "attributes", "actions"]

/-- Constants by name; of several with one name the last stands. -/
def attributesOf? (d : Document) : Option Context := do
  let entries ← d.entries?
  return Sorted.ofEntries (← entries.mapM fun e => return (e.1, ← e.2.value?))

def ofDocument? (format : Document.Format) (d : Document) : Option Workflow := do
  let fs ← d.fields? format fieldNames
  let id ← fs.required? "id" Document.int64?
  let name ← fs.optional? "name" "" Document.text?
  let columns ← fs.optional? "columns" [] (Document.listOf? (Column.ofDocument? format))
  let attributes ← fs.optional? "attributes" [] attributesOf?
  let actions ← fs.optional? "actions" [] (Document.listOf? (Action.ofDocument? format))
  some { id, name, columns, attributes, actions }

def toDocument (w : Workflow) : Document :=
  .record [("id", .int w.id.toInt), ("name", .text w.name),
    ("columns", .list (w.columns.map Column.toDocument)),
    ("attributes", .record (w.attributes.map fun e => (e.1, e.2.toDocument))),
    ("actions", .list (w.actions.map Action.toDocument))]

/-- Reads a workflow from a JSON text. -/
def ofText? (text : String) : Option Workflow := (Json.read? text).bind (ofDocument? .json)

/-- Writes a workflow as a JSON text. -/
def toText (w : Workflow) : String := Json.write w.toDocument

end Workflow

end MailMerge
