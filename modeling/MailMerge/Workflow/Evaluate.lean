import MailMerge.Formula.Truth
import MailMerge.Workflow.Document
import MailMerge.Workflow.Selection

/-!
# Carrying out an action

For every selected row the conditions of an action are evaluated, and its text is
rendered with the cells of the row, the conditions and the attributes of the workflow
bound. A later source hides an earlier one. The first failure ends the run, and nothing
of it is returned.
-/

namespace MailMerge

/-- What is asked for besides the text of an action. -/
structure EvaluateOptions where
  /-- A second text, rendered for each row as well. -/
  subject : Option String := none
  /-- The column whose value goes with each text. -/
  keyColumn : Option String := none
  /-- Keys of rows that are passed over. -/
  excluded : List String := []
  render : RenderOptions := {}
deriving Inhabited

/-- What a row becomes. -/
structure RenderedRecord where
  body : String
  subject : Option String := none
  key : Option Value := none
deriving DecidableEq, Inhabited

/-- A record is written as a list of what there is of it. -/
def RenderedRecord.toDocument (r : RenderedRecord) : Document :=
  .list (.text r.body :: ((r.subject.map .text).toList ++ (r.key.map Value.toDocument).toList))

/-- How a key is compared with the excluded ones: a double keeps its point. -/
def Value.exclusionKey : Value → String
  | .double d => d.write .key
  | v => v.display

namespace Action

/-- The action as a text sees it. -/
def toDatum (a : Action) : Datum := Datum.ofDocument a.toDocument

/-- A condition together with what it is of a row. -/
def flag (row : Context) (c : Condition) : Except ActionError (String × Value) :=
  match c.formula.isTrue (some row) with
  | .ok b => .ok (c.name, .bool b)
  | .error e => .error (.condition c.name e)

end Action

namespace Workflow

/-- What the text of an action finds bound for a row. -/
def rowContext (w : Workflow) (a : Action) (row : Context) : Except ActionError Context := do
  let flags ← a.namedConditions.mapM (Action.flag row)
  return (row.insertAll flags).insertAll w.attributes

/-- The key column, if it is one of the columns. -/
def keyColumn? (w : Workflow) (options : EvaluateOptions) : Option String :=
  options.keyColumn.filter w.columnNames.contains

/-- The record of a row, `none` when its key is excluded. -/
def evaluateRow (w : Workflow) (a : Action) (options : EvaluateOptions) (cells : Row) :
    Except ActionError (Option RenderedRecord) := do
  let row := cells.toContext w.columnNames
  let key := (w.keyColumn? options).bind row.get?
  if key.any fun v => options.excluded.contains v.exclusionKey then return none
  let context ← w.rowContext a row
  let body ← (Render.renderAction options.render a.content context a.toDatum).mapError .ofText
  let subject ← match options.subject with
    | none => pure none
    | some text => some <$> (Render.render options.render text context).mapError .ofSubject
  return some { body, subject, key }

/-- The records of all selected rows, in order. -/
def evaluate (w : Workflow) (a : Action) (s : Store) (options : EvaluateOptions) :
    Except ActionError (List RenderedRecord) := do
  let rows ← ofStore (s.rows w.id a.filterFormula? w.columnNames)
  return (← rows.mapM (w.evaluateRow a options)).filterMap fun r => r

end Workflow

-- ---------------------------------------------------------------------------
-- Single rows
-- ---------------------------------------------------------------------------

/-- What the text of an action looks like for one row. -/
inductive Preview where
  | text (s : String)
  /-- The text cannot be read; a notice stands in its place. -/
  | malformed
deriving DecidableEq, Inhabited

namespace Action

/-- Renders a text for a context, in place of the text of the action if one is given.
Without a row there is nothing to see. -/
def preview (a : Action) (context : Option Context) (text : Option String)
    (options : RenderOptions) : Except ActionError (Option Preview) :=
  match context with
  | none => .ok none
  | some c =>
    if a.isInput then .error (.isInput a.name)
    else
      match Render.renderAction options (text.getD a.content) c a.toDatum with
      | .ok s => .ok (some (.text s))
      | .error .malformed => .ok (some .malformed)
      | .error e => .error (.ofText e)

/-- The columns of a form with the values they have in a row. -/
def inputs (a : Action) (row : Context) : Except ActionError (List (String × Value)) :=
  if a.isInput then
    a.activeColumns.mapM fun c =>
      match row.get? c.name with
      | some v => .ok (c.name, v)
      | none => .error (.missingColumn c.name)
  else .error (.notInput a.name)

end Action

end MailMerge
