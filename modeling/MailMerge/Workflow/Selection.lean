import MailMerge.Store.Basic
import MailMerge.Workflow.Error

/-!
# Rows an action applies to

One row is picked by its number among those the filter selects, or by the value of a
column. Counting refreshes how many rows each condition selects together with the
filter.
-/

namespace MailMerge

/-- How one row is picked. -/
inductive RowSelector where
  /-- By its number among the selected rows, counted from one. -/
  | index (n : Nat)
  /-- The first selected row with a value in a column. -/
  | key (column : String) (v : Value)
deriving DecidableEq, Inhabited

/-- Reads from a store on behalf of an action. -/
def ofStore {α : Type} (result : Except StoreError α) : Except ActionError α :=
  result.mapError .store

namespace Workflow

/-- The row a selector picks, by the names of the columns. -/
def selectedRow (w : Workflow) (a : Action) (s : Store) (selector : RowSelector) :
    Except ActionError (Option Context) := do
  let row ← ofStore <| match selector with
    | .index n => s.rowAt w.id a.filterFormula? n w.columnNames
    | .key column v => s.rowByKey w.id a.filterFormula? column v w.columnNames
  return row.map fun r => r.toContext w.columnNames

end Workflow

namespace Action

/-- The formula whose rows are counted for a condition. -/
def countedFormula (filter : Option Formula) (c : Condition) : Formula :=
  match filter with
  | some f => if c.isFilter then c.formula else .and [f, c.formula]
  | none => c.formula

/-- Counts for one condition after the other, up to the first that fails. -/
def countConditions (s : Store) (id : Int64) (filter : Option Formula) :
    List Condition → List Condition × Except ActionError Unit
  | [] => ([], .ok ())
  | c :: rest =>
    match s.countRows id (some (countedFormula filter c)) with
    | .error e => (c :: rest, .error (.store e))
    | .ok n =>
      let (counted, result) := countConditions s id filter rest
      ({ c with selectedRows := some n } :: counted, result)

/-- Refreshes the counts of an action. What was counted before a failure is kept. -/
def countRows (a : Action) (s : Store) (id : Int64) : Action × Except ActionError Unit :=
  let (conditions, result) := countConditions s id a.filterFormula? a.conditions
  ({ a with conditions }, result)

end Action

end MailMerge
