import MailMerge.Formula.Basic
import MailMerge.Table.Column
import MailMerge.Value.Sorted

/-!
# Workflows

A workflow describes a table by its columns, gives constants that all its texts share,
and defines actions. An action that goes out is a text for every selected row; one that
comes in is a form for some columns. Conditions are named formulas: one of them may be
the filter that selects rows, the others are true or false of each row.
-/

namespace MailMerge

structure Condition where
  name : String
  description : String := ""
  formula : Formula
  isFilter : Bool := false
  /-- How many rows it selected when they were last counted. -/
  selectedRows : Option Nat := none
deriving Inhabited

inductive ActionKind where
  | out
  | input
deriving DecidableEq, Inhabited, Repr

/-- A column of a form. -/
structure ActionColumn where
  name : String
  isActive : Bool := true
deriving DecidableEq, Inhabited, Repr

structure Action where
  name : String
  kind : ActionKind := .out
  /-- The text for a row. -/
  content : String := ""
  description : String := ""
  conditions : List Condition := []
  columns : List ActionColumn := []
deriving Inhabited

structure Workflow where
  id : Int64
  name : String := ""
  columns : List Column := []
  /-- Constants, in the order of their names. -/
  attributes : Context := []
  actions : List Action := []
deriving Inhabited

namespace Action

def isInput (a : Action) : Bool := a.kind == .input

/-- The condition that selects rows; the first one marked. -/
def filter? (a : Action) : Option Condition := a.conditions.find? (·.isFilter)

/-- The formula that selects rows, if there is one. -/
def filterFormula? (a : Action) : Option Formula := a.filter?.map (·.formula)

/-- The conditions that are asked of each row. -/
def namedConditions (a : Action) : List Condition := a.conditions.filter fun c => !c.isFilter

/-- The columns the form shows. -/
def activeColumns (a : Action) : List ActionColumn := a.columns.filter (·.isActive)

end Action

namespace Workflow

def columnNames (w : Workflow) : List String := w.columns.map (·.name)

def column? (w : Workflow) (name : String) : Option Column := w.columns.find? (·.name == name)

def action? (w : Workflow) (name : String) : Option Action := w.actions.find? (·.name == name)

/-- Changes the first action of a given name in a list. -/
def modifyFirst (name : String) (f : Action → Action) : List Action → List Action
  | [] => []
  | a :: rest => if a.name == name then f a :: rest else a :: modifyFirst name f rest

/-- Changes the first action of a given name. -/
def modifyAction (w : Workflow) (name : String) (f : Action → Action) : Workflow :=
  { w with actions := modifyFirst name f w.actions }

end Workflow

end MailMerge
