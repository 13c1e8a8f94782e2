import MailMerge.Template.Reference
import MailMerge.Workflow.Basic

/-!
# Names within a workflow

Columns and attributes share one space of names. Within an action conditions have names
of their own; one that is not the filter is bound beside columns and attributes, so it
may not share a name with them. Renaming a column or attribute follows it into every
formula, text and form.
-/

namespace MailMerge

/-- Which rule about names is broken. -/
inductive NameError where
  | repeatedColumn (name : String)
  | attributeIsColumn (name : String)
  | severalFilters (action : String)
  | repeatedCondition (action name : String)
  | conditionTaken (name action : String)
  | inUse (name : String)
  | unknown (name : String)
deriving DecidableEq, Repr

def NameError.message : NameError → String
  | .repeatedColumn name => "duplicate column name " ++ Text.quoted name
  | .attributeIsColumn name =>
    "attribute " ++ Text.quoted name ++ " has the same name as a column"
  | .severalFilters action => "action " ++ Text.quoted action ++ " has more than one filter"
  | .repeatedCondition action name =>
    "action " ++ Text.quoted action ++ " has two conditions named " ++ Text.quoted name
  | .conditionTaken name action =>
    "condition " ++ Text.quoted name ++ " in action " ++ Text.quoted action
      ++ " has the same name as a column or attribute"
  | .inUse name => "name " ++ Text.quoted name ++ " is already in use"
  | .unknown name => "no column or attribute named " ++ Text.quoted name

namespace Workflow

/-- The first name that occurs again after the names seen, in the order of repetitions. -/
def repeated? (seen : List String) : List String → Option String
  | [] => none
  | n :: ns => if seen.contains n then some n else repeated? (n :: seen) ns

/-- The names of columns and attributes. -/
def variableNames (w : Workflow) : List String := w.columnNames ++ w.attributes.map (·.1)

/-- Checks conditions one by one; `seen` are the names of those before. -/
def checkConditions (taken : List String) (action : String) (seen : List String) :
    List Condition → Except NameError Unit
  | [] => .ok ()
  | c :: rest => do
    if seen.contains c.name then throw (.repeatedCondition action c.name)
    if !c.isFilter && taken.contains c.name then throw (.conditionTaken c.name action)
    checkConditions taken action (c.name :: seen) rest

def checkAction (taken : List String) (a : Action) : Except NameError Unit := do
  if 1 < (a.conditions.filter (·.isFilter)).length then throw (.severalFilters a.name)
  checkConditions taken a.name [] a.conditions

/-- Checks the rules about names: columns first, then attributes, then each action. -/
def validate (w : Workflow) : Except NameError Unit := do
  if let some name := repeated? [] w.columnNames then throw (.repeatedColumn name)
  if let some name := (w.attributes.map (·.1)).find? w.columnNames.contains then
    throw (.attributeIsColumn name)
  w.actions.forM (checkAction w.variableNames)

end Workflow

-- ---------------------------------------------------------------------------
-- Renaming
-- ---------------------------------------------------------------------------

/-- The action with a variable renamed in its text, its formulas and its form. -/
def Action.rename (old new : String) (a : Action) : Action :=
  { a with
    content := Reference.rename old new a.content
    conditions := a.conditions.map fun c => { c with formula := c.formula.rename old new }
    columns := a.columns.map fun c => if c.name == old then { c with name := new } else c }

namespace Workflow

/-- Renames the first column of a given name. -/
def renameColumns (old new : String) : List Column → List Column
  | [] => []
  | c :: rest =>
    if c.name == old then { c with name := new } :: rest else c :: renameColumns old new rest

/-- Renames a column or else an attribute, and every mention of it. A name that is in use
cannot be taken, and one that nothing has cannot be given up. -/
def rename (w : Workflow) (old new : String) : Except NameError Workflow :=
  if old == new then .ok w
  else if w.variableNames.contains new then .error (.inUse new)
  else
    let actions := w.actions.map (Action.rename old new)
    if (w.column? old).isSome then
      .ok { w with columns := renameColumns old new w.columns, actions }
    else
      match w.attributes.get? old with
      | some v =>
        let others := w.attributes.filter fun e => e.1 != old
        .ok { w with attributes := Sorted.insert (new, v) others, actions }
      | none => .error (.unknown old)

-- ---------------------------------------------------------------------------
-- Renaming in place
-- ---------------------------------------------------------------------------

/-- Something that is done to a workflow. It may fail half way, and what was done until then
stays. -/
abbrev Editing (α : Type) := EStateM NameError Workflow α

/-- Takes an attribute away and gives its value, if it is there. -/
def takeAttribute (name : String) : Editing (Option Value) :=
  modifyGet fun w =>
    (w.attributes.get? name, { w with attributes := w.attributes.filter fun e => e.1 != name })

/-- Renames a column or else an attribute, and then every mention of it. -/
def renameInPlace (old new : String) : Editing Unit := do
  if old == new then return
  if (← get).variableNames.contains new then throw (.inUse new)
  if ((← get).column? old).isSome then
    modify fun w => { w with columns := renameColumns old new w.columns }
  else
    match ← takeAttribute old with
    | some v => modify fun w => { w with attributes := Sorted.insert (new, v) w.attributes }
    | none => throw (.unknown old)
  modify fun w => { w with actions := w.actions.map (Action.rename old new) }

end Workflow

end MailMerge
