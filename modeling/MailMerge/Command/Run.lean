import MailMerge.Command.Arguments
import MailMerge.Formula.Describe
import MailMerge.Store.Import
import MailMerge.Template.Name
import MailMerge.Workflow.Evaluate

/-!
# Carrying out a command

A command reads its files, asks the library and lays out the answer, as text or as a
document. When something fails, nothing but a message is left: what went wrong, from the
outside in.
-/

namespace MailMerge

/-- Why a command fails: a message for every layer, from the outside in. -/
abbrev Failure := List String

namespace Failure

/-- An error that quotes its cause is named with it, and the cause again. -/
def ofStore (e : StoreError) : Failure :=
  match e with
  | .filter f => [e.message, f.message]
  | e => [e.message]

def ofAction : ActionError → Failure
  | .condition name f => [(ActionError.condition name f).message, f.message]
  | .store e => ofStore e
  | e => [e.message]

/-- The failure with its causes. -/
def text (f : Failure) : String := String.intercalate ": " f

end Failure

namespace Command

-- ---------------------------------------------------------------------------
-- Output
-- ---------------------------------------------------------------------------

def line (s : String) : String := s ++ "\n"

/-- A document with one item a line. -/
def document (d : Document) : String := line (Json.writeLines d)

/-- A name with blanks behind it. -/
def padded (width : Nat) (name : String) : String :=
  name ++ String.ofList (List.replicate (width - name.length) ' ')

/-- Names and texts in two columns, as wide as the longest name is in bytes. -/
def pairs (entries : List (String × String)) : String :=
  let width := entries.foldl (fun n e => max n e.1.utf8ByteSize) 0
  String.join (entries.map fun e => line (padded width e.1 ++ "  " ++ e.2))

/-- Entries as a document in the order of their names. -/
def sortedDocument (entries : List (String × Document)) : String :=
  document (.record (Sorted.ofEntries entries))

-- ---------------------------------------------------------------------------
-- Input
-- ---------------------------------------------------------------------------

/-- The text of a file; `what` is said when it cannot be read. -/
def readFile (files : Files) (what path : String) : Except Failure String :=
  (files path).mapError fun e => ["failed to read " ++ what ++ ": " ++ path, e.message]

/-- A workflow with its rows. -/
structure Loaded where
  workflow : Workflow
  store : Store

def loadWorkflow (files : Files) (path : String) : Except Failure Workflow := do
  let text ← readFile files "workflow" path
  match (Yaml.read? text).bind (Workflow.ofDocument? .yaml) with
  | none => throw ["invalid workflow: " ++ path, "not a workflow"]
  | some w =>
    w.validate.mapError fun e => ["validation error: " ++ e.message]
    return w

def load (files : Files) (source : Source) : Except Failure Loaded := do
  let workflow ← loadWorkflow files source.workflow
  let text ← readFile files "rows" source.rows
  match Store.empty.importText workflow.id workflow.columns text with
  | (store, .ok _) => return { workflow, store }
  | (_, .error e) => throw (("failed to load rows from " ++ source.rows) :: Failure.ofStore e)

/-- The action that is meant. -/
def Loaded.action (l : Loaded) (name : Option String) : Except Failure Action :=
  match name with
  | some name =>
    match l.workflow.action? name with
    | some a => .ok a
    | none => .error ["workflow has no action named " ++ Text.quoted name]
  | none =>
    match l.workflow.actions.head? with
    | some a => .ok a
    | none => .error ["workflow defines no actions"]

-- ---------------------------------------------------------------------------
-- Commands
-- ---------------------------------------------------------------------------

def showIdentifiers (json : Bool) (names : List String) : String :=
  let entries := names.map fun n => (n, Name.identifier n)
  if json then sortedDocument (entries.map fun e => (e.1, .text e.2))
  else
    match entries with
    | [e] => line e.2
    | _ => pairs entries

/-- A predicate and its values. -/
def showPredicate (settings : Settings) (json : Bool) (p : Option Predicate) : String :=
  let text := Predicate.write? settings.placeholder p
  let values := (Predicate.values? p).map Value.toDocument
  if json then document (.record [("params", .list values), ("sql", .text text)])
  else
    let numbered := values.zipIdx.map fun (v, i) =>
      line ("  $" ++ toString (i + 1) ++ " = " ++ Json.write v)
    line text ++ String.join numbered

/-- The variables of a context file. -/
def loadContext (files : Files) (path : String) : Except Failure Context := do
  let text ← readFile files "context" path
  match (Json.read? text).bind fun d =>
      match d with
      | .record _ => Store.recordOf? d
      | _ => none with
  | some c => return c
  | none => throw ["context must be a JSON object: " ++ path, "not an object of values"]

def answerFormula (files : Files) (settings : Settings) (json : Bool) (path : String)
    (mode : FormulaMode) (contextPath : Option String) : Except Failure String := do
  let text ← readFile files "formula" path
  let f ← (Formula.ofText text).mapError fun e => ["invalid formula: " ++ path, e.message]
  let context ← contextPath.mapM (loadContext files)
  match mode with
  | .bool =>
    let b ← (f.isTrue context).mapError fun e => [e.message]
    return if json then document (.record [("result", .bool b)])
      else line (if b then "true" else "false")
  | .sql =>
    let p ← (f.compile none).mapError fun e => [e.message]
    return showPredicate settings json p
  | .text =>
    let text ← f.describe.mapError fun e => [e.message]
    return if json then document (.record [("text", .text text)]) else line text

def renderRows (files : Files) (settings : Settings) (source : Source)
    (subject keyColumn : Option String) (excluded : List String) : Except Failure String := do
  let l ← load files source
  let a ← l.action source.action
  let options : EvaluateOptions := { subject, keyColumn, excluded, render := settings.render }
  let records ← (l.workflow.evaluate a l.store options).mapError Failure.ofAction
  return document (.list (records.map RenderedRecord.toDocument))

/-- How the row is picked: by a key and its column if both are given, else by its number. -/
def selectorOf (w : Workflow) (o : PreviewOptions) : Except Failure RowSelector :=
  match o.key, o.keyColumn with
  | some key, some column =>
    match w.column? column with
    | none => .error ["workflow has no column named " ++ Text.quoted column]
    | some c =>
      match c.dataType.coerce? (.text key) with
      | some v => .ok (.key column v)
      | none => .error [Text.quoted key ++ " is not a valid " ++ c.dataType.name]
  | _, _ => .ok (.index (o.index.getD 1))

def describeSelector : RowSelector → String
  | .index n => "index " ++ toString n
  | .key column v => column ++ " = " ++ v.display

/-- What stands in place of a text that cannot be read. -/
def previewText : Option Preview → String
  | some (.text s) => s
  | some .malformed => Html.syntaxErrorNotice RenderError.malformed.message
  | none => ""

def renderRow (files : Files) (settings : Settings) (json : Bool) (source : Source)
    (o : PreviewOptions) : Except Failure String := do
  let l ← load files source
  let a ← l.action source.action
  let selector ← selectorOf l.workflow o
  match ← (l.workflow.selectedRow a l.store selector).mapError Failure.ofAction with
  | none => throw ["no selected row matches " ++ describeSelector selector]
  | some row =>
    if a.isInput then
      let values ← (a.inputs row).mapError Failure.ofAction
      return if json then sortedDocument (values.map fun e => (e.1, e.2.toDocument))
        else pairs (values.map fun e => (e.1, e.2.display))
    else
      let context ← (l.workflow.rowContext a row).mapError Failure.ofAction
      let p ← (a.preview (some context) o.text settings.render).mapError Failure.ofAction
      let text := previewText p
      return if json then document (.record [("action", .text a.name), ("text", .text text)])
        else line text

def countConditions (files : Files) (json : Bool) (source : Source) : Except Failure String := do
  let l ← load files source
  let a ← l.action source.action
  let (counted, result) := a.countRows l.store l.workflow.id
  result.mapError Failure.ofAction
  let counts := counted.conditions.map fun c => (c.name, c.selectedRows.getD 0)
  return if json then sortedDocument (counts.map fun e => (e.1, .int e.2))
    else pairs (counts.map fun e => (e.1, toString e.2))

/-- What a command prints. -/
def output (files : Files) (settings : Settings) (json : Bool) : Command → Except Failure String
  | .identifiers names => .ok (showIdentifiers json names)
  | .formula path mode context => answerFormula files settings json path mode context
  | .run source subject keyColumn excluded =>
    renderRows files settings source subject keyColumn excluded
  | .preview source options => renderRow files settings json source options
  | .count source => countConditions files json source

end Command

-- ---------------------------------------------------------------------------
-- The program
-- ---------------------------------------------------------------------------

namespace Program

def version : String := "0.1.0"

def usage : String :=
  "OnTask personalization engine\n\nUsage: ot [OPTIONS] [COMMAND]\n\nCommands:\n"
    ++ "  translate  Translate variable names into template-safe identifiers\n"
    ++ "  formula    Evaluate a rule formula as a boolean, a SQL predicate or a description\n"
    ++ "  run        Render an action for every selected row\n"
    ++ "  preview    Render an action for a single row\n"
    ++ "  count      Count the rows selected by each condition of an action\n"

/-- The settings of an invocation. A configuration that is not there has no say. -/
def settings (files : Files) (environment : List (String × String)) (config : Option String) :
    Except Failure Settings :=
  let file := match config with
    | none => none
    | some path => (files path).toOption
  match Settings.load? file environment with
  | some s => .ok s
  | none =>
    .error [match config with
      | some path => "failed to load config from " ++ path
      | none => "failed to load config", "invalid configuration"]

/-- What an invocation prints. -/
def output (files : Files) (environment : List (String × String)) (i : Invocation) :
    Except Failure String := do
  let s ← settings files environment i.config
  match i.command with
  | none => return usage ++ "\n"
  | some c => c.output files s i.json

/-- A failure as it is reported. -/
def report (json : Bool) (f : Failure) : String :=
  if json then Command.document (.record [("error", .text f.text)])
  else Command.line ("Error: " ++ f.text)

/-- The variable that names a configuration. -/
def configVariable : String := "ONTASK_CONFIG"

/-- The invocation of a command line. -/
def invocation (environment : List (String × String)) (args : List String) :
    Except Arguments.Stopped Invocation :=
  Arguments.read (List.lookup configVariable environment) args

/-- The outcome of a command line that is not carried out. -/
def stopped : Arguments.Stopped → Outcome
  | (.help, _) => { stdout := usage }
  | (.version, name) => { stdout := name ++ " " ++ version ++ "\n" }
  | (.usage, _) => { code := 2, stderr := usage }

/-- The outcome of an invocation. -/
def outcome (files : Files) (environment : List (String × String)) (i : Invocation) : Outcome :=
  match output files environment i with
  | .ok s => { stdout := s }
  | .error f => { code := 1, stderr := report i.json f }

/-- The outcome of a command line. -/
def run (files : Files) (environment : List (String × String)) (args : List String) : Outcome :=
  match invocation environment args with
  | .error s => stopped s
  | .ok i => outcome files environment i

end Program

end MailMerge
