import MailMerge.Settings.Basic

/-!
# Commands

What the program can be asked for on its command line, the files it reads for that, and
what comes out.
-/

namespace MailMerge

/-- What is asked of a formula. -/
inductive FormulaMode where
  | bool
  | sql
  | text
deriving DecidableEq, Inhabited, Repr

def FormulaMode.ofName? : String → Option FormulaMode
  | "bool" => some .bool
  | "sql" => some .sql
  | "text" => some .text
  | _ => none

/-- Where a workflow and its rows come from, and which action is meant. -/
structure Source where
  workflow : String
  rows : String
  /-- The first action of the workflow, unless one is named. -/
  action : Option String := none
deriving DecidableEq, Inhabited, Repr

structure PreviewOptions where
  index : Option Nat := none
  key : Option String := none
  keyColumn : Option String := none
  /-- A text in place of that of the action. -/
  text : Option String := none
deriving DecidableEq, Inhabited, Repr

inductive Command where
  | identifiers (names : List String)
  | formula (path : String) (mode : FormulaMode) (context : Option String)
  | run (source : Source) (subject keyColumn : Option String) (excluded : List String)
  | preview (source : Source) (options : PreviewOptions)
  | count (source : Source)
deriving DecidableEq, Inhabited, Repr

structure Invocation where
  config : Option String := none
  json : Bool := false
  /-- Without a command only the usage is shown. -/
  command : Option Command := none
deriving DecidableEq, Inhabited, Repr

/-- Why a file cannot be read. -/
inductive FileError where
  | missing
  | directory
  | other (reason : String)
deriving DecidableEq, Repr

def FileError.message : FileError → String
  | .missing => "No such file or directory (os error 2)"
  | .directory => "Is a directory (os error 21)"
  | .other reason => reason

/-- Files by their paths. -/
abbrev Files := String → Except FileError String

/-- What a program leaves behind. -/
structure Outcome where
  code : Nat := 0
  stdout : String := ""
  stderr : String := ""
deriving DecidableEq, Inhabited, Repr

namespace Invocation

/-- The paths of the files that are read. -/
def paths (i : Invocation) : List String :=
  i.config.toList ++
    match i.command with
    | some (.formula path _ context) => path :: context.toList
    | some (.run source _ _ _) => [source.workflow, source.rows]
    | some (.preview source _) => [source.workflow, source.rows]
    | some (.count source) => [source.workflow, source.rows]
    | _ => []

end Invocation

end MailMerge
