import MailMerge.Template.Expr.Basic

/-!
# Templates as trees

A template is a list of nodes: text, printed expressions and statements.
-/

namespace MailMerge

/-- What a datum is bound to: a name, a name in a namespace, or several targets for the
items of a list. -/
inductive Target where
  | name (s : String)
  | attribute (owner : Expr) (name : String)
  | tuple (ts : List Target)
deriving Inhabited

inductive Node where
  | text (s : String)
  | print (e : Expr)
  | branch (test : Expr) (yes no : List Node)
  | loop (target : Target) (source : Expr) (only : Option Expr) (recursive : Bool)
      (body otherwise : List Node)
  | set (target : Target) (e : Expr)
  | capture (target : Target) (filters : List FilterCall) (body : List Node)
  | scope (bindings : List (Target × Expr)) (body : List Node)
  | filtered (filters : List FilterCall) (body : List Node)
  | escaping (mode : Expr) (body : List Node)
  | block (name : String) (required : Bool) (body : List Node)
  /-- Declares a routine; the last parameters have default values. -/
  | routine (name : String) (params : List String) (defaults : List Expr) (body : List Node)
  /-- Prints a call that is given a body of its own to call. -/
  | callWith (call : Expr) (params : List String) (defaults : List Expr) (body : List Node)
  /-- Evaluates an expression and prints nothing. -/
  | discard (e : Expr)
  /-- Puts another template here. -/
  | insert (e : Expr) (optional : Bool)
  /-- Puts this template into another. -/
  | extend (e : Expr)
  /-- Binds what another template declares. -/
  | use (e : Expr) (target : Target)
  /-- Binds some of what another template declares. -/
  | useNames (e : Expr) (names : List String)
deriving Inhabited

/-- A routine as it is declared. -/
structure Routine where
  name : String
  params : List String
  defaults : List Expr
  body : List Node
deriving Inhabited

/-- A block of a template. -/
structure Block where
  name : String
  required : Bool
  body : List Node
deriving Inhabited

namespace Node

mutual

/-- The blocks of a node, those inside other blocks included. -/
def blocks : Node → List Block
  | .branch _ yes no => blocksOf yes ++ blocksOf no
  | .loop _ _ _ _ body otherwise => blocksOf body ++ blocksOf otherwise
  | .capture _ _ body => blocksOf body
  | .scope _ body => blocksOf body
  | .filtered _ body => blocksOf body
  | .escaping _ body => blocksOf body
  | .block name required body => ⟨name, required, body⟩ :: blocksOf body
  | _ => []

def blocksOf : List Node → List Block
  | [] => []
  | n :: ns => blocks n ++ blocksOf ns

end

end Node

end MailMerge
